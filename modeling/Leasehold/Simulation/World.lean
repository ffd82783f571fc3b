import Leasehold.Session.Lock
import Leasehold.Simulation.Script
import Leasehold.Store
/-!
Sessions on a simulated clock, before a store in memory that they share.

1. The clock counts whole milliseconds. It moves only while something is waited for, and then jumps
   from one due time to the next. What is due between two milliseconds happens at the second one.
2. Each party has a label, a script for its requests, a log of its manager's calls, and at most one
   session. Requests that take time are `Flight`s.
3. Work that was asked for from outside, such as an attempt to lock a key, is a `Job`. A job may run
   in the background, be waited for, and be cancelled.
-/
namespace Leasehold.Simulation

/-- A time on the simulated clock, in milliseconds. -/
abbrev Millis := Nat

/-- The first whole millisecond that is not before a time. -/
def ceilMillis (time : Instant) : Millis := (time + 999999) / 1000000

/-- A whole millisecond as a point in time. -/
def instantOf (time : Millis) : Instant := time * 1000000

/-- What a session looks like from outside. -/
structure View where
  /-- The id of its lease. -/
  id : String
  /-- The name of its leases. -/
  name : String
  /-- The TTL of its leases. -/
  ttl : Duration
  /-- Where it is in its life. -/
  state : SessionState

/-- What a session looks like from outside. -/
def viewOf (session : Session) : View := ⟨session.id, session.name, session.ttl, session.state⟩

/-- What is asked of a session, of a signal or of a manager from outside. -/
inductive Operation where
  | acquire (label key : String) (value : List UInt8)
  | release (label key : String)
  | destroy (label : String)
  | recreate (label : String)
  /-- Wait for a signal, but not longer than a while. -/
  | recv (signal : String) (wait : Duration)
  /-- A call of a party's manager. -/
  | manage (label : String) (call : Manager.Call)

/-- How a job or a step ends. -/
inductive Answer where
  | nothing
  | view (view : View)
  | opened (result : Except Error View)
  | acquired (result : Except Error Unit)
  | released (result : Except Error Bool)
  | recreated (result : Except Error Unit) (view : View)
  | managed (reply : Manager.Reply)
  | served (request : Backend.Request) (result : request.Outcome)
  /-- A signal that was waited for. -/
  | received (outcome : Option Error)
  /-- A signal that was looked at, and whether it has settled. -/
  | seen (outcome : Option (Option Error)) (isSettled : Bool)
  | counts (created renewed destroyed : Nat)
  | creation (arguments : Option (String × Duration))
  | destruction (id : Option String)
  | number (value : Nat)
  | flag (value : Bool)
  /-- The job has not ended yet. -/
  | pending
  /-- The signal has not settled in time. -/
  | timeout
  /-- The step has taken too long. -/
  | stepTimeout

/-- What a job is doing. Sessions are given by their numbers. -/
inductive Work where
  | acquiring (session : Nat) (key id : String)
  | releasing (session : Nat)
  /-- It waits for a call of `destroy` or `recreate`. -/
  | transition (session caller : Nat)
  | receiving (session : Nat) (observer : Observer) (deadline : Millis)
  | managing
  /-- It makes a session for a party. -/
  | opening (label name : String) (ttl : Duration) (settings : SessionSettings)

/-- A job. -/
inductive Job where
  | running (work : Work)
  | ended (answer : Answer)
  | cancelled

/-- Who waits for the answer to a request. -/
inductive Waiter where
  /-- A task of a session. -/
  | task (session : Nat) (task : Session.Task)
  | job (index : Nat)
deriving DecidableEq

/-- What is still to come of a request that takes time. -/
inductive Stage (request : Backend.Request) where
  /-- It will be passed on. -/
  | before (due : Millis)
  /-- It will be answered. -/
  | after (due : Millis) (result : request.Outcome)
  /-- Nothing. -/
  | never

/-- A request that takes time. -/
structure Flight where
  /-- The party that made it. -/
  label : String
  /-- Who waits for its answer. -/
  waiter : Waiter
  /-- The request. -/
  request : Backend.Request
  /-- What is still to come. -/
  stage : Stage request

/-- A request with its answer. -/
structure Reply where
  request : Backend.Request
  result : request.Outcome

/-- What is recorded of a request. -/
inductive Record where
  /-- It was made. If it takes time, there is no result yet. -/
  | made (time : Millis) (label : String) (request : Backend.Request)
    (result : Option request.Outcome)
  /-- A request that took time was answered. -/
  | done (time : Millis) (label : String) (request : Backend.Request) (result : request.Outcome)

/-- When a record was made. -/
def Record.time : Record → Millis
  | .made time _ _ _ => time
  | .done time _ _ _ => time

/-- The party that a record is about. -/
def Record.label : Record → String
  | .made _ label _ _ => label
  | .done _ label _ _ => label

/-- A party. -/
structure Party where
  /-- Its label. -/
  label : String
  /-- What is done with its next requests. -/
  script : Script := []
  /-- The calls of its manager. -/
  log : Manager.CallLog := {}
  /-- The number of its session, if it has one. -/
  session : Option Nat := none

/-! ## Marks

The ids of leases must differ from all texts from outside, also from those that look like them. They
begin with a mark that is none of these texts' parts, and are shown without it. -/

/-- The character that marks are made of. -/
def markLetter : Char := '\uFFFF'

/-- The length of the longest run of marking letters in a text, and of the run at its beginning. -/
def markRuns : List Char → Nat × Nat
  | [] => (0, 0)
  | c :: rest =>
    let (longest, current) := markRuns rest
    if c = markLetter then (max longest (current + 1), current + 1) else (longest, 0)

/-- A mark that stands in none of the texts. -/
def markFor (texts : List String) : String :=
  let runs := texts.map fun text => (markRuns text.toList).1
  String.ofList (List.replicate (runs.foldl max 0 + 1) markLetter)

/-- Characters without the places where a mark stands. -/
def withoutMark (mark : List Char) : List Char → List Char
  | [] => []
  | c :: rest =>
    let shown := withoutMark mark rest
    if mark.isPrefixOf (c :: rest) then shown.drop (mark.length - 1) else c :: shown

/-- A text as it is shown. -/
def shownText (mark text : String) : String :=
  String.ofList (withoutMark mark.toList text.toList)

example : markFor ["a", "\uFFFFL1"] = "\uFFFF\uFFFF" := by decide +kernel
example : shownText "\uFFFF\uFFFF" "\uFFFFL1 \uFFFF\uFFFFL1" = "\uFFFFL1 L1" := by decide +kernel

/-- Everything in a simulation. -/
structure World where
  /-- What stands in front of the ids of the leases that the store makes, and in no text from
  outside. -/
  mark : String
  /-- The time. -/
  now : Millis := 0
  /-- The store that all parties share. -/
  store : Store := {}
  /-- How many leases the store has made. -/
  minted : Nat := 0
  parties : List Party := []
  /-- All sessions that were ever made, with the labels of the parties that they were made for. -/
  sessions : List (String × Session) := []
  /-- The requests that take time. -/
  flights : List Flight := []
  /-- Answers that have not reached those who wait for them. -/
  deliveries : List (Waiter × Reply) := []
  /-- All jobs that were ever begun. -/
  jobs : List Job := []
  /-- The names of jobs, the latest first. -/
  jobNames : List (String × Nat) := []
  /-- The names of observers, the latest first, with the sessions that they observe. -/
  observers : List (String × Nat × Observer) := []
  /-- What was recorded since the last step, the latest first. -/
  records : List Record := []

namespace World

/-- The time as a point in time. -/
def instant (world : World) : Instant := instantOf world.now

/-- The time after a while, at the next whole millisecond. -/
def after (world : World) (wait : Duration) : Millis := world.now + ceilMillis wait.nanos

/-- The id of the lease that the store makes as the one with this number. -/
def leaseId (world : World) (number : Nat) : String :=
  world.mark ++ String.ofList ('L' :: Nat.toDigits 10 number)

/-- The id that an id from outside stands for. A number after an "L" is that of a lease, with a plus
sign and leading zeros or without, if the store has made so many; every other id stands for itself. -/
def resolve (world : World) (id : String) : String :=
  match id.toList with
  | 'L' :: text =>
    let digits := if text.head? = some '+' then text.tail else text
    let number := digits.foldl (fun value c => value * 10 + (c.toNat - '0'.toNat)) 0
    if digits.all Char.isDigit ∧ 0 < number ∧ number ≤ world.minted then world.leaseId number else id
  | _ => id

/-- The party with this label, which may be a new one. -/
def party (world : World) (label : String) : Party :=
  (world.parties.find? (·.label == label)).getD { label }

/-- Puts a party in place of the one with the same label. -/
def setParty (world : World) (party : Party) : World :=
  { world with
    parties := party :: world.parties.filter (·.label != party.label) }

/-- The number and the state of a party's session. -/
def session? (world : World) (label : String) : Option (Nat × Session) := do
  let index ← (world.party label).session
  let (_, session) ← world.sessions[index]?
  some (index, session)

/-- Adds a record. -/
def record (world : World) (entry : Record) : World :=
  { world with records := entry :: world.records }

/-! ## Requests -/

/-- Has the store serve a request. -/
def serve (world : World) (request : Backend.Request) : request.Outcome × World :=
  let (result, store) :=
    world.store.serve .oldestFirst world.instant (world.leaseId (world.minted + 1)) request
  let minted := match request, result with
    | .create _ _, .ok _ => world.minted + 1
    | _, _ => world.minted
  (result, { world with store, minted })

/-- Answers a request at once. -/
def replyNow (world : World) (label : String) (waiter : Waiter) (request : Backend.Request)
    (result : request.Outcome) : World :=
  { world.record (.made world.now label request (some result)) with
    deliveries := world.deliveries ++ [(waiter, ⟨request, result⟩)] }

/-- Lets a request take time. -/
def takeOff (world : World) (label : String) (waiter : Waiter) (request : Backend.Request)
    (stage : Stage request) : World :=
  { world.record (.made world.now label request none) with
    flights := world.flights ++ [⟨label, waiter, request, stage⟩] }

/-- A party makes a request, with which its script says what is done. -/
def ask (world : World) (label : String) (waiter : Waiter) (request : Backend.Request) : World :=
  let party := world.party label
  let (action, script) := party.script.next (kindOf request)
  let world := world.setParty { party with script }
  match action with
  | .pass =>
    let (result, world) := world.serve request
    world.replyNow label waiter request result
  | .fail error => world.replyNow label waiter request (.error error)
  | .slowFail error wait =>
    world.takeOff label waiter request (.after (world.after wait) (.error error))
  | .succeed id flag => world.replyNow label waiter request (.ok (succeeded id flag request))
  | .stall => world.takeOff label waiter request .never
  | .delay wait => world.takeOff label waiter request (.before (world.after wait))
  | .delayAfter wait =>
    let (result, world) := world.serve request
    world.takeOff label waiter request (.after (world.after wait) result)

/-- A party's manager makes a call. -/
def call (world : World) (label : String) (waiter : Waiter) (call : Manager.Call) : World :=
  let party := world.party label
  (world.setParty { party with log := party.log.add call }).ask label waiter call.request

/-- Nobody waits for the answers to these requests any more. -/
def abandon (world : World) (gone : Waiter → Bool) : World :=
  { world with
    flights := world.flights.filter (!gone ·.waiter)
    deliveries := world.deliveries.filter (!gone ·.1) }

/-! ## Answers -/

/-- How the call of a manager ends whose request was answered. -/
def managerReply? : Reply → Option Manager.Reply
  | ⟨.create name ttl, result⟩ => some ((Manager.Call.create name ttl).reply result)
  | ⟨.renew id, result⟩ => some ((Manager.Call.renew id).reply result)
  | ⟨.destroy id, result⟩ => some ((Manager.Call.destroy id).reply result)
  | _ => none

/-- Whether an event leaves a session's request without anyone who waits for its answer. -/
def abandons (index : Nat) (event : Session.Event) (waiter : Waiter) : Bool :=
  match event, waiter with
  | .noticed monitor, .task session task => session == index && task == .monitor monitor
  | .forgone caller, .task session task => session == index && task == .caller caller
  | .dropped, .task session _ => session == index
  | _, _ => false

/-- The task that goes on with an event. -/
def taskOf : Session.Event → Option Session.Task
  | .granted task => some task
  | .answered task _ => some task
  | _ => none

/-- Lets an event happen to a session, if it can. -/
def happen (world : World) (index : Nat) (event : Session.Event) : World :=
  match world.sessions[index]? with
  | none => world
  | some (label, session) =>
    match session.step world.instant event with
    | none => world
    | some (session, made) =>
      let world := { world with sessions := world.sessions.set index (label, session) }
      let world := world.abandon (abandons index event)
      match made, taskOf event with
      | some made, some task => world.call label (.task index task) made
      | _, _ => world

/-- Ends a job. -/
def endJob (world : World) (index : Nat) (answer : Answer) : World :=
  { world with jobs := world.jobs.set index (.ended answer) }

/-- Makes a session for a party, once its first lease was answered for. A session that the party had
before is no longer the party's. -/
def openSession (world : World) (label name : String) (ttl : Duration)
    (settings : SessionSettings) (result : Except Error String) : Answer × World :=
  match Session.opened world.instant name ttl settings result with
  | .error error => (.opened (.error error), world)
  | .ok session =>
    let party := { world.party label with session := some world.sessions.length }
    (.opened (.ok (viewOf session)),
      { world with sessions := world.sessions ++ [(label, session)] }.setParty party)

/-- Brings an answer to a job. -/
def tellJob (world : World) (index : Nat) (reply : Reply) : World :=
  match world.jobs[index]?, reply with
  | some (.running (.acquiring session key id)), ⟨.put _ _ _, result⟩ =>
    match world.sessions[session]? with
    | some (_, session) => world.endJob index (.acquired (session.lockResult key id result))
    | none => world
  | some (.running (.releasing _)), ⟨.release _ _, result⟩ =>
    world.endJob index (.released (Session.unlockResult result))
  | some (.running .managing), reply =>
    match managerReply? reply with
    | some reply => world.endJob index (.managed reply)
    | none => world
  | some (.running (.opening label name ttl settings)), ⟨.create _ _, result⟩ =>
    let (answer, world) := world.openSession label name ttl settings result
    world.endJob index answer
  | _, _ => world

/-- Brings an answer to who waits for it. -/
def deliver (world : World) (waiter : Waiter) (reply : Reply) : World :=
  match waiter with
  | .job index => world.tellJob index reply
  | .task index task =>
    match managerReply? reply with
    | some reply => world.happen index (.answered task reply)
    | none => world

/-! ## What happens without moving the clock -/

/-- How a job ends that waits for a call or a signal, if it can end now. -/
def endOf? (world : World) : Work → Option Answer
  | .transition session caller => do
    let (_, session) ← world.sessions[session]?
    let ⟨intent, .finished failure⟩ ← session.callers[caller]? | none
    match intent with
    | .destroy => some (.view (viewOf session))
    | .recreate =>
      let result : Except Error Unit := match failure with
        | some error => .error error
        | none => .ok ()
      some (.recreated result (viewOf session))
  | .receiving session observer deadline => do
    let (_, session) ← world.sessions[session]?
    match observer.recv session.signal with
    | some outcome => some (.received outcome)
    | none => if deadline ≤ world.now then some .timeout else none
  | _ => none

/-- Ends the first job that can end now. -/
def nextEnd? (world : World) : Option World :=
  world.jobs.zipIdx.findSome? fun (job, index) =>
    match job with
    | .running work => (world.endOf? work).map (world.endJob index)
    | _ => none

/-- Brings the next answer to who waits for it. -/
def nextDelivery? (world : World) : Option World :=
  match world.deliveries with
  | [] => none
  | (waiter, reply) :: deliveries => some ({ world with deliveries }.deliver waiter reply)

/-- Lets the next event happen that a session is ready for. -/
def nextEvent? (world : World) : Option World :=
  world.sessions.zipIdx.findSome? fun ((_, session), index) =>
    session.ready?.map (world.happen index)

/-- Wakes the next monitor that is due. -/
def nextWake? (world : World) : Option World :=
  world.sessions.zipIdx.findSome? fun ((_, session), index) =>
    session.monitors.zipIdx.findSome? fun (monitor, number) =>
      match monitor.due? with
      | some due => if due ≤ world.instant then some (world.happen index (.woke number)) else none
      | none => none

/-- The next time at which something happens to a request that takes time. -/
def Flight.due? (flight : Flight) : Option Millis :=
  match flight.stage with
  | .before due => some due
  | .after due _ => some due
  | .never => none

/-- Whether a request that takes time is to go on now. -/
def isDue (world : World) (flight : Flight) : Bool :=
  match Flight.due? flight with
  | some due => due ≤ world.now
  | none => false

/-- Ends a request that takes time. -/
def land (world : World) (flight : Flight) (result : flight.request.Outcome) : World :=
  { world.record (.done world.now flight.label flight.request result) with
    deliveries := world.deliveries ++ [(flight.waiter, ⟨flight.request, result⟩)] }

/-- Lets the next request go on that is due. -/
def nextLanding? (world : World) : Option World :=
  match world.flights.findIdx? world.isDue with
  | none => none
  | some index =>
    match world.flights[index]? with
    | none => none
    | some flight =>
      let world := { world with flights := world.flights.eraseIdx index }
      match flight.stage with
      | .before _ =>
        let (result, world) := world.serve flight.request
        some (world.land flight result)
      | .after _ result => some (world.land flight result)
      | .never => some world

/-- Whether a session is needed by its party or by a job. -/
def isHeld (world : World) (index : Nat) : Bool :=
  world.parties.any (·.session == some index) ||
    world.jobs.any fun job =>
      match job with
      | .running (.acquiring session _ _) => session == index
      | .running (.releasing session) => session == index
      | .running (.transition session _) => session == index
      | _ => false

/-- Drops the first session that nobody needs any more. -/
def nextDrop? (world : World) : Option World :=
  world.sessions.zipIdx.findSome? fun ((_, session), index) =>
    if session.isDropped || world.isHeld index then none
    else some (world.happen index .dropped)

/-- The next thing that happens without moving the clock. -/
def next? (world : World) : Option World :=
  world.nextEnd? <|> world.nextDelivery? <|> world.nextEvent? <|> world.nextWake?
    <|> world.nextLanding? <|> world.nextDrop?

/-- Lets things happen without moving the clock, at most so many. -/
def settleWithin : Nat → World → World
  | 0, world => world
  | fuel + 1, world =>
    match world.next? with
    | none => world
    | some world => settleWithin fuel world

/-- How many things can happen before the clock must move: each job, request and task has but a few
steps to take. -/
def patience (world : World) : Nat :=
  64 * (1 + world.jobs.length + world.flights.length + world.deliveries.length
    + world.sessions.foldl
        (fun sum (_, session) => sum + 1 + session.monitors.length + session.callers.length) 0)

/-- Lets everything happen that can happen without moving the clock. -/
def settle (world : World) : World := world.settleWithin world.patience

/-! ## Moving the clock -/

/-- The times at which something is due. -/
def dues (world : World) : List Millis :=
  world.flights.filterMap Flight.due?
    ++ (world.sessions.flatMap fun (_, session) =>
        (session.monitors.filterMap Session.Monitor.due?).map ceilMillis)
    ++ world.jobs.filterMap fun job =>
        match job with
        | .running (.receiving _ _ deadline) => some deadline
        | _ => none

/-- Lets time go by until something is true or a time has come. Each round but the last one moves
the clock, so as many rounds are enough as there are milliseconds. -/
def runRounds (stop : World → Bool) (target : Millis) : Nat → World → World
  | 0, world => world
  | rounds + 1, world =>
    let world := world.settle
    if stop world || target ≤ world.now then world
    else
      let due := (world.dues.filter (world.now < ·)).foldl min target
      runRounds stop target rounds { world with now := due }

/-- Lets time go by until something is true or a while is over. -/
def runUntil (stop : World → Bool) (wait : Duration) (world : World) : World :=
  runRounds stop (world.after wait) (ceilMillis wait.nanos + 1) world

end World

end Leasehold.Simulation
