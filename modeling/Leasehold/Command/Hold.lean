import Leasehold.Session.Lock
/-!
Holding a lock: makes a session, tries to lock a key until that succeeds, holds the lock until it is
lost or somebody interrupts, and gives up the session.

1. The session's monitor runs beside all this. What it asks of the backend, and what the attempts
   to lock ask, is listed in `asked`, with who waits for the answer.
2. An attempt is repeated after a pause while another session holds the lock, while the session has no
   lease yet, and after failures that may pass. Every other failure ends the run.
3. An interruption while the first lease is made ends the process on the spot, for nobody listens yet.
   One before the lock is held gives up the session, and ends the run without a word.

All of it is the command `lock`: `run`, and `acquire` for the attempts.
-/
namespace Leasehold.Command

/-- How holding a lock ends. -/
inductive HoldEnd where
  /-- The lock was held, and is given back. -/
  | released
  /-- The lock was held, and lost. -/
  | lost (error : Error)
  /-- The lock was never held, because somebody interrupted. -/
  | interrupted
  /-- The lock was never held, because of an error. -/
  | failed (error : Error)
  /-- There was no session yet when somebody interrupted. -/
  | killed
deriving DecidableEq

/-- Who waits for the answer to a request. -/
inductive Asker where
  /-- The beginning, which makes the first lease. -/
  | opening
  /-- An attempt to lock the key. -/
  | attempt
  /-- A task of the session. -/
  | task (task : Session.Task)
deriving DecidableEq

/-- What is being done besides the session's own tasks. -/
inductive HoldStage where
  /-- The first lease is being made. -/
  | opening
  /-- An attempt to lock the key with a lease is under way. -/
  | trying (id : String)
  /-- The next attempt is due at a time. -/
  | pausing (due : Instant)
  /-- The lock is held. -/
  | holding
  /-- The session is being given up. -/
  | leaving (ending : HoldEnd) (caller : Nat)
  /-- Everything is over. -/
  | ended (ending : HoldEnd)

/-- What is to be locked, and how. -/
structure HoldPlan where
  /-- The key. -/
  key : String
  /-- What is written to the key. -/
  value : List UInt8
  /-- The name of the session. -/
  name : String
  /-- The TTL of its leases. -/
  ttl : Duration
  /-- How the session times its calls. -/
  settings : SessionSettings
  /-- The pause between two attempts. -/
  poll : Duration

/-- A run that holds a lock. -/
structure Hold where
  /-- What is to be locked, and how. -/
  plan : HoldPlan
  /-- The session, once there is one. -/
  session : Option Session := none
  /-- What is being done. -/
  stage : HoldStage := .opening
  /-- The requests that are not yet made. -/
  asked : List (Asker × Backend.Request) := []
  /-- The lines that were printed. -/
  lines : List String := []

namespace Hold

/-- A run from its beginning, if a session can be made like this (`run`, before its first wait). -/
def start (plan : HoldPlan) : Except Error Hold :=
  match Session.validate plan.ttl plan.settings with
  | .error error => .error error
  | .ok () => .ok { plan, asked := [(.opening, .create plan.name plan.ttl)] }

/-- Adds a request. -/
def ask (hold : Hold) (asker : Asker) (request : Backend.Request) : Hold :=
  { hold with asked := hold.asked ++ [(asker, request)] }

/-- Takes back the requests that an asker has not yet made. -/
def withdraw (hold : Hold) (asker : Asker) : Hold :=
  { hold with asked := hold.asked.filter (·.1 ≠ asker) }

/-- Lets an event happen to the session, if it can. -/
def happen (hold : Hold) (now : Instant) (event : Session.Event) : Hold :=
  match hold.session.bind (Session.step now event) with
  | none => hold
  | some (session, call) =>
    let hold := { hold with session := some session }
    let hold := match event with
      | .noticed monitor => hold.withdraw (.task (.monitor monitor))
      | _ => hold
    match call, event with
    | some call, .granted task => hold.ask (.task task) call.request
    | some call, .answered task _ => hold.ask (.task task) call.request
    | _, _ => hold

/-- Begins to give up the session. An attempt that is under way is dropped. -/
def leave (hold : Hold) (now : Instant) (ending : HoldEnd) : Hold :=
  match hold.session with
  | none => { hold with stage := .ended ending }
  | some session =>
    ({ hold with stage := .leaving ending session.callers.length }.withdraw .attempt).happen now
      (.began .destroy)

/-- The shortest pause that a clock of milliseconds knows. -/
def shortestPause : Nat := 1000000

/-- Goes on after an attempt to lock the key (`acquire`, and the two lines that `run` prints). -/
def judge (hold : Hold) (now : Instant) (session : Session) : Except Error Unit → Hold
  | .ok () =>
    { hold with
      stage := .holding
      lines := hold.lines ++
        ["Locked " ++ hold.plan.key ++ " (session " ++ session.id ++ ")",
         "Holding lock... (Ctrl+C to release)"] }
  | .error error =>
    let waits : Bool := match error with
      | .lockHeldByOther _ => true
      | .sessionInvalid => session.state == .active && session.id == ""
      | error => error.isRetryable
    if waits then
      { hold with stage := .pausing (now + max hold.plan.poll.nanos shortestPause) }
    else hold.leave now (.failed error)

/-- Makes an attempt to lock the key. -/
def attempt (hold : Hold) (now : Instant) (session : Session) : Hold :=
  match session.liveId with
  | .ok id =>
    { hold with stage := .trying id }.ask .attempt
      (Session.lockRequest hold.plan.key hold.plan.value id)
  | .error error => hold.judge now session (.error error)

/-- How the call of a session's task ends whose request was answered. -/
def taskReply? : (request : Backend.Request) → request.Outcome → Option Manager.Reply
  | .create name ttl, result => some ((Manager.Call.create name ttl).reply result)
  | .renew id, result => some ((Manager.Call.renew id).reply result)
  | .destroy id, result => some ((Manager.Call.destroy id).reply result)
  | _, _ => none

/-- The first lease was answered for. The first attempt to lock the key is due at once. -/
def opened (hold : Hold) (now : Instant) (result : Except Error String) : Hold :=
  match Session.opened now hold.plan.name hold.plan.ttl hold.plan.settings result with
  | .error error => { hold with stage := .ended (.failed error) }
  | .ok session => { hold with session := some session, stage := .pausing now }.attempt now session

/-- Brings an answer to who waits for it. -/
def answered (hold : Hold) (now : Instant) (asker : Asker) (request : Backend.Request)
    (result : request.Outcome) : Hold :=
  match asker with
  | .opening =>
    match hold.stage, request, result with
    | .opening, .create _ _, result => hold.opened now result
    | _, _, _ => hold
  | .attempt =>
    match hold.stage, hold.session, request, result with
    | .trying id, some session, .put _ _ _, result =>
      hold.judge now session (session.lockResult hold.plan.key id result)
    | _, _, _, _ => hold
  | .task task =>
    match taskReply? request result with
    | some reply => hold.happen now (.answered task reply)
    | none => hold

/-- What somebody who interrupts brings about. The program listens for that from its first attempt to
lock the key on. Before, while the session is being opened, the process is killed: it asks for nothing
more, and takes no answer. Later, while the session is being given up, nothing is interrupted. -/
def interrupt (hold : Hold) (now : Instant) : Hold :=
  match hold.stage with
  | .opening => { hold with stage := .ended .killed, asked := [] }
  | .trying _ | .pausing _ => hold.leave now .interrupted
  | .holding => hold.leave now .released
  | .leaving _ _ | .ended _ => hold

/-- What a session brings about without time going by. -/
def sessionNext? (now : Instant) (session : Session) : Option Session.Event :=
  match session.ready? with
  | some event => some event
  | none =>
    (session.monitors.findIdx? fun monitor =>
      match monitor.due? with
      | some due => due ≤ now
      | none => false).map .woke

/-- The end of giving up the session (`run`, after `destroy`). -/
def conclude (hold : Hold) (ending : HoldEnd) : Hold :=
  { hold with
    stage := .ended ending
    lines := hold.lines ++
      match ending with
      | .released => ["Released " ++ hold.plan.key]
      | _ => [] }

/-- The next thing that happens without time going by. -/
def next? (hold : Hold) (now : Instant) : Option Hold := do
  let session ← hold.session
  match sessionNext? now session with
  | some event => some (hold.happen now event)
  | none =>
    match hold.stage with
    | .pausing due => if due ≤ now then some (hold.attempt now session) else none
    | .holding =>
      match session.err.recv session.signal with
      | some (some error) => some (hold.leave now (.lost error))
      | some none => some (hold.leave now .released)
      | none => none
    | .leaving ending caller =>
      match session.callers[caller]? with
      | some ⟨_, .finished _⟩ => some (hold.conclude ending)
      | _ => none
    | _ => none

/-- Lets things happen without time going by, at most so many. -/
def settleWithin (now : Instant) : Nat → Hold → Hold
  | 0, hold => hold
  | fuel + 1, hold =>
    match hold.next? now with
    | none => hold
    | some hold => settleWithin now fuel hold

/-- Lets everything happen that can happen without time going by. -/
def settle (hold : Hold) (now : Instant) : Hold :=
  let tasks := match hold.session with
    | some session => session.monitors.length + session.callers.length
    | none => 0
  hold.settleWithin now (16 * (tasks + 2))

/-- The times at which something is due. -/
def dues (hold : Hold) : List Instant :=
  (match hold.stage with
    | .pausing due => [due]
    | _ => []) ++
  (match hold.session with
    | some session => session.monitors.filterMap Session.Monitor.due?
    | none => [])

/-- Whether the lock is held. -/
def isHolding (hold : Hold) : Bool :=
  match hold.stage with
  | .holding => true
  | _ => false

/-- How the run ended, if it has. -/
def ending? (hold : Hold) : Option HoldEnd :=
  match hold.stage with
  | .ended ending => some ending
  | _ => none

end Hold

end Leasehold.Command
