import Leasehold.Simulation.World
/-!
What can be done to a simulation from outside, one step after the other. Each step ends with an
answer, and with the records of the requests that were made since the step before.
-/
namespace Leasehold.Simulation

/-- Something that is done to a simulation. -/
inductive Step where
  /-- Replace the script of a party for one kind of request. -/
  | script (label : String) (kind : Kind) (actions : List Action)
  /-- Make a session for a party. -/
  | make (label name : String) (ttl : Duration) (settings : SessionSettings)
  | view (label : String)
  /-- Drop a party's session. -/
  | drop (label : String)
  /-- Keep an observer of a party's session under a name. -/
  | observe (label name : String)
  /-- Keep a copy of an observer under another name. -/
  | copy (signal name : String)
  /-- Look whether a signal has settled. -/
  | look (signal : String)
  /-- How many calls a party's manager has made. -/
  | counts (label : String)
  /-- The arguments of a `create` call of a party's manager. -/
  | creation (label : String) (index : Nat)
  /-- The argument of a `destroy` call of a party's manager. -/
  | destruction (label : String) (index : Nat)
  /-- Begin an operation and wait for its end. -/
  | run (operation : Operation)
  /-- Begin an operation in the background. -/
  | spawn (name : String) (operation : Operation)
  /-- Wait for the end of an operation in the background. -/
  | join (name : String) (wait : Duration)
  /-- Drop an operation in the background. -/
  | cancel (name : String)
  /-- Let time go by. -/
  | advance (wait : Duration)
  /-- A request to the store that does not belong to a party. -/
  | serve (request : Backend.Request)
  /-- Count the leases in the store. -/
  | count
  /-- Remove all leases from the store. -/
  | wipe
  /-- Make the store reachable or not, or ask whether it is. -/
  | reachable (value : Option Bool)

/-- What comes of a step. -/
structure Report where
  /-- The time at the end of the step. -/
  time : Millis
  /-- How the step ended. -/
  answer : Answer
  /-- What was recorded since the step before, by time and label. -/
  records : List Record

/-- How long an operation may take that is waited for. -/
def operationLimit : Duration := .seconds 600

namespace World

/-- A request whose ids from outside are resolved. -/
def resolveRequest (world : World) : Backend.Request → Backend.Request
  | .renew id => .renew (world.resolve id)
  | .destroy id => .destroy (world.resolve id)
  | .put key value id => .put key value (world.resolve id)
  | .release key id => .release key (world.resolve id)
  | request => request

/-- A manager's call whose ids from outside are resolved. -/
def resolveCall (world : World) : Manager.Call → Manager.Call
  | .renew id => .renew (world.resolve id)
  | .destroy id => .destroy (world.resolve id)
  | call => call

/-- An action whose ids from outside are resolved. -/
def resolveAction (world : World) : Action → Action
  | .succeed id flag => .succeed (world.resolve id) flag
  | action => action

/-- Adds a job, and gives its number. -/
def addJob (world : World) (job : Job) : Nat × World :=
  (world.jobs.length, { world with jobs := world.jobs ++ [job] })

/-- Begins a job that waits for the answer to a request. -/
def beginRequest (world : World) (label : String) (work : Work) (request : Backend.Request) :
    Nat × World :=
  let (index, world) := world.addJob (.running work)
  (index, world.ask label (.job index) request)

/-- Begins an operation, and gives the number of its job. -/
def begin (world : World) : Operation → Nat × World
  | .acquire label key value =>
    match world.session? label with
    | none => world.addJob (.ended .nothing)
    | some (index, session) =>
      match session.liveId with
      | .error error => world.addJob (.ended (.acquired (.error error)))
      | .ok id =>
        world.beginRequest label (.acquiring index key id) (Session.lockRequest key value id)
  | .release label key =>
    match world.session? label with
    | none => world.addJob (.ended .nothing)
    | some (index, session) =>
      match session.liveId with
      | .error error => world.addJob (.ended (.released (.error error)))
      | .ok id => world.beginRequest label (.releasing index) (Session.unlockRequest key id)
  | .destroy label =>
    match world.session? label with
    | none => world.addJob (.ended .nothing)
    | some (index, session) =>
      (world.happen index (.began .destroy)).addJob
        (.running (.transition index session.callers.length))
  | .recreate label =>
    match world.session? label with
    | none => world.addJob (.ended .nothing)
    | some (index, session) =>
      (world.happen index (.began .recreate)).addJob
        (.running (.transition index session.callers.length))
  | .recv signal wait =>
    match world.observers.lookup signal with
    | none => world.addJob (.ended .nothing)
    | some (session, observer) =>
      world.addJob (.running (.receiving session observer (world.after wait)))
  | .manage label call =>
    let (index, world) := world.addJob (.running .managing)
    (index, world.call label (.job index) (world.resolveCall call))

/-- Begins to make a session. -/
def beginOpening (world : World) (label name : String) (ttl : Duration)
    (settings : SessionSettings) : Nat × World :=
  match Session.validate ttl settings with
  | .error error => world.addJob (.ended (.opened (.error error)))
  | .ok () =>
    let (index, world) := world.addJob (.running (.opening label name ttl settings))
    (index, world.call label (.job index) (.create name ttl))

/-- Whether a job is over. -/
def isOver (index : Nat) (world : World) : Bool :=
  match world.jobs[index]? with
  | some (.running _) => false
  | _ => true

/-- Drops a job where it is. -/
def cancelJob (world : World) (index : Nat) : World :=
  match world.jobs[index]? with
  | some (.running work) =>
    let world := { world with jobs := world.jobs.set index .cancelled }
    let world := world.abandon (· == .job index)
    match work with
    | .transition session caller => world.happen session (.forgone caller)
    | _ => world
  | _ => world

/-- The answer of a job, or another answer while it has none. -/
def answerOf (world : World) (index : Nat) (otherwise : Answer) : Answer :=
  match world.jobs[index]? with
  | some (.ended answer) => answer
  | some (.running _) => otherwise
  | _ => .nothing

/-- Waits for a job, and drops it when it takes too long. -/
def await (job : Nat × World) : Answer × World :=
  let (index, world) := job
  let world := world.runUntil (isOver index) operationLimit
  (world.answerOf index .stepTimeout, world.cancelJob index)

/-- Does a step, up to what goes on by itself afterwards. -/
def perform (world : World) : Step → Answer × World
  | .script label kind actions =>
    let party := world.party label
    let script := party.script.set kind (actions.map world.resolveAction)
    (.nothing, world.setParty { party with script })
  | .make label name ttl settings => await (world.beginOpening label name ttl settings)
  | .view label =>
    match world.session? label with
    | some (_, session) => (.view (viewOf session), world)
    | none => (.nothing, world)
  | .drop label => (.nothing, world.setParty { world.party label with session := none })
  | .observe label name =>
    match world.session? label with
    | some (index, session) =>
      (.nothing, { world with observers := (name, index, session.err) :: world.observers })
    | none => (.nothing, world)
  | .copy signal name =>
    match world.observers.lookup signal with
    | some found => (.nothing, { world with observers := (name, found) :: world.observers })
    | none => (.nothing, world)
  | .look signal =>
    match world.observers.lookup signal with
    | some (index, observer) =>
      match world.sessions[index]? with
      | some (_, session) =>
        (.seen (observer.tryRecv session.signal) (observer.isSettled session.signal), world)
      | none => (.nothing, world)
    | none => (.nothing, world)
  | .counts label =>
    let log := (world.party label).log
    (.counts log.created.length log.renewed.length log.destroyed.length, world)
  | .creation label index => (.creation (world.party label).log.created[index]?, world)
  | .destruction label index => (.destruction (world.party label).log.destroyed[index]?, world)
  | .run operation => await (world.begin operation)
  | .spawn name operation =>
    let (index, world) := world.begin operation
    (.nothing, { world with jobNames := (name, index) :: world.jobNames })
  | .join name wait =>
    match world.jobNames.lookup name with
    | some index =>
      let world := world.runUntil (isOver index) wait
      (world.answerOf index .pending, world)
    | none => (.nothing, world)
  | .cancel name =>
    match world.jobNames.lookup name with
    | some index => (.nothing, world.cancelJob index)
    | none => (.nothing, world)
  | .advance wait => (.nothing, world.runUntil (fun _ => false) wait)
  | .serve request =>
    let request := world.resolveRequest request
    let (result, world) := world.serve request
    (.served request result, world)
  | .count =>
    let (count, store) := world.store.count .oldestFirst world.instant
    (.number count, { world with store })
  | .wipe =>
    let (count, store) := world.store.wipe .oldestFirst
    (.number count, { world with store })
  | .reachable value =>
    let store := match value with
      | some value => world.store.setReachable value
      | none => world.store
    (.flag store.reachable, { world with store })

/-- Whether one record comes before another, or may come before it. -/
def inOrder (left right : Record) : Bool :=
  left.time < right.time || (left.time == right.time && !(right.label < left.label))

/-- Does a step, and lets everything happen that can happen without moving the clock. -/
def report (world : World) (step : Step) : Report × World :=
  let (answer, world) := world.perform step
  let world := world.settle
  (⟨world.now, answer, world.records.reverse.mergeSort inOrder⟩, { world with records := [] })

/-- Does steps one after the other. -/
def reports : World → List Step → List Report
  | _, [] => []
  | world, step :: steps =>
    let (report, world) := world.report step
    report :: reports world steps

end World

/-- What comes of the steps, from the beginning. The ids of leases begin with the mark. -/
def rehearse (mark : String) (steps : List Step) : List Report := World.reports { mark } steps

end Leasehold.Simulation
