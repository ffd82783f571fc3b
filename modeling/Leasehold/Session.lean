import Leasehold.Manager
import Leasehold.Duration.OneUnit
import Leasehold.Settings
import Leasehold.Signal
/-!
A session: a lease on the backend, the monitor that keeps it alive, and the calls that give it up or
replace it. It is a transition system, whose events come with the time at which they happen.

1. While there is no lease, because the backend was out of reach when the session began, the monitor
   tries to make one again and again. While there is a lease, the monitor renews it, and sooner after
   a failure. It ends when the lease is refused, or when failures have outlasted the TTL: then the
   session is invalidated and its signal settles.
2. The monitor's attempts and the calls of `destroy` and `recreate` take turns. Those that wait stand
   in `queue`, first come, first served, and the head of the queue has its turn.
3. A `destroy` or `recreate` tells the monitor to stop before it queues up. A monitor notices that
   while it sleeps or waits for an answer, which it then abandons, but not while it queues.
4. Who calls `destroy` or `recreate` may lose interest at any point, and the call stops where it is.
5. What a task does between two waits, in one poll, is one event: a call that begins tells the monitor to
   stop and joins the queue (`began`); a task in its turn looks whether it was told to stop and at the
   state of the session, and calls the manager (`granted`); a task that is answered goes on until it
   waits again or is over (`answered`). What other threads do meanwhile counts as done before or after.
   Only a task that finds the queue empty, and so takes its turn in the poll in which it joins, makes two
   events of it: `began` or `woke`, and then `granted`. That adds runs in which something happens between
   the two, and leaves none out.

What is logged is left out.
-/
namespace Leasehold

/-- Where a session is in its life. -/
inductive SessionState where
  /-- Its lease is taken to be live, or is yet to be made. -/
  | active
  /-- Its lease was lost. -/
  | invalidated
  /-- Its lease was given up. -/
  | destroyed
deriving DecidableEq, Repr

/-- The name of a state. -/
def SessionState.name : SessionState → String
  | .active => "active"
  | .invalidated => "invalidated"
  | .destroyed => "destroyed"

namespace Session

/-- What a session knows of its lease. -/
structure Lease where
  /-- The id of the lease, empty while there is none. -/
  id : String
  /-- Where the session is in its life. -/
  state : SessionState
  /-- When the lease was made or renewed last. -/
  renewedAt : Instant
  /-- How many renewals have failed since. -/
  failures : Nat
deriving DecidableEq, Repr

/-- What a monitor is doing. -/
inductive Monitor.Phase where
  /-- It sleeps for a while. -/
  | asleep (since : Instant) (wait : Duration)
  /-- It waits for its turn. -/
  | queued
  /-- It has its turn, and waits for a new lease. -/
  | creating
  /-- It has its turn, and waits for the renewal of a lease. -/
  | renewing (id : String)
  /-- It does nothing more. -/
  | ended
deriving DecidableEq

/-- A monitor. -/
structure Monitor where
  /-- Whether it was told to stop. -/
  cancelled : Bool
  /-- What it is doing. -/
  phase : Monitor.Phase
deriving DecidableEq

/-- What a call does to the lease of a session. -/
inductive Intent where
  /-- Give it up. -/
  | destroy
  /-- Give it up and make a new one. -/
  | recreate
deriving DecidableEq, Repr

/-- How far a call has come. -/
inductive Caller.Phase where
  /-- It waits for its turn. -/
  | queued
  /-- It has its turn, and waits until the old lease is given up. -/
  | destroying (id : String)
  /-- It has its turn, and waits for a new lease. -/
  | creating
  /-- It is over, and failed with an error, or did not. -/
  | finished (failure : Option Error)
  /-- Nobody is interested in it any more. -/
  | abandoned
deriving DecidableEq

/-- A call of `destroy` or `recreate`. -/
structure Caller where
  /-- What the call is for. -/
  intent : Intent
  /-- How far it has come. -/
  phase : Caller.Phase
deriving DecidableEq

/-- Who may have a turn: monitors and callers, by their numbers. -/
inductive Task where
  | monitor (index : Nat)
  | caller (index : Nat)
deriving DecidableEq, Repr

/-- What happens to a session. -/
inductive Event where
  /-- A call begins. -/
  | began (intent : Intent)
  /-- A monitor has slept long enough. -/
  | woke (monitor : Nat)
  /-- A monitor notices that it was told to stop. -/
  | noticed (monitor : Nat)
  /-- The head of the queue takes its turn. -/
  | granted (task : Task)
  /-- The manager answers. -/
  | answered (task : Task) (reply : Manager.Reply)
  /-- A call is dropped by whoever made it. -/
  | forgone (caller : Nat)
  /-- The session itself is dropped. -/
  | dropped

end Session

/-- A session. -/
structure Session where
  /-- The name that its leases are labelled with. -/
  name : String
  /-- The TTL of its leases. -/
  ttl : Duration
  /-- How it times its calls. -/
  settings : SessionSettings
  /-- What it knows of its lease. -/
  lease : Session.Lease
  /-- Who waits for a turn, after the one who has it. -/
  queue : List Session.Task := []
  /-- All its monitors so far. -/
  monitors : List Session.Monitor := []
  /-- The monitor that it can still tell to stop. -/
  current : Option Nat := none
  /-- All calls so far. -/
  callers : List Session.Caller := []
  /-- How its generations ended. -/
  signal : Signal := {}
  /-- Whether it was dropped. -/
  isDropped : Bool := false
deriving DecidableEq

namespace Session

/-! ## Beginning -/

/-- Refuses a TTL or intervals that cannot work (`validate`). -/
def validate (ttl : Duration) (settings : SessionSettings) : Except Error Unit :=
  if ttl.isZero ∨ maxSessionTtl.nanos < ttl.nanos then
    .error (.invalidConfig
      ("session TTL " ++ ttl.inOneUnit ++ " must be positive and at most "
        ++ maxSessionTtl.inOneUnit))
  else if settings.retryInterval.isZero then
    .error (.invalidConfig "retry interval must be positive")
  else
    let renewal := settings.renewIntervalFor ttl
    if renewal.isZero ∨ ttl.nanos ≤ renewal.nanos then
      .error (.invalidConfig
        ("renew interval " ++ renewal.inOneUnit ++ " must be positive and shorter than the TTL "
          ++ ttl.inOneUnit))
    else .ok ()

/-- How long the monitor sleeps next (`next_delay`). -/
def nextDelay (session : Session) : Duration :=
  let renewal := session.settings.renewIntervalFor session.ttl
  if session.lease.id = "" then session.settings.retryInterval
  else if 0 < session.lease.failures then renewal.shorter session.settings.retryInterval
  else renewal

/-- The session with a new lease (`arm`). -/
def arm (now : Instant) (id : String) (session : Session) : Session :=
  { session with lease := ⟨id, .active, now, 0⟩ }

/-- Gives a monitor another phase. -/
def setMonitor (index : Nat) (phase : Monitor.Phase) (session : Session) : Session :=
  { session with monitors := session.monitors.modify index fun monitor => { monitor with phase } }

/-- Gives a call another phase. -/
def setCaller (index : Nat) (phase : Caller.Phase) (session : Session) : Session :=
  { session with callers := session.callers.modify index fun caller => { caller with phase } }

/-- Tells the monitor to stop, if there is one that was not told yet (`stop_monitor`). -/
def stopMonitor (session : Session) : Session :=
  match session.current with
  | none => session
  | some index =>
    { session with
      monitors := session.monitors.modify index fun monitor => { monitor with cancelled := true }
      current := none }

/-- Starts a new monitor, which sleeps first (`start_monitor`). -/
def startMonitor (now : Instant) (session : Session) : Session :=
  let session := session.stopMonitor
  { session with
    monitors := session.monitors ++ [⟨false, .asleep now session.nextDelay⟩]
    current := some session.monitors.length }

/-- A session that has asked for its first lease, whose parameters are valid (`with_config`). If the
backend was out of reach, the monitor will ask again; other errors are passed on. -/
def opened (now : Instant) (name : String) (ttl : Duration) (settings : SessionSettings) :
    Except Error String → Except Error Session
  | .ok id => .ok (startMonitor now { name, ttl, settings, lease := ⟨id, .active, now, 0⟩ })
  | .error error =>
    if error.isRetryable then
      .ok (startMonitor now { name, ttl, settings, lease := ⟨"", .active, now, 0⟩ })
    else .error error

/-! ## Taking turns -/

/-- Ends the turn of a task, or its wait for one. -/
def leave (task : Task) (session : Session) : Session :=
  { session with queue := session.queue.erase task }

/-- A monitor ends. -/
def endMonitor (index : Nat) (session : Session) : Session :=
  (session.setMonitor index .ended).leave (.monitor index)

/-- A monitor ends its turn and sleeps again. -/
def sleepAgain (now : Instant) (index : Nat) (session : Session) : Session :=
  (session.setMonitor index (.asleep now session.nextDelay)).leave (.monitor index)

/-- A call ends. -/
def finish (index : Nat) (failure : Option Error) (session : Session) : Session :=
  (session.setCaller index (.finished failure)).leave (.caller index)

/-- Settles the signal of the current generation, unless it has settled. -/
def fire (outcome : Option Error) (session : Session) : Session :=
  { session with signal := (session.signal.fire outcome).2 }

/-- The session has lost its lease (`invalidate`). -/
def invalidate (error : Error) (session : Session) : Session :=
  { session with lease := { session.lease with state := .invalidated } }.fire (some error)

/-! ## The monitor's turn

`run_monitor` sleeps, waits for its turn and makes one `tick`, which is cut here where it waits for the
manager: `monitorTurn` is what comes before, `monitorCreated` and `monitorRenewed` are what comes after. -/

/-- A monitor takes its turn: it asks for a lease or renews the one that is there, unless it was told
to stop or the session is no longer active. -/
def monitorTurn (index : Nat) (cancelled : Bool) (session : Session) :
    Session × Option Manager.Call :=
  if cancelled ∨ session.lease.state ≠ .active then (session.endMonitor index, none)
  else if session.lease.id = "" then
    (session.setMonitor index .creating, some (.create session.name session.ttl))
  else
    (session.setMonitor index (.renewing session.lease.id), some (.renew session.lease.id))

/-- The monitor was answered about a new lease. -/
def monitorCreated (now : Instant) (index : Nat) (session : Session) :
    Except Error String → Session
  | .ok id => (session.arm now id).sleepAgain now index
  | .error error =>
    if error.isRetryable then session.sleepAgain now index
    else (session.invalidate error).endMonitor index

/-- The monitor was answered about a renewal. A failure that may pass counts as a loss once the TTL
is over. -/
def monitorRenewed (now : Instant) (index : Nat) (session : Session) :
    Except Error Unit → Session
  | .ok () =>
    { session with lease := { session.lease with renewedAt := now, failures := 0 } }.sleepAgain
      now index
  | .error error =>
    if error.isRetryable then
      let session :=
        { session with lease := { session.lease with failures := session.lease.failures + 1 } }
      if session.ttl.nanos ≤ now - session.lease.renewedAt then
        (session.invalidate error).endMonitor index
      else session.sleepAgain now index
    else (session.invalidate error).endMonitor index

/-! ## A caller's turn

A call of `destroy` or `recreate` makes one `teardown` in its turn, which is cut here where it waits for
the manager: `callerTurn` is what comes before, `afterTeardown` is what comes after. -/

/-- A call goes on when the old lease is out of the way: `destroy` is done, `recreate` asks for a new
lease. -/
def afterTeardown (index : Nat) (intent : Intent) (session : Session) :
    Session × Option Manager.Call :=
  match intent with
  | .destroy => (session.finish index none, none)
  | .recreate =>
    (session.setCaller index .creating, some (.create session.name session.ttl))

/-- A call takes its turn: it stops the monitor and gives up the lease. A session that is destroyed
already is left as it is. -/
def callerTurn (index : Nat) (intent : Intent) (session : Session) :
    Session × Option Manager.Call :=
  let session := session.stopMonitor
  if session.lease.state = .destroyed then session.afterTeardown index intent
  else
    let id := session.lease.id
    let session := { session with lease := { session.lease with id := "", state := .destroyed } }
    if id = "" then (session.fire none).afterTeardown index intent
    else (session.setCaller index (.destroying id), some (.destroy id))

/-- A call was answered about its new lease: the end of `recreate`. -/
def callerCreated (now : Instant) (index : Nat) (session : Session) :
    Except Error String → Session
  | .ok id =>
    (({ session with signal := session.signal.rearm }.arm now id).startMonitor now).finish index none
  | .error error => session.finish index (some error)

/-! ## Events -/

/-- Whether a call is still under way. -/
def Caller.inProgress (caller : Caller) : Bool :=
  match caller.phase with
  | .queued | .destroying _ | .creating => true
  | .finished _ | .abandoned => false

/-- A task takes its turn, if it waits for one and is the head of the queue. -/
def grant (task : Task) (session : Session) : Option (Session × Option Manager.Call) :=
  if session.queue.head? = some task then
    match task with
    | .monitor index =>
      match session.monitors[index]? with
      | some ⟨cancelled, .queued⟩ => some (session.monitorTurn index cancelled)
      | _ => none
    | .caller index =>
      match session.callers[index]? with
      | some ⟨intent, .queued⟩ => some (session.callerTurn index intent)
      | _ => none
  else none

/-- A task is answered, if it waits for an answer of this kind. A monitor that was told to stop takes
no notice of the answer and ends. -/
def answer (now : Instant) (task : Task) (reply : Manager.Reply) (session : Session) :
    Option (Session × Option Manager.Call) :=
  match task with
  | .monitor index =>
    match session.monitors[index]?, reply with
    | some ⟨true, .creating⟩, .created _ => some (session.endMonitor index, none)
    | some ⟨true, .renewing _⟩, .renewed _ => some (session.endMonitor index, none)
    | some ⟨false, .creating⟩, .created result =>
      some (session.monitorCreated now index result, none)
    | some ⟨false, .renewing _⟩, .renewed result =>
      some (session.monitorRenewed now index result, none)
    | _, _ => none
  | .caller index =>
    match session.callers[index]?, reply with
    | some ⟨intent, .destroying _⟩, .destroyed _ =>
      some ((session.fire none).afterTeardown index intent)
    | some ⟨_, .creating⟩, .created result => some (session.callerCreated now index result, none)
    | _, _ => none

/-- What an event at a time makes of a session, and the call that it makes to the manager. Events
that cannot happen to the session have no result. -/
def step (now : Instant) (event : Event) (session : Session) :
    Option (Session × Option Manager.Call) :=
  match event with
  | .began intent =>
    if session.isDropped then none
    else
      let session := session.stopMonitor
      some
        ({ session with
            callers := session.callers ++ [⟨intent, .queued⟩]
            queue := session.queue ++ [.caller session.callers.length] },
          none)
  | .woke index =>
    match session.monitors[index]? with
    | some ⟨_, .asleep since wait⟩ =>
      if since + wait.nanos ≤ now then
        let session := session.setMonitor index .queued
        some ({ session with queue := session.queue ++ [.monitor index] }, none)
      else none
    | _ => none
  | .noticed index =>
    match session.monitors[index]? with
    | some ⟨true, .asleep _ _⟩ | some ⟨true, .creating⟩ | some ⟨true, .renewing _⟩ =>
      some (session.endMonitor index, none)
    | _ => none
  | .granted task => session.grant task
  | .answered task reply => session.answer now task reply
  | .forgone index =>
    match session.callers[index]? with
    | some caller =>
      if caller.inProgress then
        some ((session.setCaller index .abandoned).leave (.caller index), none)
      else none
    | none => none
  | .dropped =>
    if session.isDropped ∨ session.callers.any Caller.inProgress then none
    else
      let stopped := session.stopMonitor
      let stopped := match session.current with
        | some index => stopped.endMonitor index
        | none => stopped
      some ({ stopped with signal := stopped.signal.drop, isDropped := true }, none)

/-! ## What goes on by itself -/

/-- An event that happens without time going by and without an answer, if there is one. -/
def ready? (session : Session) : Option Event :=
  match session.monitors.findIdx? fun monitor =>
    monitor.cancelled &&
      (match monitor.phase with
        | .asleep _ _ | .creating | .renewing _ => true
        | .queued | .ended => false) with
  | some index => some (.noticed index)
  | none =>
    match session.queue with
    | [] => none
    | .monitor index :: _ =>
      match session.monitors[index]? with
      | some ⟨_, .queued⟩ => some (.granted (.monitor index))
      | _ => none
    | .caller index :: _ =>
      match session.callers[index]? with
      | some ⟨_, .queued⟩ => some (.granted (.caller index))
      | _ => none

/-- When a monitor has slept long enough, if it sleeps. -/
def Monitor.due? (monitor : Monitor) : Option Instant :=
  match monitor.phase with
  | .asleep since wait => some (since + wait.nanos)
  | _ => none

/-! ## What a session shows -/

/-- The id of the lease, empty if there is none (`id`). -/
def id (session : Session) : String := session.lease.id

/-- Where the session is in its life (`state`). -/
def state (session : Session) : SessionState := session.lease.state

/-- A new observer of the current generation (`err`). -/
def err (session : Session) : Observer := session.signal.subscribe

end Session

end Leasehold
