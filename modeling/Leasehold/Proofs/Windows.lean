import Leasehold.Proofs.Session.Untouched
import Leasehold.Proofs.Tolerance

/-! A session that makes its first lease from a store that goes out of reach now and then. Timers fire when
they are due, the store answers at once, and other clients may use the store meanwhile (`Step`).

What carries the argument is that a session without a lease has tried to make one at most a retry interval
ago, in vain since the store was out of reach then (`Seeking`). If the store has been within reach for that
long, the session cannot be without a lease. And a session that has a lease renews it, so that it makes only
one. -/
namespace Leasehold.Windows

open Session (History Task)
open Tolerance (Outages Workable workable_of_validate served_reachable prune_reachable)

/-! ## Runs -/

/-- A session with what has happened to it, the call to the store that it waits for, the store, and the
time. -/
structure World where
  now : Instant
  session : Session
  history : History
  asked : Option (Task × Manager.Call)
  store : Store

/-- What can happen next. -/
inductive Step (outages : Outages) : World → World → Prop where
  /-- Time goes by while nothing else is to happen, at most until a monitor is due. -/
  | waited (later : now < time) (idle : session.ready? = none)
      (asleep : ∀ monitor ∈ session.monitors, ∀ due, monitor.due? = some due → time ≤ due)
      (reached : reachable = true ↔ ¬ outages.Down time) :
      Step outages ⟨now, session, history, none, store⟩
        ⟨time, session, history, none, store.setReachable reachable⟩
  /-- Something happens to the session, which may make a call. -/
  | moved (unanswered : ∀ task reply, event ≠ .answered task reply)
      (stepped : session.step now event = some (next, call)) :
      Step outages ⟨now, session, history, none, store⟩
        ⟨now, next, history.add ⟨now, session, event, next, call⟩,
          Session.Moment.asks? ⟨now, session, event, next, call⟩, store⟩
  /-- The store answers the call. A lease that it makes has an id that is not empty. -/
  | answered {made : Manager.Call} {result : made.request.Outcome}
      (served : store.serve sweep now fresh made.request = (result, after)) (named : fresh ≠ "")
      (stepped : session.step now (.answered task (made.reply result)) = some (next, call)) :
      Step outages ⟨now, session, history, some (task, made), store⟩
        ⟨now, next, history.add ⟨now, session, .answered task (made.reply result), next, call⟩,
          Session.Moment.asks? ⟨now, session, .answered task (made.reply result), next, call⟩, after⟩
  /-- Another client uses the store. -/
  | shared (unswitched : ∀ reachable, event ≠ .switched reachable)
      (happens : store.happen sweep now fresh event = (answer, after)) :
      Step outages ⟨now, session, history, asked, store⟩ ⟨now, session, history, asked, after⟩

/-- Nobody has torn the session down. Two more things count as that (`Session.Event.touches`): to drop the
session, after which nobody sees its id, and to drop a call.

That a call is dropped is no loss. Here every call to the manager is answered before anything else happens,
so that whoever begins a call finds the queue empty and takes the turn at once; the call cannot be dropped
before it has torn the session down. The runs in which it is stem from `began` and `granted` being two events
(point 5 of `Session`). -/
def Intact (history : History) : Prop := ∀ moment ∈ history.moments, moment.event.touches = false

/-- Whether the store says at this moment that it has made a lease. -/
def creates (moment : Session.Moment) : Bool :=
  match moment.event with
  | .answered _ (.created (.ok _)) => true
  | _ => false

/-- How many leases the store has made for a session. -/
def creations (history : History) : Nat :=
  history.moments.countP creates + history.first.toOption.toList.length

/-! ## Sessions without a lease -/

/-- A session without a lease has tried to make one during an outage, at most a retry interval ago, and
sleeps since then if it sleeps. -/
structure Seeking (outages : Outages) (start : Instant) (retry : Duration) (now : Instant)
    (session : Session) : Prop where
  active : session.lease.state = .active
  tried : ∃ tried, start ≤ tried ∧ tried ≤ now ∧ now ≤ tried + retry.nanos ∧ outages.Down tried ∧
    ∀ (index : Nat) since wait, session.monitors[index]? = some ⟨false, .asleep since wait⟩ →
      since = tried ∧ wait = retry

/-- What holds of a world as long as nobody has torn its session down. -/
structure Watched (outages : Outages) (start : Instant) (ttl : Duration) (settings : SessionSettings)
    (world : World) : Prop where
  lived : Session.Lived world.history world.session
  terms : world.session.ttl = ttl ∧ world.session.settings = settings
  untouched : world.session.Untouched
  /-- Whoever works waits for the call. -/
  works : ∀ task made, world.session.standing task = .working made ↔ world.asked = some (task, made)
  /-- The monitor takes notice of the answer. -/
  heeds : ∀ index made, world.asked = some (.monitor index, made) →
    ∃ phase, world.session.monitors[index]? = some ⟨false, phase⟩
  reached : world.store.reachable = true ↔ ¬ outages.Down world.now
  seeking : world.session.lease.id = "" →
    Seeking outages start settings.retryInterval world.now world.session
  creations : creations world.history = if world.session.lease.id = "" then 0 else 1

section
variable {outages : Outages} {start now time : Instant} {retry ttl : Duration}
variable {settings : SessionSettings} {session next : Session} {world later : World} {store after : Store}
variable {history : History} {sweep : Store.Sweep} {fresh name : String} {request : Backend.Request}
variable {event : Session.Event} {call : Option Manager.Call}

/-! ## Stores -/

theorem serve_reachable {result : request.Outcome}
    (served : store.serve sweep now fresh request = (result, after)) :
    after.reachable = store.reachable := by
  unfold Store.serve at served
  split at served
  · cases served
    rfl
  · split at served
    · have next := Store.served_of_serveLive (store.prune sweep now) now fresh request
      rw [served] at next
      exact (served_reachable next).trans prune_reachable
    · cases served
      rfl

/-- What other clients do leaves a store within reach or out of it. -/
theorem happen_reachable {event : Store.Event} (unswitched : ∀ reachable, event ≠ .switched reachable)
    (happens : store.happen sweep now fresh event = (answer, after)) :
    after.reachable = store.reachable := by
  cases Store.course_of_happen happens with
  | declined => rfl
  | served _ _ served => exact (served_reachable served).trans prune_reachable
  | switched => exact absurd rfl (unswitched _)
  | counted => exact prune_reachable
  | wiped => exact Store.removeAll_reachable

/-- A store makes a lease with a TTL that is accepted if it is within reach. -/
theorem serve_create (workable : Workable ttl settings) :
    (store.serve sweep now fresh (.create name ttl)).1 = if store.reachable then .ok fresh
      else .error (.backendUnavailable "in-memory backend is unreachable") := by
  simp only [Store.serve, workable.accepted]
  split <;> rfl

/-! ## Steps -/

theorem creations_add (history : History) (moment : Session.Moment) :
    creations (history.add moment) = creations history + if creates moment then 1 else 0 := by
  simp only [creations, History.add, List.countP_cons]
  omega

theorem Step.intact (step : Step outages world later) (intact : Intact later.history) :
    Intact world.history := by
  cases step with
  | waited | shared => exact intact
  | moved | answered => exact fun moment member => intact moment (List.mem_cons_of_mem _ member)

/-- While nothing else is to happen, the monitor sleeps or has ended. -/
theorem Watched.rests (watched : Watched outages start ttl settings world)
    (idle : world.session.ready? = none) (free : world.asked = none) :
    world.session.callers = [] ∧ ∃ phase, world.session.monitors = [⟨false, phase⟩] ∧
      (phase = .ended ∨ ∃ since wait, phase = .asleep since wait) := by
  have nobody : ∀ task made, world.session.standing task ≠ .working made := by
    intro task made works
    rw [watched.works, free] at works
    cases works
  have orderly := watched.lived.orderly
  have callers := watched.untouched.nobody orderly idle nobody
  obtain ⟨phase, only⟩ := watched.untouched.attended watched.lived.monitored callers
  have absent : world.session.standing (.monitor 0) = .absent := by
    have outside : Task.monitor 0 ∉ world.session.queue := by
      rw [orderly.queue_eq_nil idle nobody]
      exact List.not_mem_nil
    exact Classical.not_not.mp fun present => outside ((orderly.mem_queue _).mpr present)
  rw [Session.standing_monitor (by rw [only]; rfl)] at absent
  refine ⟨callers, phase, only, ?_⟩
  cases phase with
  | asleep since wait => exact .inr ⟨since, wait, rfl⟩
  | ended => exact .inl rfl
  | queued | creating | renewing => cases absent

theorem Watched.waited (watched : Watched outages start ttl settings ⟨now, session, history, none, store⟩)
    (later : now < time) (idle : session.ready? = none)
    (asleep : ∀ monitor ∈ session.monitors, ∀ due, monitor.due? = some due → time ≤ due)
    (reached : reachable = true ↔ ¬ outages.Down time) :
    Watched outages start ttl settings
      ⟨time, session, history, none, store.setReachable reachable⟩ := by
  refine { watched with reached, seeking := fun without => ?_ }
  obtain ⟨active, tried, within, past, -, down, sleeps⟩ := watched.seeking without
  refine ⟨active, tried, within, Nat.le_trans past (Nat.le_of_lt later), ?_, down, sleeps⟩
  obtain ⟨-, phase, only, rests⟩ := watched.rests idle rfl
  rcases rests with rfl | ⟨since, wait, rfl⟩
  · exact absurd (by rw [only]; rfl) (watched.lived.monitored.active active 0)
  · obtain ⟨begun, length⟩ := sleeps 0 _ wait (by rw [only]; rfl)
    rw [← begun, ← length]
    exact asleep ⟨false, .asleep _ wait⟩ (by rw [only]; exact List.mem_singleton_self _) _ rfl

/-- A step of the session that concerns whoever waits for an answer, if anyone does. -/
private theorem watched_of_step {asked : Option (Task × Manager.Call)}
    (watched : Watched outages start ttl settings ⟨now, session, history, asked, store⟩)
    (stepped : session.step now event = some (next, call)) (quiet : event.touches = false)
    (sole : ∀ task made, asked = some (task, made) → session.subject event = some task)
    (reachable : after.reachable = store.reachable)
    (seeking : next.lease.id = "" → Seeking outages start settings.retryInterval now next)
    (creations : creations (history.add ⟨now, session, event, next, call⟩) =
      if next.lease.id = "" then 0 else 1) :
    Watched outages start ttl settings
      ⟨now, next, history.add ⟨now, session, event, next, call⟩,
        Session.Moment.asks? ⟨now, session, event, next, call⟩, after⟩ where
  lived := .happened watched.lived stepped
  terms := by
    obtain ⟨-, sameTtl, sameSettings⟩ := Session.terms_after (Session.transition_of_step stepped)
    exact ⟨sameTtl.trans watched.terms.1, sameSettings.trans watched.terms.2⟩
  untouched := Session.untouched_preserved watched.untouched (Session.transition_of_step stepped) quiet
  works task made := Session.standing_iff_asks? (Session.transition_of_step stepped)
    fun task made works => sole task made ((watched.works task made).mp works)
  heeds index made := Session.untold_of_asks? (Session.transition_of_step stepped)
  reached := reachable ▸ watched.reached
  seeking := seeking
  creations := creations

theorem Watched.moved
    (watched : Watched outages start ttl settings ⟨now, session, history, none, store⟩)
    (unanswered : ∀ task reply, event ≠ .answered task reply)
    (stepped : session.step now event = some (next, call)) (quiet : event.touches = false) :
    Watched outages start ttl settings
      ⟨now, next, history.add ⟨now, session, event, next, call⟩,
        Session.Moment.asks? ⟨now, session, event, next, call⟩, store⟩ := by
  have outcome := Session.transition_of_step stepped
  have lease := Session.lease_of_quiet outcome quiet unanswered
  refine watched_of_step watched stepped quiet nofun rfl (fun without => ?_) ?_
  · rw [lease] at without
    obtain ⟨active, tried, within, past, recent, down, sleeps⟩ := watched.seeking without
    refine ⟨lease ▸ active, tried, within, past, recent, down, fun index since wait found => ?_⟩
    exact sleeps index since wait (Session.asleep_before outcome quiet unanswered found)
  · have quietly : creates ⟨now, session, event, next, call⟩ = false := by
      unfold creates
      split
      · rename_i answered
        exact absurd answered (unanswered _ _)
      · rfl
    rw [creations_add, quietly, lease]
    exact watched.creations

/-- A monitor that has got no lease sleeps for a retry interval from now on. -/
private theorem seeking_of_failure {index : Nat} (monitored : session.Monitored)
    (timing : session.settings = settings) (active : session.lease.state = .active)
    (without : session.lease.id = "") (found : session.monitors[index]? = some ⟨false, .creating⟩)
    (begun : start ≤ now) (down : outages.Down now) :
    Seeking outages start settings.retryInterval now (session.sleepAgain now index) := by
  refine ⟨active, now, begun, Nat.le_refl _, Nat.le_add_right _ _, down, ?_⟩
  intro position since wait sleeps
  have delay : session.nextDelay = settings.retryInterval := by
    rw [Session.nextDelay, if_pos without, timing]
  rcases Session.untold_of_setMonitor sleeps with same | ⟨asleep, -⟩
  · -- Another monitor that was not told to stop would be the one that can be told, too.
    have held := monitored.untold position _ same
    rw [monitored.untold index _ found] at held
    cases held
    rw [found] at same
    cases same
  · cases asleep
    exact ⟨rfl, delay⟩

/-- A monitor that has asked for a lease has got one, or goes on without it. -/
private theorem watched_of_create {result : Except Error String} {index : Nat}
    (watched : Watched outages start ttl settings
      ⟨now, session, history, some (.monitor index, .create session.name session.ttl), store⟩)
    (workable : Workable ttl settings) (without : session.lease.id = "")
    (found : session.monitors[index]? = some ⟨false, .creating⟩)
    (served : store.serve sweep now fresh (.create session.name session.ttl) = (result, after))
    (named : fresh ≠ "")
    (stepped : session.step now (.answered (.monitor index) (.created result)) = some (next, call)) :
    Watched outages start ttl settings
      ⟨now, next, history.add ⟨now, session, .answered (.monitor index) (.created result), next, call⟩,
        Session.Moment.asks? ⟨now, session, .answered (.monitor index) (.created result), next, call⟩,
        after⟩ := by
  obtain rfl : session.monitorCreated now index result = next := by
    have known : session.step now (.answered (.monitor index) (.created result)) =
        some (session.monitorCreated now index result, none) := by
      simp [Session.step, Session.answer, found]
    rw [known] at stepped
    cases stepped
    rfl
  obtain ⟨active, tried, begun, past, -⟩ := watched.seeking without
  have made := watched.creations
  rw [if_pos without] at made
  have told : result = if store.reachable then .ok fresh
      else .error (.backendUnavailable "in-memory backend is unreachable") := by
    rw [← serve_create (watched.terms.1 ▸ workable), served]
  refine watched_of_step watched stepped rfl ?_ (serve_reachable served) (fun still => ?_) ?_
  · rintro _ _ ⟨⟩
    rfl
  · by_cases up : store.reachable = true
    · rw [told, if_pos up] at still
      exact absurd still named
    · have down : outages.Down now := Classical.not_not.mp fun not => up (watched.reached.mpr not)
      rw [told, if_neg up]
      exact seeking_of_failure watched.lived.monitored watched.terms.2 active without found
        (Nat.le_trans begun past) down
  · by_cases up : store.reachable = true
    · rw [creations_add, made, told, if_pos up]
      exact (if_neg named).symm
    · rw [creations_add, made, told, if_neg up]
      exact (if_pos without).symm

/-- A renewal leaves the id of the lease, whatever its answer is. -/
theorem monitorRenewed_id {index : Nat} {result : Except Error Unit} :
    (session.monitorRenewed now index result).lease.id = session.lease.id := by
  cases result with
  | ok => rfl
  | error error =>
    simp only [Session.monitorRenewed]
    split
    · split <;> rfl
    · rfl

/-- A monitor that has asked for a renewal leaves the id of the lease. -/
private theorem watched_of_renew {result : Except Error Unit} {index : Nat} {id held : String}
    (watched : Watched outages start ttl settings
      ⟨now, session, history, some (.monitor index, .renew id), store⟩)
    (leased : session.lease.id ≠ "")
    (found : session.monitors[index]? = some ⟨false, .renewing held⟩)
    (served : store.serve sweep now fresh (.renew id) = (result, after))
    (stepped : session.step now (.answered (.monitor index) (.renewed result)) = some (next, call)) :
    Watched outages start ttl settings
      ⟨now, next, history.add ⟨now, session, .answered (.monitor index) (.renewed result), next, call⟩,
        Session.Moment.asks? ⟨now, session, .answered (.monitor index) (.renewed result), next, call⟩,
        after⟩ := by
  have same : next.lease.id = session.lease.id := by
    have known : session.step now (.answered (.monitor index) (.renewed result)) =
        some (session.monitorRenewed now index result, none) := by
      simp [Session.step, Session.answer, found]
    rw [known] at stepped
    cases stepped
    exact monitorRenewed_id
  refine watched_of_step watched stepped rfl ?_ (serve_reachable served) (fun without => ?_) ?_
  · rintro _ _ ⟨⟩
    rfl
  · exact absurd (same ▸ without) leased
  · rw [creations_add, same]
    exact watched.creations

theorem Watched.answered {made : Manager.Call} {result : made.request.Outcome} {task : Task}
    (watched : Watched outages start ttl settings ⟨now, session, history, some (task, made), store⟩)
    (workable : Workable ttl settings)
    (served : store.serve sweep now fresh made.request = (result, after)) (named : fresh ≠ "")
    (stepped : session.step now (.answered task (made.reply result)) = some (next, call)) :
    Watched outages start ttl settings
      ⟨now, next, history.add ⟨now, session, .answered task (made.reply result), next, call⟩,
        Session.Moment.asks? ⟨now, session, .answered task (made.reply result), next, call⟩, after⟩ := by
  have works := (watched.works task made).mpr rfl
  cases task with
  | caller index => exact absurd works watched.untouched.caller_rests
  | monitor index =>
    obtain ⟨phase, found⟩ := watched.heeds index made rfl
    have waits := works
    rw [Session.standing_monitor found] at waits
    have fits : session.lease.id = "" ∧ made = .create session.name session.ttl ∨
        session.lease.id ≠ "" ∧ made = .renew session.lease.id :=
      (watched.lived.fitting.monitor index made works).2
    rcases fits with ⟨without, rfl⟩ | ⟨leased, rfl⟩
    · cases phase <;> cases waits
      exact watched_of_create watched workable without found served named stepped
    · cases phase <;> cases waits
      exact watched_of_renew watched leased found served stepped

theorem Watched.step (watched : Watched outages start ttl settings world)
    (workable : Workable ttl settings) (step : Step outages world later)
    (intact : Intact later.history) : Watched outages start ttl settings later := by
  cases step with
  | waited later idle asleep reached => exact watched.waited later idle asleep reached
  | moved unanswered stepped =>
    exact watched.moved unanswered stepped (intact _ List.mem_cons_self)
  | answered served named stepped => exact watched.answered workable served named stepped
  | shared unswitched happens =>
    exact { watched with reached := happen_reachable unswitched happens ▸ watched.reached }

theorem Watched.run (watched : Watched outages start ttl settings world)
    (workable : Workable ttl settings) (run : Relation.ReflTransGen (Step outages) world later)
    (intact : Intact later.history) : Watched outages start ttl settings later := by
  induction run with
  | refl => exact watched
  | tail _ step ih => exact (ih (step.intact intact)).step workable step intact

/-! ## Runs that go on -/

/-- A world in which no call has begun. -/
structure Alone (outages : Outages) (start : Instant) (ttl : Duration) (settings : SessionSettings)
    (world : World) : Prop extends Watched outages start ttl settings world where
  intact : Intact world.history
  nobody : world.session.callers = []

/-- Nothing is to happen before some time goes by. -/
structure Resting (world : World) : Prop where
  asked : world.asked = none
  idle : world.session.ready? = none
  asleep : ∀ monitor ∈ world.session.monitors, ∀ due, monitor.due? = some due → world.now < due

/-- Without any time going by, a world comes to a state in which nothing is to happen. -/
def Settles (outages : Outages) (start : Instant) (ttl : Duration) (settings : SessionSettings)
    (world : World) : Prop :=
  ∃ later, Relation.ReflTransGen (Step outages) world later ∧ later.now = world.now ∧
    Alone outages start ttl settings later ∧ Resting later

theorem standing_only {phase : Session.Monitor.Phase} (only : session.monitors = [⟨false, phase⟩]) :
    session.standing (.monitor 0) = session.monitorStanding phase := by
  simp [Session.standing, only]

theorem setMonitor_only {old phase : Session.Monitor.Phase} (only : session.monitors = [⟨false, old⟩]) :
    (session.setMonitor 0 phase).monitors = [⟨false, phase⟩] := by
  simp [Session.setMonitor, only]

section
variable {phase : Session.Monitor.Phase} (alone : Alone outages start ttl settings world)
variable (only : world.session.monitors = [⟨false, phase⟩])
include alone only

/-- There is nobody but the monitor. -/
theorem Alone.absent {task : Task} (other : task ≠ .monitor 0) :
    world.session.standing task = .absent := by
  cases task with
  | caller index => simp [Session.standing, alone.nobody]
  | monitor index =>
    cases index with
    | zero => exact absurd rfl other
    | succ index => simp [Session.standing, only]

/-- Unless the monitor works, no call is to be answered. -/
theorem Alone.asked_eq_none
    (free : ∀ made, world.session.monitorStanding phase ≠ .working made) : world.asked = none := by
  refine Option.eq_none_iff_forall_ne_some.mpr fun ⟨task, made⟩ asked => ?_
  have works := (alone.works task made).mpr asked
  by_cases monitor : task = .monitor 0
  · rw [monitor, standing_only only] at works
    exact free made works
  · rw [alone.absent only monitor] at works
    cases works

/-- A monitor that has ended or is to sleep on leaves nothing to be done. -/
theorem Alone.resting
    (still : phase = .ended ∨ ∃ since wait, phase = .asleep since wait ∧ world.now < since + wait.nanos) :
    Resting world := by
  have absent (task : Task) : world.session.standing task = .absent := by
    by_cases monitor : task = .monitor 0
    · rw [monitor, standing_only only]
      rcases still with rfl | ⟨since, wait, rfl, -⟩ <;> rfl
    · exact alone.absent only monitor
  have empty : world.session.queue = [] := by
    refine List.eq_nil_iff_forall_not_mem.mpr fun task member => ?_
    exact (alone.lived.orderly.mem_queue task).mp member (absent task)
  refine ⟨alone.asked_eq_none only fun made => ?_, ?_, ?_⟩
  · rw [← standing_only only, absent]
    nofun
  · simp [Session.ready?, only, empty]
  · intro monitor member due found
    rw [only] at member
    cases List.mem_singleton.mp member
    rcases still with rfl | ⟨since, wait, rfl, ahead⟩
    · cases found
    · cases found
      exact ahead

end

private theorem alone_of_watched {asked asks : Option (Task × Manager.Call)} {moment : Session.Moment}
    (alone : Alone outages start ttl settings ⟨now, session, history, asked, store⟩)
    (watched : Watched outages start ttl settings ⟨now, next, history.add moment, asks, after⟩)
    (quiet : moment.event.touches = false) (callers : next.callers = session.callers) :
    Alone outages start ttl settings ⟨now, next, history.add moment, asks, after⟩ := by
  refine ⟨watched, ?_, callers.trans alone.nobody⟩
  rintro earlier (_ | ⟨_, member⟩)
  · exact quiet
  · exact alone.intact earlier member

/-- A monitor that works is answered, and then nothing is to be done. -/
theorem Alone.settle_working {phase : Session.Monitor.Phase}
    (alone : Alone outages start ttl settings world) (workable : Workable ttl settings)
    (only : world.session.monitors = [⟨false, phase⟩])
    (works : phase = .creating ∨ ∃ id, phase = .renewing id) :
    Settles outages start ttl settings world := by
  obtain ⟨now, session, history, asked, store⟩ := world
  obtain ⟨made, waits⟩ : ∃ made, session.standing (.monitor 0) = .working made := by
    rw [standing_only only]
    rcases works with rfl | ⟨id, rfl⟩ <;> exact ⟨_, rfl⟩
  obtain rfl := (alone.works (.monitor 0) made).mp waits
  cases served : store.serve .oldestFirst now "L" made.request with
  | mk result after =>
    obtain ⟨⟨next, call⟩, stepped⟩ :=
      Option.isSome_iff_exists.mp (Session.step_of_working waits result now)
    have workable' : Workable session.ttl session.settings := by
      rw [alone.terms.1, alone.terms.2]
      exact workable
    obtain ⟨callers, asleep, monitors, still⟩ :=
      Session.monitor_answered workable' (Session.transition_of_step stepped)
    have reached := alone_of_watched alone
      (alone.toWatched.answered workable served (by decide) stepped) rfl callers
    refine ⟨_, .single (.answered served (by decide) stepped), rfl, reached,
      reached.resting (monitors.trans (setMonitor_only only)) ?_⟩
    rcases still with ended | ⟨wait, slept, positive⟩
    · exact .inl ended
    · exact .inr ⟨now, wait, slept, Nat.lt_add_of_pos_right positive⟩

/-- A monitor that waits for its turn has it, and then nothing is to be done. -/
theorem Alone.settle_queued (alone : Alone outages start ttl settings world)
    (workable : Workable ttl settings) (only : world.session.monitors = [⟨false, .queued⟩]) :
    Settles outages start ttl settings world := by
  obtain ⟨now, session, history, asked, store⟩ := world
  obtain rfl : asked = none := alone.asked_eq_none only nofun
  have waits : session.standing (.monitor 0) = .waiting := standing_only only
  have head : session.queue.head? = some (.monitor 0) := by
    have queued := (alone.lived.orderly.mem_queue (.monitor 0)).mpr (by rw [waits]; nofun)
    obtain ⟨task, first⟩ : ∃ task, session.queue.head? = some task :=
      Option.isSome_iff_exists.mp (List.isSome_head?.mpr (List.ne_nil_of_mem queued))
    have present := (alone.lived.orderly.mem_queue task).mp (List.mem_of_mem_head? first)
    by_cases monitor : task = .monitor 0
    · rw [first, monitor]
    · exact absurd (alone.absent only monitor) present
  obtain ⟨⟨next, call⟩, stepped⟩ :=
    Option.isSome_iff_exists.mp (Session.step_of_head head waits now)
  obtain ⟨callers, phase, monitors, went⟩ :=
    Session.monitor_granted (Session.transition_of_step stepped)
  have moved : Step outages ⟨now, session, history, none, store⟩ _ := .moved (by rintro _ _ ⟨⟩) stepped
  have reached := alone_of_watched alone (alone.toWatched.moved (by rintro _ _ ⟨⟩) stepped rfl) rfl callers
  have after := monitors.trans (setMonitor_only only)
  rcases went with ended | works
  · exact ⟨_, .single moved, rfl, reached, reached.resting after (.inl ended)⟩
  · obtain ⟨later, run, same, settled⟩ := reached.settle_working workable after works
    exact ⟨later, .head moved run, same, settled⟩

/-- The monitor does what it can do without time going by. -/
theorem Alone.settle (alone : Alone outages start ttl settings world) (workable : Workable ttl settings) :
    Settles outages start ttl settings world := by
  obtain ⟨phase, only⟩ := alone.untouched.attended alone.lived.monitored alone.nobody
  cases phase with
  | ended => exact ⟨world, .refl, rfl, alone, alone.resting only (.inl rfl)⟩
  | creating => exact alone.settle_working workable only (.inl rfl)
  | renewing id => exact alone.settle_working workable only (.inr ⟨id, rfl⟩)
  | queued => exact alone.settle_queued workable only
  | asleep since wait =>
    by_cases ahead : world.now < since + wait.nanos
    · exact ⟨world, .refl, rfl, alone, alone.resting only (.inr ⟨since, wait, rfl, ahead⟩)⟩
    · obtain ⟨now, session, history, asked, store⟩ := world
      obtain rfl : asked = none := alone.asked_eq_none only nofun
      have stepped : session.step now (.woke 0) =
          some ({ session.setMonitor 0 .queued with queue := session.queue ++ [.monitor 0] }, none) :=
        Session.step_of_transition (.woke (by rw [only]; rfl) (Nat.le_of_not_lt ahead))
      have reached :=
        alone_of_watched alone (alone.toWatched.moved (by rintro _ _ ⟨⟩) stepped rfl) rfl rfl
      have queued : (session.setMonitor 0 .queued).monitors = [⟨false, .queued⟩] := setMonitor_only only
      obtain ⟨later, run, same, settled⟩ := reached.settle_queued workable queued
      exact ⟨later, .head (.moved (by rintro _ _ ⟨⟩) stepped) run, same, settled⟩

/-- While nothing is to be done, time goes by. -/
theorem Alone.pass (alone : Alone outages start ttl settings world) (resting : Resting world)
    (before : world.now < time) :
    ∃ later, Step outages world later ∧ Alone outages start ttl settings later ∧
      world.now < later.now ∧ later.now ≤ time := by
  obtain ⟨now, session, history, asked, store⟩ := world
  obtain ⟨rfl, idle, asleep⟩ := resting
  obtain ⟨bound, forward, within, due⟩ : ∃ bound, now < bound ∧ bound ≤ time ∧
      ∀ monitor ∈ session.monitors, ∀ due, monitor.due? = some due → bound ≤ due := by
    obtain ⟨phase, only⟩ := alone.untouched.attended alone.lived.monitored alone.nobody
    dsimp only at only asleep
    simp only [only, List.mem_singleton, forall_eq] at asleep ⊢
    cases found : Session.Monitor.due? ⟨false, phase⟩ with
    | none => exact ⟨time, before, Nat.le_refl _, nofun⟩
    | some due =>
      refine ⟨min due time, Nat.lt_min.mpr ⟨asleep due found, before⟩, Nat.min_le_right _ _, ?_⟩
      rintro _ ⟨⟩
      exact Nat.min_le_left _ _
  obtain ⟨reachable, reached⟩ : ∃ reachable : Bool, reachable = true ↔ ¬ outages.Down bound := by
    classical exact ⟨decide _, decide_eq_true_iff⟩
  exact ⟨_, .waited forward idle due reached,
    ⟨alone.toWatched.waited forward idle due reached, alone.intact, alone.nobody⟩, forward, within⟩

/-- Every time comes. -/
theorem Alone.reach (alone : Alone outages start ttl settings world) (workable : Workable ttl settings)
    (order : world.now ≤ time) :
    ∃ later, Relation.ReflTransGen (Step outages) world later ∧ later.now = time ∧
      Alone outages start ttl settings later := by
  induction left : time - world.now using Nat.strongRecOn generalizing world with
  | ind rest ih =>
    rcases Nat.lt_or_eq_of_le order with before | arrived
    · obtain ⟨still, settling, same, settled, resting⟩ := alone.settle workable
      obtain ⟨next, passed, onward, forward, within⟩ := settled.pass resting (same ▸ before)
      have shorter : time - next.now < rest := by
        rw [← left, ← same]
        exact Nat.sub_lt_sub_left (same ▸ before) forward
      obtain ⟨last, run, there, reached⟩ := ih _ shorter onward within rfl
      exact ⟨last, settling.trans (.head passed run), there, reached⟩
    · exact ⟨world, .refl, arrived, alone⟩

/-! ## Beginnings -/

/-- A session that is made has a lease if and only if the store is within reach. -/
private theorem opened_id {id : String} (workable : Workable ttl settings)
    (opened : Session.opened start name ttl settings
      (store.serve sweep start id (.create name ttl)).1 = .ok session) :
    session.lease.id = if store.reachable then id else "" := by
  obtain ⟨-, cause⟩ := Session.fresh_of_opened opened
  rw [serve_create workable] at cause
  by_cases up : store.reachable = true
  · rw [if_pos up] at cause ⊢
    rcases cause with made | ⟨-, _, failed, -⟩
    · exact (Except.ok.inj made).symm
    · cases failed
  · rw [if_neg up] at cause ⊢
    rcases cause with made | ⟨without, -⟩
    · cases made
    · exact without

/-- A session is made whether the store is within reach or not, and is watched from then on. -/
theorem opened_watched {id : String} (valid : Session.validate ttl settings = .ok ()) (named : id ≠ "")
    (reached : store.reachable = true ↔ ¬ outages.Down start) :
    ∃ session, Session.opened start name ttl settings
        (store.serve sweep start id (.create name ttl)).1 = .ok session ∧
      Watched outages start ttl settings
        ⟨start, session, ⟨(store.serve sweep start id (.create name ttl)).1, []⟩, none,
          (store.serve sweep start id (.create name ttl)).2⟩ := by
  have workable := workable_of_validate valid
  obtain ⟨session, opened⟩ : ∃ session, Session.opened start name ttl settings
      (store.serve sweep start id (.create name ttl)).1 = .ok session := by
    rw [serve_create workable]
    split <;> exact ⟨_, rfl⟩
  obtain ⟨fresh, -⟩ := Session.fresh_of_opened opened
  obtain ⟨-, sameTtl, sameSettings⟩ := Session.terms_of_opened opened
  have lease := opened_id workable opened
  refine ⟨session, opened, .opened valid opened, ⟨sameTtl, sameSettings⟩,
    Session.untouched_fresh fresh, fun task made => ?_, nofun, ?_, fun without => ?_, ?_⟩
  · refine iff_of_false (fun works => ?_) nofun
    have head := (Session.orderly_fresh fresh).first task made works
    rw [fresh.queue] at head
    cases head
  · have kept : (store.serve sweep start id (.create name ttl)).2.reachable = store.reachable :=
      serve_reachable rfl
    exact kept ▸ reached
  · have down : outages.Down start := by
      refine Classical.not_not.mp fun up => named ?_
      rwa [lease, if_pos (reached.mpr up)] at without
    refine ⟨fresh.active, start, Nat.le_refl _, Nat.le_refl _, Nat.le_add_right _ _, down, ?_⟩
    intro index since wait sleeps
    have delay : session.nextDelay = settings.retryInterval := by
      rw [Session.nextDelay, if_pos without, sameSettings]
    rw [fresh.monitors, delay, List.getElem?_singleton] at sleeps
    split at sleeps
    · cases sleeps
      exact ⟨rfl, rfl⟩
    · cases sleeps
  · rw [lease, serve_create workable]
    by_cases up : store.reachable = true
    · rw [if_pos up, if_pos up, if_neg named]
      rfl
    · rw [if_neg up, if_neg up, if_pos rfl]
      rfl

/-- A session that is watched has a lease if the store has been within reach for a retry interval. -/
theorem Watched.leased (watched : Watched outages start ttl settings world)
    (up : ∀ time, start ≤ time → time ≤ world.now →
      world.now ≤ time + settings.retryInterval.nanos → ¬ outages.Down time) :
    world.session.id ≠ "" := by
  intro without
  obtain ⟨-, tried, within, past, recent, down, -⟩ := watched.seeking without
  exact up tried within past recent down

/-- **The first window is caught.** A session with valid terms is made, whether the store is within reach or
not. From then on, as long as nobody tears it down, it has a lease at every time that ends a retry interval
in which the store was within reach since the session was made; the store makes at most one lease for it,
however often it goes out of reach; and until a call begins every time comes. -/
theorem window_caught {id : String} (valid : Session.validate ttl settings = .ok ()) (named : id ≠ "")
    (reached : store.reachable = true ↔ ¬ outages.Down start) :
    ∃ session, Session.opened start name ttl settings
        (store.serve sweep start id (.create name ttl)).1 = .ok session ∧
      ∀ world, Relation.ReflTransGen (Step outages)
          ⟨start, session, ⟨(store.serve sweep start id (.create name ttl)).1, []⟩, none,
            (store.serve sweep start id (.create name ttl)).2⟩ world → Intact world.history →
        ((∀ time, start ≤ time → time ≤ world.now →
            world.now ≤ time + settings.retryInterval.nanos → ¬ outages.Down time) →
          world.session.id ≠ "") ∧
        creations world.history ≤ 1 ∧
        (world.session.callers = [] → ∀ time, world.now ≤ time →
          ∃ later, Relation.ReflTransGen (Step outages) world later ∧ later.now = time ∧
            Intact later.history) := by
  have workable := workable_of_validate valid
  obtain ⟨session, opened, begun⟩ := opened_watched valid named reached
  refine ⟨session, opened, fun world run intact => ?_⟩
  have watched := begun.run workable run intact
  refine ⟨watched.leased, ?_, fun nobody time order => ?_⟩
  · rw [watched.creations]
    split
    · exact Nat.zero_le _
    · exact Nat.le_refl _
  · obtain ⟨later, onward, arrived, alone⟩ :=
      Alone.reach ⟨watched, intact, nobody⟩ workable order
    exact ⟨later, onward, arrived, alone.intact⟩

end

/-- An outage from the beginning on, of two seconds and a half. -/
def early : Outages := fun number => if number = 0 then some ⟨0, 2500000000, by decide⟩ else none

private theorem down_early {time : Instant} : early.Down time ↔ time < 2500000000 := by
  constructor
  · rintro ⟨number, outage, listed, -, during⟩
    unfold early at listed
    split at listed
    · cases listed
      exact during
    · cases listed
  · exact fun during => ⟨0, _, rfl, Nat.zero_le _, during⟩

/-- A session that is made during an outage has its only lease a second after the end. -/
theorem early_window_caught : ∃ session world,
    Session.validate (.seconds 20) {} = .ok () ∧
    Session.opened 0 "worker" (.seconds 20) {}
      (Store.serve .oldestFirst { reachable := false } 0 "L1" (.create "worker" (.seconds 20))).1 =
        .ok session ∧
    session.id = "" ∧
    Relation.ReflTransGen (Step early) ⟨0, session,
      ⟨(Store.serve .oldestFirst { reachable := false } 0 "L1" (.create "worker" (.seconds 20))).1, []⟩,
      none,
      (Store.serve .oldestFirst { reachable := false } 0 "L1" (.create "worker" (.seconds 20))).2⟩
      world ∧
    Intact world.history ∧ world.now = 3500000000 ∧ world.session.id ≠ "" ∧
    creations world.history ≤ 1 := by
  have reached : ({ reachable := false } : Store).reachable = true ↔ ¬ early.Down 0 :=
    iff_of_false nofun fun up => up (down_early.mpr (by decide))
  have valid : Session.validate (.seconds 20) {} = .ok () := rfl
  obtain ⟨session, opened, each⟩ :=
    @window_caught early 0 (.seconds 20) {} { reachable := false } .oldestFirst "worker" "L1" valid
      (by decide) reached
  obtain ⟨fresh, -⟩ := Session.fresh_of_opened opened
  have without : session.id = "" := opened_id (workable_of_validate valid) opened
  obtain ⟨-, -, comes⟩ := each _ .refl (by rintro _ ⟨⟩)
  obtain ⟨world, run, arrived, intact⟩ := comes fresh.callers 3500000000 (Nat.zero_le _)
  obtain ⟨leased, once, -⟩ := each world run intact
  refine ⟨session, world, valid, opened, without, run, intact, arrived, leased ?_, once⟩
  intro time _ _ recent down
  have retry : (SessionSettings.retryInterval {}).nanos = 1000000000 := rfl
  rw [arrived, retry] at recent
  exact Nat.not_le_of_lt (Nat.add_lt_add_right (down_early.mp down) 1000000000) recent

end Leasehold.Windows
