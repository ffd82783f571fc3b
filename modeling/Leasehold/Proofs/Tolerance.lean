import Mathlib.Logic.Relation
import Leasehold.Proofs.Session.Transition
import Leasehold.Proofs.Store.History

/-! A session and a store that goes out of reach now and then. Timers fire when they are due and the
store answers at once, and other clients may use the store meanwhile (`Step`).

What carries the argument is when the monitor asks for the next renewal (`Scheduled`). After a success
that is one renewal interval later. If it fails, an outage had begun by then, and the monitor tries
again and again. The first attempt after the outage comes within one retry delay of its end: before the
TTL is over, since outages are short, and before the next outage, since they are apart. -/
namespace Leasehold.Tolerance

/-! ## Outages -/

/-- A time out of reach, from its beginning to right before its end. -/
structure Outage where
  /-- The first time at which the store is out of reach. -/
  begins : Instant
  /-- The first time at which it is back. -/
  ends : Instant
  /-- It begins before it ends. -/
  ordered : begins ≤ ends

/-- The outages of a store in the order of their numbers, finitely many or infinitely many. -/
def Outages : Type := Nat → Option Outage

/-- How long a monitor that has failed to renew its lease waits before it tries again. -/
def retryDelay (ttl : Duration) (settings : SessionSettings) : Duration :=
  (settings.renewIntervalFor ttl).shorter settings.retryInterval

namespace Outages

/-- Whether a time falls into an outage. -/
def Down (outages : Outages) (time : Instant) : Prop :=
  ∃ index outage, outages index = some outage ∧ outage.begins ≤ time ∧ time < outage.ends

/-- Outages that a session with this timing is to live through. -/
structure Tolerable (outages : Outages) (ttl : Duration) (settings : SessionSettings) : Prop where
  /-- No outage is longer than the TTL without a renewal interval and a retry delay. -/
  short : ∀ index outage, outages index = some outage →
    outage.ends + (settings.renewIntervalFor ttl).nanos + (retryDelay ttl settings).nanos ≤
      outage.begins + ttl.nanos
  /-- From the end of an outage to the beginning of a later one there is time for a retry. -/
  apart : ∀ index other earlier later, index < other → outages index = some earlier →
    outages other = some later → earlier.ends + (retryDelay ttl settings).nanos ≤ later.begins

end Outages

/-! ## Runs -/

/-- A session, the store that keeps its lease, and the time. -/
structure World where
  now : Instant
  session : Session
  store : Store

/-- Whether an event comes neither from a caller nor from the manager. -/
def isOwn : Session.Event → Bool
  | .woke _ | .noticed _ | .granted _ => true
  | .began _ | .answered _ _ | .forgone _ | .dropped => false

/-- Events of a store that other clients cause and that do not take this lease away. -/
def Spares (id : String) : Store.Event → Prop
  | .requested request | .admitted request => request ≠ .destroy id
  | .counted => True
  | .switched _ | .wiped => False

/-- What can happen next, as long as nobody gives up the session or its lease. -/
inductive Step (outages : Outages) (id : String) : World → World → Prop where
  /-- Time goes by while nothing else is to happen, at most until a monitor is due. -/
  | waited (later : now < time) (idle : session.ready? = none)
      (asleep : ∀ monitor ∈ session.monitors, ∀ due, monitor.due? = some due → time ≤ due)
      (reached : reachable = true ↔ ¬ outages.Down time) :
      Step outages id ⟨now, session, store⟩ ⟨time, session, store.setReachable reachable⟩
  /-- Something happens to the session by itself. -/
  | moved (own : isOwn event = true) (stepped : session.step now event = some (next, none)) :
      Step outages id ⟨now, session, store⟩ ⟨now, next, store⟩
  /-- The session makes a call, and the store answers at once. -/
  | called {call : Manager.Call} {result : call.request.Outcome}
      (stepped : session.step now (.granted task) = some (asking, some call))
      (served : store.serve sweep now fresh call.request = (result, after))
      (answered : asking.step now (.answered task (call.reply result)) = some (next, none)) :
      Step outages id ⟨now, session, store⟩ ⟨now, next, after⟩
  /-- Another client uses the store. Leases that it makes have ids of their own. -/
  | shared (spares : Spares id event) (unused : store.hasLease fresh = false)
      (happens : store.happen sweep now fresh event = (answer, after)) :
      Step outages id ⟨now, session, store⟩ ⟨now, session, after⟩

/-! ## The lease -/

section
variable {store next : Store} {id fresh : String} {ttl : Duration} {now limit : Instant}
variable {sweep : Store.Sweep}

/-- A lease is in the store, with its TTL and with a deadline that is not before some time. -/
structure Lasts (store : Store) (id : String) (ttl : Duration) (limit : Instant) : Prop where
  known : store.hasLease id = true
  each : ∀ lease ∈ store.leases, lease.id = id → lease.ttl = ttl ∧ limit ≤ lease.deadline

theorem Lasts.live (lasts : Lasts store id ttl limit) (ahead : now < limit) :
    id ∉ store.overdue now := by
  intro overdue
  obtain ⟨lease, member, same, due⟩ := Store.mem_overdue.mp overdue
  exact Nat.not_le_of_lt ahead (Nat.le_trans (lasts.each lease member same).2 due)

theorem Lasts.prune (lasts : Lasts store id ttl limit) (sweep : Store.Sweep) (ahead : now < limit) :
    Lasts (store.prune sweep now) id ttl limit :=
  ⟨Store.hasLease_prune.mpr ⟨lasts.known, lasts.live ahead⟩,
    fun lease member => lasts.each lease (Store.mem_prune.mp member).1⟩

theorem prune_reachable : (store.prune sweep now).reachable = store.reachable :=
  Store.removeAll_reachable

theorem served_reachable (served : Store.Served store now fresh request result next) :
    next.reachable = store.reachable := by
  cases served with
  | destroyed => rw [Store.removeLease]; split <;> rfl
  | _ => rfl

/-- A lease that lives on lasts for its TTL, and one that does not lasts as long as before. -/
private theorem lasts_renewed (lasts : Lasts store id ttl limit) (renewed : String)
    (now : Instant) : Lasts { store with
      leases := store.leases.map fun lease =>
        if lease.id = renewed then lease.renewAt now else lease } id ttl
      (if renewed = id then now + ttl.nanos else limit) := by
  refine ⟨?_, ?_⟩
  · obtain ⟨lease, member, same⟩ := List.mem_map.mp (Store.hasLease_iff.mp lasts.known)
    refine Store.hasLease_iff.mpr (List.mem_map.mpr ⟨_, List.mem_map_of_mem member, ?_⟩)
    split <;> exact same
  · intro lease member same
    obtain ⟨old, known, rfl⟩ := List.mem_map.mp member
    split at same
    · rename_i own
      have same : old.id = id := same
      have kept := (lasts.each old known same).1
      simp [own, Store.Lease.renewAt, kept, own.symm.trans same]
    · rename_i other
      have different : renewed ≠ id := fun own => other (same.trans own.symm)
      rw [if_neg other, if_neg different]
      exact lasts.each old known same

/-- A request of another client leaves the lease as it is, or lets it live on. -/
theorem Lasts.of_served (lasts : Lasts store id ttl limit)
    (served : Store.Served store now fresh request result next) (spares : request ≠ .destroy id)
    (other : fresh ≠ id) (later : limit ≤ now + ttl.nanos) : Lasts next id ttl limit := by
  cases served with
  | created =>
    refine ⟨?_, ?_⟩
    · rw [Store.hasLease_iff, Store.ids, List.map_append]
      exact List.mem_append_left _ (Store.hasLease_iff.mp lasts.known)
    · intro lease member same
      rcases List.mem_append.mp member with old | last
      · exact lasts.each lease old same
      · cases List.mem_singleton.mp last
        exact absurd same other
  | @renewed renewed =>
    have renewed := lasts_renewed lasts renewed now
    refine ⟨renewed.known, fun lease member same => ?_⟩
    obtain ⟨kept, due⟩ := renewed.each lease member same
    refine ⟨kept, Nat.le_trans ?_ due⟩
    split
    · exact later
    · exact Nat.le_refl _
  | @destroyed gone =>
    have kept : id ≠ gone := fun same => spares (congrArg _ same.symm)
    exact ⟨Store.hasLease_removeLease.mpr ⟨lasts.known, kept⟩,
      fun lease member => lasts.each lease (Store.mem_removeLease.mp member).1⟩
  | _ => exact ⟨lasts.known, lasts.each⟩

/-- What another client does to the store leaves the lease and the reachability of the store. -/
theorem Lasts.of_happen (lasts : Lasts store id ttl limit) (ahead : now < limit)
    (later : limit ≤ now + ttl.nanos) (spares : Spares id event)
    (unused : store.hasLease fresh = false)
    (happens : store.happen sweep now fresh event = (answer, next)) :
    Lasts next id ttl limit ∧ next.reachable = store.reachable := by
  have other : fresh ≠ id := by
    rintro rfl
    rw [lasts.known] at unused
    cases unused
  cases Store.course_of_happen happens with
  | declined => exact ⟨lasts, rfl⟩
  | served about _ served =>
    refine ⟨(lasts.prune sweep ahead).of_served served ?_ other later,
      (served_reachable served).trans prune_reachable⟩
    rcases about with rfl | rfl <;> exact spares
  | switched => exact spares.elim
  | counted => exact ⟨lasts.prune sweep ahead, prune_reachable⟩
  | wiped => exact spares.elim

/-- A store within reach renews a lease that lasts. -/
theorem Lasts.renew (lasts : Lasts store id ttl limit) (sweep : Store.Sweep) (fresh : String)
    (ahead : now < limit) (reached : store.reachable = true) :
    ∃ next, store.serve sweep now fresh (.renew id) = (.ok (), next) ∧
      Lasts next id ttl (now + ttl.nanos) ∧ next.reachable = true := by
  have pruned := lasts.prune sweep ahead
  refine ⟨{ store.prune sweep now with
    leases := (store.prune sweep now).leases.map fun lease =>
      if lease.id = id then lease.renewAt now else lease }, ?_, ?_, prune_reachable.trans reached⟩
  · simp [Store.serve, Store.refusal?, reached, Store.serveLive, pruned.known]
  · simpa using lasts_renewed pruned id now

end

/-! ## The next attempt -/

/-- When a lease is to be renewed next that was renewed at some time, after so many failures. -/
inductive Scheduled (outages : Outages) (ttl : Duration) (settings : SessionSettings)
    (renewedAt : Instant) : Nat → Instant → Prop where
  /-- The first attempt comes after the renewal interval. -/
  | first : Scheduled outages ttl settings renewedAt 0
      (renewedAt + (settings.renewIntervalFor ttl).nanos)
  /-- All attempts that have failed fell into one outage, and this one comes at most one retry delay
  after its end. -/
  | again (listed : outages index = some outage)
      (begun : outage.begins ≤ renewedAt + (settings.renewIntervalFor ttl).nanos)
      (tried : outage.begins + (retryDelay ttl settings).nanos ≤ time)
      (soon : time < outage.ends + (retryDelay ttl settings).nanos) :
      Scheduled outages ttl settings renewedAt (failures + 1) time

section
variable {outages : Outages} {ttl : Duration} {settings : SessionSettings}
variable {renewedAt time : Instant} {failures : Nat}

private theorem in_time {begins ends time renewedAt renewal delay ttl : Nat}
    (begun : begins ≤ renewedAt + renewal) (soon : time < ends + delay)
    (short : ends + renewal + delay ≤ begins + ttl) : time < renewedAt + ttl := by
  omega

/-- Each attempt comes before the TTL is over. -/
theorem Scheduled.early (scheduled : Scheduled outages ttl settings renewedAt failures time)
    (tolerable : outages.Tolerable ttl settings)
    (shorter : (settings.renewIntervalFor ttl).nanos < ttl.nanos) : time < renewedAt + ttl.nanos := by
  cases scheduled with
  | first => exact Nat.add_lt_add_left shorter _
  | again listed begun tried soon =>
    exact in_time begun soon (tolerable.short _ _ listed)

/-- An attempt that falls into an outage is made again after the retry delay. -/
theorem Scheduled.failed (scheduled : Scheduled outages ttl settings renewedAt failures time)
    (tolerable : outages.Tolerable ttl settings) (down : outages.Down time) :
    Scheduled outages ttl settings renewedAt (failures + 1)
      (time + (retryDelay ttl settings).nanos) := by
  obtain ⟨number, current, known, begun, during⟩ := down
  have soon := Nat.add_lt_add_right during (retryDelay ttl settings).nanos
  cases scheduled with
  | first => exact .again known begun (Nat.add_le_add_right begun _) soon
  | @again index outage _ _ listed since tried recent =>
    -- the outages being apart, this one is the one that the earlier attempts fell into
    have same : number = index := by
      rcases Nat.lt_trichotomy number index with before | same | behind
      · have apart := tolerable.apart _ _ _ _ before known listed
        have ended := Nat.lt_of_lt_of_le during (Nat.le_trans (Nat.le_add_right _ _) apart)
        exact absurd tried (Nat.not_le_of_lt (Nat.lt_of_lt_of_le ended (Nat.le_add_right _ _)))
      · exact same
      · have apart := tolerable.apart _ _ _ _ behind listed known
        exact absurd (Nat.le_trans apart begun) (Nat.not_le_of_lt recent)
    subst same
    cases known.symm.trans listed
    exact .again listed since (Nat.add_le_add_right begun _) soon

end

/-! ## The session -/

/-- A session without calls, whose only monitor was not told to stop. -/
def attended (name : String) (ttl : Duration) (settings : SessionSettings) (lease : Session.Lease)
    (queue : List Session.Task) (phase : Session.Monitor.Phase) : Session :=
  { name, ttl, settings, lease, queue, monitors := [⟨false, phase⟩], current := some 0 }

/-- The store keeps a lease that was renewed at some time, and is out of reach during outages. -/
structure Backed (outages : Outages) (ttl : Duration) (id : String) (renewedAt now : Instant)
    (store : Store) : Prop where
  past : renewedAt ≤ now
  lasts : Lasts store id ttl (renewedAt + ttl.nanos)
  reached : store.reachable = true ↔ ¬ outages.Down now

/-- The session is active, and its monitor sleeps until the next attempt or is about to make it. -/
inductive Tended (outages : Outages) (name : String) (ttl : Duration) (settings : SessionSettings)
    (id : String) : World → Prop where
  | asleep (backed : Backed outages ttl id renewedAt now store)
      (scheduled : Scheduled outages ttl settings renewedAt failures (since + wait.nanos))
      (ahead : now ≤ since + wait.nanos) :
      Tended outages name ttl settings id
        ⟨now, attended name ttl settings ⟨id, .active, renewedAt, failures⟩ [] (.asleep since wait),
          store⟩
  | due (backed : Backed outages ttl id renewedAt now store)
      (scheduled : Scheduled outages ttl settings renewedAt failures now) :
      Tended outages name ttl settings id
        ⟨now, attended name ttl settings ⟨id, .active, renewedAt, failures⟩ [.monitor 0] .queued,
          store⟩

/-- What the timing of a session needs to be accepted. -/
structure Workable (ttl : Duration) (settings : SessionSettings) : Prop where
  renewal : 0 < (settings.renewIntervalFor ttl).nanos
  shorter : (settings.renewIntervalFor ttl).nanos < ttl.nanos
  retry : 0 < (retryDelay ttl settings).nanos
  accepted : ∀ name, Store.refusal? (.create name ttl) = none

theorem workable_of_validate {ttl : Duration} {settings : SessionSettings}
    (valid : Session.validate ttl settings = .ok ()) : Workable ttl settings := by
  simp only [Session.validate] at valid
  split at valid
  · cases valid
  rename_i span
  split at valid
  · cases valid
  rename_i retry
  split at valid
  · cases valid
  rename_i renewal
  simp only [Duration.isZero, beq_iff_eq, not_or, Nat.not_le] at retry renewal
  have renewal_pos := Nat.pos_of_ne_zero renewal.1
  refine ⟨renewal_pos, renewal.2, ?_, fun name => if_neg span⟩
  rw [retryDelay, Duration.shorter_nanos]
  exact Nat.lt_min.mpr ⟨renewal_pos, Nat.pos_of_ne_zero retry⟩

section
variable {name : String} {ttl : Duration} {settings : SessionSettings} {id : String}
variable {lease : Session.Lease} {now since renewedAt : Instant} {wait : Duration} {failures : Nat}

/-- A monitor that has slept long enough queues up. -/
theorem step_woken (due : since + wait.nanos ≤ now) :
    (attended name ttl settings lease [] (.asleep since wait)).step now (.woke 0) =
      some (attended name ttl settings lease [.monitor 0] .queued, none) := by
  simp [Session.step, Session.setMonitor, attended, due]

/-- A monitor that is first in the queue asks for the renewal of the lease. -/
theorem step_asks (named : id ≠ "") :
    (attended name ttl settings ⟨id, .active, renewedAt, failures⟩ [.monitor 0] .queued).step now
      (.granted (.monitor 0)) =
      some (attended name ttl settings ⟨id, .active, renewedAt, failures⟩ [.monitor 0]
        (.renewing id), some (.renew id)) := by
  simp [Session.step, Session.grant, Session.monitorTurn, Session.setMonitor, attended, named]

/-- While its monitor sleeps, nothing happens to a session by itself but that the monitor wakes. -/
theorem step_asleep (own : isOwn event = true)
    (stepped : (attended name ttl settings lease [] (.asleep since wait)).step now event =
      some (next, call)) :
    since + wait.nanos ≤ now ∧ next = attended name ttl settings lease [.monitor 0] .queued ∧
      call = none := by
  cases event with
  | woke index =>
    cases index with
    | zero =>
      by_cases due : since + wait.nanos ≤ now
      · rw [step_woken due] at stepped
        cases stepped
        exact ⟨due, rfl, rfl⟩
      · simp [Session.step, attended, due] at stepped
    | succ index => simp [Session.step, attended] at stepped
  | noticed index => cases index <;> simp [Session.step, attended] at stepped
  | granted task => simp [Session.step, Session.grant, attended] at stepped
  | _ => cases own

/-- A monitor that is first in the queue renews the lease, and nothing else happens by itself. -/
theorem step_due (named : id ≠ "") (own : isOwn event = true)
    (stepped : (attended name ttl settings ⟨id, .active, renewedAt, failures⟩ [.monitor 0]
      .queued).step now event = some (next, call)) :
    event = .granted (.monitor 0) ∧
      next = attended name ttl settings ⟨id, .active, renewedAt, failures⟩ [.monitor 0]
        (.renewing id) ∧ call = some (.renew id) := by
  cases event with
  | woke index => cases index <;> simp [Session.step, attended] at stepped
  | noticed index => cases index <;> simp [Session.step, attended] at stepped
  | granted task =>
    by_cases first : task = .monitor 0
    · subst first
      rw [step_asks named] at stepped
      cases stepped
      exact ⟨rfl, rfl, rfl⟩
    · simp [Session.step, Session.grant, attended, Ne.symm first] at stepped
  | _ => cases own

/-- A renewal that succeeds is followed by one renewal interval of sleep. -/
theorem step_renewed (named : id ≠ "") :
    (attended name ttl settings ⟨id, .active, renewedAt, failures⟩ [.monitor 0]
      (.renewing id)).step now (.answered (.monitor 0) (.renewed (.ok ()))) =
      some (attended name ttl settings ⟨id, .active, now, 0⟩ []
        (.asleep now (settings.renewIntervalFor ttl)), none) := by
  simp [Session.step, Session.answer, Session.monitorRenewed, Session.sleepAgain, Session.setMonitor,
    Session.leave, Session.nextDelay, attended, named]

/-- A renewal that fails before the TTL is over is followed by one retry delay of sleep. -/
theorem step_failed (named : id ≠ "") (retryable : error.isRetryable = true)
    (past : renewedAt ≤ now) (early : now < renewedAt + ttl.nanos) :
    (attended name ttl settings ⟨id, .active, renewedAt, failures⟩ [.monitor 0]
      (.renewing id)).step now (.answered (.monitor 0) (.renewed (.error error))) =
      some (attended name ttl settings ⟨id, .active, renewedAt, failures + 1⟩ []
        (.asleep now (retryDelay ttl settings)), none) := by
  have time : ¬ ttl.nanos ≤ now - renewedAt :=
    Nat.not_le_of_lt (Nat.sub_lt_left_of_lt_add past early)
  simp [Session.step, Session.answer, Session.monitorRenewed, Session.sleepAgain, Session.setMonitor,
    Session.leave, Session.nextDelay, attended, named, retryable, time, retryDelay]

end

/-! ## Runs that go on -/

section
variable {outages : Outages} {name : String} {ttl : Duration} {settings : SessionSettings}
variable {id fresh : String} {now renewedAt : Instant} {failures : Nat} {store : Store}
variable {world next : World} {sweep : Store.Sweep}

theorem Backed.of_happen {after : Store} (backed : Backed outages ttl id renewedAt now store)
    (early : now < renewedAt + ttl.nanos) (spares : Spares id event)
    (unused : store.hasLease fresh = false)
    (happens : store.happen sweep now fresh event = (answer, after)) :
    Backed outages ttl id renewedAt now after := by
  obtain ⟨lasts, reachable⟩ := backed.lasts.of_happen early
    (Nat.add_le_add_right backed.past _) spares unused happens
  exact ⟨backed.past, lasts, reachable ▸ backed.reached⟩

/-- An attempt succeeds, or it fails and is made again. -/
theorem attempt (name : String) (sweep : Store.Sweep) (fresh : String)
    (tolerable : outages.Tolerable ttl settings) (workable : Workable ttl settings)
    (named : id ≠ "") (backed : Backed outages ttl id renewedAt now store)
    (scheduled : Scheduled outages ttl settings renewedAt failures now) :
    ∃ result after lease wait, store.serve sweep now fresh (.renew id) = (result, after) ∧
      (attended name ttl settings ⟨id, .active, renewedAt, failures⟩ [.monitor 0]
        (.renewing id)).step now (.answered (.monitor 0) (.renewed result)) =
        some (attended name ttl settings lease [] (.asleep now wait), none) ∧
      0 < wait.nanos ∧ Tended outages name ttl settings id
        ⟨now, attended name ttl settings lease [] (.asleep now wait), after⟩ := by
  have early := scheduled.early tolerable workable.shorter
  by_cases down : outages.Down now
  · have unreached : store.reachable = false := by simpa [down] using backed.reached
    have served : store.serve sweep now fresh (.renew id) =
        (.error (.backendUnavailable "in-memory backend is unreachable"), store) := by
      simp [Store.serve, Store.refusal?, unreached]
    exact ⟨_, store, _, retryDelay ttl settings, served, step_failed named rfl backed.past early,
      workable.retry, .asleep backed (scheduled.failed tolerable down) (Nat.le_add_right _ _)⟩
  · obtain ⟨after, served, lasts, reached⟩ :=
      backed.lasts.renew sweep fresh early (backed.reached.mpr down)
    refine ⟨_, after, _, settings.renewIntervalFor ttl, served, step_renewed named,
      workable.renewal, .asleep ⟨Nat.le_refl _, lasts, ?_⟩ .first (Nat.le_add_right _ _)⟩
    simp [reached, down]

/-- No step brings a session out of step with its store. -/
theorem Tended.step (tended : Tended outages name ttl settings id world)
    (tolerable : outages.Tolerable ttl settings) (workable : Workable ttl settings)
    (named : id ≠ "") (step : Step outages id world next) :
    Tended outages name ttl settings id next := by
  cases step with
  | waited later idle asleep reached =>
    cases tended with
    | asleep backed scheduled ahead =>
      have due := asleep _ (List.mem_singleton.mpr rfl) _ rfl
      exact .asleep ⟨Nat.le_trans backed.past (Nat.le_of_lt later),
        ⟨backed.lasts.known, backed.lasts.each⟩, reached⟩ scheduled due
    | due => simp [Session.ready?, attended] at idle
  | moved own stepped =>
    cases tended with
    | asleep backed scheduled ahead =>
      obtain ⟨due, rfl, _⟩ := step_asleep own stepped
      cases Nat.le_antisymm ahead due
      exact .due backed scheduled
    | due =>
      obtain ⟨_, _, call⟩ := step_due named own stepped
      cases call
  | called stepped served answered =>
    cases tended with
    | asleep =>
      obtain ⟨_, _, call⟩ := step_asleep rfl stepped
      cases call
    | due backed scheduled =>
      obtain ⟨event, rfl, call⟩ := step_due named rfl stepped
      cases event
      cases call
      obtain ⟨_, _, _, _, served', answered', _, tended⟩ :=
        attempt name _ _ tolerable workable named backed scheduled
      cases served'.symm.trans served
      cases answered'.symm.trans answered
      exact tended
  | shared spares unused happens =>
    cases tended with
    | asleep backed scheduled ahead =>
      have early := Nat.lt_of_le_of_lt ahead (scheduled.early tolerable workable.shorter)
      exact .asleep (backed.of_happen early spares unused happens) scheduled ahead
    | due backed scheduled =>
      have early := scheduled.early tolerable workable.shorter
      exact .due (backed.of_happen early spares unused happens) scheduled

/-- While a monitor sleeps, time can go by. -/
theorem sleep_on (world : World) {time : Instant}
    (asleep : world.session = attended name ttl settings lease [] (.asleep since wait))
    (ahead : world.now < since + wait.nanos) (later : world.now < time) :
    ∃ next, Step outages id world next ∧ world.now < next.now ∧ next.now ≤ time := by
  obtain ⟨reachable, reached⟩ : ∃ reachable : Bool,
      reachable = true ↔ ¬ outages.Down (min (since + wait.nanos) time) := by
    classical exact ⟨decide _, decide_eq_true_iff⟩
  refine ⟨_, .waited (Nat.lt_min.mpr ⟨ahead, later⟩) ?_ ?_ reached, Nat.lt_min.mpr ⟨ahead, later⟩,
    Nat.min_le_right _ _⟩
  · simp [asleep, Session.ready?, attended]
  · rintro monitor member due found
    rw [asleep] at member
    cases List.mem_singleton.mp member
    cases found
    exact Nat.min_le_left _ _

/-- A monitor that is due makes its attempt, and then time can go by. -/
theorem attempt_on {time : Instant} (tolerable : outages.Tolerable ttl settings)
    (workable : Workable ttl settings) (named : id ≠ "")
    (backed : Backed outages ttl id renewedAt now store)
    (scheduled : Scheduled outages ttl settings renewedAt failures now) (later : now < time) :
    ∃ next, Relation.ReflTransGen (Step outages id)
        ⟨now, attended name ttl settings ⟨id, .active, renewedAt, failures⟩ [.monitor 0] .queued,
          store⟩ next ∧
      now < next.now ∧ next.now ≤ time := by
  obtain ⟨result, after, lease, wait, served, answered, positive, _⟩ :=
    attempt name .oldestFirst "" tolerable workable named backed scheduled
  obtain ⟨next, slept, forward, bound⟩ :=
    sleep_on ⟨now, _, after⟩ rfl (Nat.lt_add_of_pos_right positive) later
  exact ⟨next, .head (.called (step_asks named) served answered) (.single slept), forward, bound⟩

/-- Time never stands still. -/
theorem Tended.advance {time : Instant} (tended : Tended outages name ttl settings id world)
    (tolerable : outages.Tolerable ttl settings) (workable : Workable ttl settings)
    (named : id ≠ "") (later : world.now < time) :
    ∃ next, Relation.ReflTransGen (Step outages id) world next ∧
      world.now < next.now ∧ next.now ≤ time := by
  cases tended with
  | @asleep _ _ _ _ since wait backed scheduled ahead =>
    rcases Nat.lt_or_eq_of_le ahead with early | due
    · obtain ⟨next, slept, forward, bound⟩ := sleep_on _ rfl early later
      exact ⟨next, .single slept, forward, bound⟩
    · cases due
      obtain ⟨next, tried, forward, bound⟩ :=
        attempt_on tolerable workable named backed scheduled later
      exact ⟨next, .head (.moved rfl (step_woken (Nat.le_refl _))) tried, forward, bound⟩
  | due backed scheduled => exact attempt_on tolerable workable named backed scheduled later

theorem Tended.run (tended : Tended outages name ttl settings id world)
    (tolerable : outages.Tolerable ttl settings) (workable : Workable ttl settings)
    (named : id ≠ "") (run : Relation.ReflTransGen (Step outages id) world next) :
    Tended outages name ttl settings id next := by
  induction run with
  | refl => exact tended
  | tail _ step ih => exact ih.step tolerable workable named step

/-- Every time is reached. -/
theorem Tended.reach {time : Instant} (tended : Tended outages name ttl settings id world)
    (tolerable : outages.Tolerable ttl settings) (workable : Workable ttl settings)
    (named : id ≠ "") (later : world.now ≤ time) :
    ∃ next, Relation.ReflTransGen (Step outages id) world next ∧ next.now = time := by
  induction left : time - world.now using Nat.strongRecOn generalizing world with
  | ind rest ih =>
    rcases Nat.lt_or_eq_of_le later with before | arrived
    · obtain ⟨next, run, forward, bound⟩ := tended.advance tolerable workable named before
      have shorter : time - next.now < rest := left ▸ Nat.sub_lt_sub_left before forward
      obtain ⟨last, onward, arrived⟩ :=
        ih _ shorter (tended.run tolerable workable named run) bound rfl
      exact ⟨last, run.trans onward, arrived⟩
    · exact ⟨world, .refl, arrived⟩

/-- A session that gets its lease at once begins well. -/
theorem opened_tended (name : String) (sweep : Store.Sweep) {start : Instant}
    (workable : Workable ttl settings) (named : id ≠ "") (unused : store.hasLease id = false)
    (reached : store.reachable = true) (up : ¬ outages.Down start) :
    ∃ after lease wait, store.serve sweep start id (.create name ttl) = (.ok id, after) ∧
      Session.opened start name ttl settings (.ok id) =
        .ok (attended name ttl settings lease [] (.asleep start wait)) ∧
      Tended outages name ttl settings id
        ⟨start, attended name ttl settings lease [] (.asleep start wait), after⟩ := by
  refine ⟨{ store.prune sweep start with
      leases := (store.prune sweep start).leases ++
        [⟨id, name, ttl, start + ttl.nanos, (store.prune sweep start).index + 1⟩]
      index := (store.prune sweep start).index + 1 }, ⟨id, .active, start, 0⟩,
    settings.renewIntervalFor ttl, ?_, ?_,
    .asleep ⟨Nat.le_refl _, ⟨?_, ?_⟩, ?_⟩ .first (Nat.le_add_right _ _)⟩
  · simp [Store.serve, workable.accepted, reached, Store.serveLive]
  · simp [Session.opened, Session.startMonitor, Session.stopMonitor, Session.nextDelay, attended,
      named]
  · simp [Store.hasLease]
  · intro lease member same
    rcases List.mem_append.mp member with old | last
    · have used := Store.hasLease_of_mem (Store.mem_prune.mp old).1
      rw [same, unused] at used
      cases used
    · cases List.mem_singleton.mp last
      exact ⟨rfl, Nat.le_refl _⟩
  · simp [prune_reachable, reached, up]

/-- What a world shows as long as its session is looked after. -/
theorem Tended.shows (tended : Tended outages name ttl settings id world)
    (tolerable : outages.Tolerable ttl settings) (workable : Workable ttl settings) :
    world.session.state = .active ∧ world.session.id = id ∧
      (Observer.mk 0).recv world.session.signal = none ∧
      ∀ sweep, (world.store.prune sweep world.now).hasLease id = true := by
  cases tended with
  | asleep backed scheduled ahead =>
    have early := Nat.lt_of_le_of_lt ahead (scheduled.early tolerable workable.shorter)
    exact ⟨rfl, rfl, rfl, fun sweep => (backed.lasts.prune sweep early).known⟩
  | due backed scheduled =>
    have early := scheduled.early tolerable workable.shorter
    exact ⟨rfl, rfl, rfl, fun sweep => (backed.lasts.prune sweep early).known⟩

/-- **A session lives through outages.** It gets its lease from a store within reach. From then on, if
the outages are tolerable and nobody gives up the session or takes its lease away, then at every time
the session is active with the same lease, its signal is pending, and the lease is among those that
are left when the store removes what is overdue; and every time comes. -/
theorem outages_tolerated {start : Instant} (valid : Session.validate ttl settings = .ok ())
    (named : id ≠ "") (unused : store.hasLease id = false) (reached : store.reachable = true)
    (up : ¬ outages.Down start) (tolerable : outages.Tolerable ttl settings) :
    ∃ session, Session.opened start name ttl settings
        (store.serve sweep start id (.create name ttl)).1 = .ok session ∧
      ∀ world, Relation.ReflTransGen (Step outages id)
          ⟨start, session, (store.serve sweep start id (.create name ttl)).2⟩ world →
        world.session.state = .active ∧ world.session.id = id ∧
        session.err.recv world.session.signal = none ∧
        (∀ sweep, (world.store.prune sweep world.now).hasLease id = true) ∧
        ∀ time, world.now ≤ time →
          ∃ later, Relation.ReflTransGen (Step outages id) world later ∧ later.now = time := by
  have workable := workable_of_validate valid
  obtain ⟨after, lease, wait, created, opened, begun⟩ :=
    opened_tended name sweep workable named unused reached up
  rw [created]
  refine ⟨_, opened, fun world run => ?_⟩
  have tended := begun.run tolerable workable named run
  obtain ⟨active, same, pending, live⟩ := tended.shows tolerable workable
  exact ⟨active, same, pending, live, fun time later =>
    tended.reach tolerable workable named later⟩

end

/-- Outages of nine seconds with eleven seconds in between, for ever. -/
def recurring : Outages := fun number =>
  some ⟨10000000000 + 20000000000 * number, 19000000000 + 20000000000 * number,
    Nat.add_le_add_right (by decide) _⟩

private theorem recurring_tolerable : recurring.Tolerable (.seconds 20) {} := by
  have renewal : (SessionSettings.renewIntervalFor {} (.seconds 20)).nanos = 10000000000 := rfl
  have retry : (retryDelay (.seconds 20) {}).nanos = 1000000000 := rfl
  have span : (Duration.seconds 20).nanos = 20000000000 := rfl
  refine ⟨?_, ?_⟩
  · rintro number outage listed
    cases listed
    rw [renewal, retry, span]
    show 19000000000 + 20000000000 * number + 10000000000 + 1000000000 ≤
      10000000000 + 20000000000 * number + 20000000000
    omega
  · rintro number other earlier later before listed next
    cases listed
    cases next
    rw [retry]
    show 19000000000 + 20000000000 * number + 1000000000 ≤ 10000000000 + 20000000000 * other
    omega

private theorem up_at_first : ¬ recurring.Down 0 := by
  rintro ⟨number, outage, listed, begun, _⟩
  cases listed
  change 10000000000 + 20000000000 * number ≤ 0 at begun
  omega

theorem recurring_tolerated :
    (Session.validate (.seconds 20) {} = .ok () ∧ "L1" ≠ "" ∧ ({} : Store).hasLease "L1" = false ∧
      ({} : Store).reachable = true ∧ ¬ recurring.Down 0 ∧
      recurring.Tolerable (.seconds 20) {}) ∧
    ∃ session, Session.opened 0 "worker" (.seconds 20) {}
        (Store.serve .oldestFirst {} 0 "L1" (.create "worker" (.seconds 20))).1 = .ok session ∧
      ∀ world, Relation.ReflTransGen (Step recurring "L1")
          ⟨0, session, (Store.serve .oldestFirst {} 0 "L1" (.create "worker" (.seconds 20))).2⟩
          world →
        world.session.state = .active ∧ world.session.id = "L1" ∧
        session.err.recv world.session.signal = none ∧
        (∀ sweep, (world.store.prune sweep world.now).hasLease "L1" = true) ∧
        ∀ time, world.now ≤ time →
          ∃ later, Relation.ReflTransGen (Step recurring "L1") world later ∧ later.now = time :=
  ⟨⟨rfl, by decide, rfl, rfl, up_at_first, recurring_tolerable⟩,
    outages_tolerated rfl (by decide) rfl rfl up_at_first recurring_tolerable⟩

end Leasehold.Tolerance
