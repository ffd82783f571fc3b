import Mathlib.Algebra.Ring.Nat
import Leasehold.Proofs.Session.Pacing

/-! How many renewals of a session can fail in a row. Timers fire at whole milliseconds, so that between
two attempts at least one whole millisecond begins. The count of failures is therefore behind the whole
milliseconds since the last success (`OnClock`), of which there are not many before the TTL is over. -/
namespace Leasehold

/-- The whole milliseconds of a span, rounded up. -/
def Duration.millisUp (span : Duration) : Nat := (span.nanos + 999999) / 1000000

namespace Session

open Tolerance (retryDelay Workable workable_of_validate)

/-! ## The clock -/

/-- How many whole milliseconds the clock has run. -/
def millisAt (time : Nat) : Nat := time / 1000000

/-- The first whole millisecond at a time or after it. -/
def nextMilli (time : Nat) : Nat := (time + 999999) / 1000000 * 1000000

/-- Whether a monitor that wakes at this moment has slept until a whole millisecond at or after the end
of its wait. -/
def Moment.wakesOnTime (moment : Moment) : Bool :=
  match moment.event with
  | .woke index =>
    ((moment.before.monitors[index]?).bind Monitor.due?).all (nextMilli · ≤ moment.now)
  | _ => true

/-- The time of the latest moment of a run that began at some time. -/
def latest (start : Instant) : List Moment → Instant
  | [] => start
  | moment :: _ => moment.now

/-- A run on a clock that does not run backwards and whose timers fire at whole milliseconds. -/
def Clocked (start : Instant) : List Moment → Prop
  | [] => True
  | moment :: earlier =>
    latest start earlier ≤ moment.now ∧ moment.wakesOnTime = true ∧ Clocked start earlier

instance decidableClocked (start : Instant) : ∀ moments, Decidable (Clocked start moments)
  | [] => .isTrue trivial
  | _ :: earlier =>
    have := decidableClocked start earlier
    inferInstanceAs (Decidable (_ ∧ _ ∧ _))

/-- Where a monitor stands after so many whole milliseconds that are accounted for: it has begun to sleep
since they were over, or is awake one millisecond later. -/
inductive OnClock (now : Instant) (count : Nat) : Monitor.Phase → Prop where
  | asleep (begun : count ≤ millisAt since) (past : since ≤ now) (positive : 0 < wait.nanos) :
      OnClock now count (.asleep since wait)
  | queued (passed : count < millisAt now) : OnClock now count .queued
  | creating (passed : count < millisAt now) : OnClock now count .creating
  | renewing (passed : count < millisAt now) : OnClock now count (.renewing held)
  | ended : OnClock now count .ended

/-- The milliseconds of a session that are accounted for: those before the last success, and one for each
failure since. -/
def accountedMillis (session : Session) : Nat :=
  millisAt session.lease.renewedAt + session.lease.failures

/-- The failures of a session are behind the clock. -/
structure Counted (now : Instant) (session : Session) : Prop where
  /-- The last success lies in the past. -/
  past : session.lease.renewedAt ≤ now
  /-- The failures are few. -/
  few : session.lease.failures ≤ 1 + session.ttl.millisUp
  /-- A monitor that may fail again has one failure to spare. -/
  spare : ∀ (index : Nat) phase, session.monitors[index]? = some ⟨false, phase⟩ →
    phase ≠ .ended → session.lease.failures ≤ session.ttl.millisUp
  /-- Monitors that were not told to stop keep to the clock. -/
  onClock : ∀ (index : Nat) phase, session.monitors[index]? = some ⟨false, phase⟩ →
    OnClock now session.accountedMillis phase

section
variable {initial session next : Session} {event : Event} {call : Option Manager.Call}
variable {now start since : Instant} {index other count : Nat} {history : History}
variable {moments : List Moment} {phase before : Monitor.Phase} {wait span : Duration}

theorem millisAt_mono {earlier time : Nat} (order : earlier ≤ time) :
    millisAt earlier ≤ millisAt time :=
  Nat.div_le_div_right order

/-- A timer that is due after some time fires in a later millisecond. -/
theorem millisAt_lt_of_due {begun wait time : Nat} (positive : 0 < wait)
    (fires : nextMilli (begun + wait) ≤ time) : millisAt begun < millisAt time := by
  unfold nextMilli at fires
  unfold millisAt
  omega

/-- A monitor that wakes on time does so when its wait is over, at a whole millisecond. -/
theorem fires_of_wakesOnTime {cancelled : Bool}
    (sleeps : session.monitors[index]? = some ⟨cancelled, .asleep since wait⟩)
    (wakes : Moment.wakesOnTime ⟨now, session, .woke index, next, call⟩ = true) :
    nextMilli (since + wait.nanos) ≤ now := by
  unfold Moment.wakesOnTime at wakes
  dsimp only at wakes
  rw [sleeps, Option.bind_some, Monitor.due?, Option.all_some] at wakes
  exact of_decide_eq_true wakes

theorem OnClock.later {time : Instant} (onClock : OnClock now count phase) (order : now ≤ time) :
    OnClock time count phase := by
  have passed (before : count < millisAt now) : count < millisAt time :=
    Nat.lt_of_lt_of_le before (millisAt_mono order)
  cases onClock with
  | asleep begun past positive => exact .asleep begun (Nat.le_trans past order) positive
  | queued before => exact .queued (passed before)
  | creating before => exact .creating (passed before)
  | renewing before => exact .renewing (passed before)
  | ended => exact .ended

theorem Counted.later {time : Instant} (counted : Counted now session) (order : now ≤ time) :
    Counted time session :=
  ⟨Nat.le_trans counted.past order, counted.few, counted.spare,
    fun index phase found => (counted.onClock index phase found).later order⟩

/-- Failures that all fell into the TTL are not more than it has milliseconds. -/
theorem failures_le_millisUp {renewedAt failures time : Nat} (past : renewedAt ≤ time)
    (passed : millisAt renewedAt + failures ≤ millisAt time)
    (early : time - renewedAt < span.nanos) : failures ≤ span.millisUp := by
  unfold millisAt at passed
  unfold Duration.millisUp
  omega

theorem nextDelay_pos (workable : Workable session.ttl session.settings) :
    0 < session.nextDelay.nanos := by
  have retry : 0 < (retryDelay session.ttl session.settings).nanos := workable.retry
  unfold nextDelay
  dsimp only
  split
  · rw [retryDelay, Duration.shorter_nanos] at retry
    exact (Nat.lt_min.mp retry).2
  · split
    · exact retry
    · exact workable.renewal

/-- An accepted TTL is at most a day. -/
theorem nanos_le_of_validate {timing : SessionSettings} (valid : validate span timing = .ok ()) :
    span.nanos ≤ 86400000000000 := by
  have short : ¬ maxSessionTtl.nanos < span.nanos := by
    intro long
    simp [validate, long] at valid
  exact Nat.le_of_not_lt short

theorem millisUp_le_of_validate {timing : SessionSettings} (valid : validate span timing = .ok ()) :
    span.millisUp ≤ 86400000 := by
  have day := nanos_le_of_validate valid
  unfold Duration.millisUp
  omega

/-! ## Monitors after a step -/

/-- Who was not told to stop after all were told was not told before. -/
theorem untold_of_told (found : session.toldMonitors[index]? = some ⟨false, phase⟩) :
    session.monitors[index]? = some ⟨false, phase⟩ := by
  rw [toldMonitors_get, Option.map_eq_some_iff] at found
  obtain ⟨⟨cancelled, _⟩, present, same⟩ := found
  cases cancelled
  · obtain ⟨-, rfl⟩ := Monitor.mk.inj same
    exact present
  · cases same

/-- After a monitor went on, each monitor is that one or as before. -/
theorem untold_of_setMonitor
    (found : (session.setMonitor index before).monitors[other]? = some ⟨false, phase⟩) :
    session.monitors[other]? = some ⟨false, phase⟩ ∨
      phase = before ∧ ∃ earlier, session.monitors[other]? = some ⟨false, earlier⟩ ∧ index = other := by
  rw [setMonitor_get, Option.map_eq_some_iff] at found
  obtain ⟨⟨cancelled, earlier⟩, present, same⟩ := found
  split at same
  · rename_i here
    cases same
    exact .inr ⟨rfl, earlier, present, here⟩
  · rw [same] at present
    exact .inl present

/-! ## Steps -/

/-- The lease is timed as before, and each monitor is as before, has ended or keeps to the clock. -/
private theorem counted_of_same (counted : Counted now session)
    (renewedAt : next.lease.renewedAt = session.lease.renewedAt)
    (failures : next.lease.failures = session.lease.failures) (ttl : next.ttl = session.ttl)
    (each : ∀ (index : Nat) phase, next.monitors[index]? = some ⟨false, phase⟩ →
      session.monitors[index]? = some ⟨false, phase⟩ ∨ phase = .ended ∨
        session.lease.failures ≤ session.ttl.millisUp ∧
          OnClock now session.accountedMillis phase) : Counted now next := by
  have accounted : next.accountedMillis = session.accountedMillis := by
    rw [accountedMillis, accountedMillis, renewedAt, failures]
  refine ⟨renewedAt ▸ counted.past, ?_, fun index phase found live => ?_,
    fun index phase found => ?_⟩
  · rw [failures, ttl]
    exact counted.few
  · rw [failures, ttl]
    rcases each index phase found with same | rfl | ⟨spare, _⟩
    · exact counted.spare index phase same live
    · exact absurd rfl live
    · exact spare
  · rw [accounted]
    rcases each index phase found with same | rfl | ⟨_, onClock⟩
    · exact counted.onClock index phase same
    · exact .ended
    · exact onClock

/-- A monitor went on that was not told to stop, and the lease is timed as before. -/
private theorem counted_of_onward (counted : Counted now session)
    (found : session.monitors[index]? = some ⟨cancelled, before⟩) (live : before ≠ .ended)
    (renewedAt : next.lease.renewedAt = session.lease.renewedAt)
    (failures : next.lease.failures = session.lease.failures) (ttl : next.ttl = session.ttl)
    (monitors : next.monitors = (session.setMonitor index phase).monitors)
    (onClock : OnClock now session.accountedMillis before → OnClock now session.accountedMillis phase) :
    Counted now next := by
  refine counted_of_same counted renewedAt failures ttl fun position reached present => ?_
  rw [monitors] at present
  rcases untold_of_setMonitor present with same | ⟨rfl, earlier, known, rfl⟩
  · exact .inl same
  · rw [known] at found
    cases found
    exact .inr (.inr ⟨counted.spare _ _ known live, onClock (counted.onClock _ _ known)⟩)

/-- The monitor that was not told to stop has begun to sleep, or has ended, with new times of the
lease. -/
private theorem counted_of_only (monitored : session.Monitored)
    (waits : session.monitors[index]? = some ⟨false, before⟩)
    (monitors : next.monitors = (session.setMonitor index phase).monitors)
    (past : next.lease.renewedAt ≤ now) (few : next.lease.failures ≤ 1 + next.ttl.millisUp)
    (spare : phase ≠ .ended → next.lease.failures ≤ next.ttl.millisUp)
    (onClock : OnClock now next.accountedMillis phase) : Counted now next := by
  -- Nobody else was not told, so that it is enough to look at this monitor.
  have only : ∀ (position : Nat) reached, next.monitors[position]? = some ⟨false, reached⟩ →
      reached = phase := by
    intro position reached present
    rw [monitors] at present
    rcases untold_of_setMonitor present with same | ⟨rfl, _⟩
    · have held := monitored.untold position reached same
      rw [monitored.untold index before waits] at held
      cases held
      simpa [setMonitor_get, waits] using present.symm
    · rfl
  refine ⟨past, few, fun position reached present live => ?_, fun position reached present => ?_⟩
  · obtain rfl := only position reached present
    exact spare live
  · obtain rfl := only position reached present
    exact onClock

/-- A new generation has begun: its monitor sleeps, and all others were told to stop. -/
private theorem counted_of_start (untold : ∀ (index : Nat) phase,
      next.monitors[index]? = some ⟨false, phase⟩ → phase = .asleep now wait)
    (renewedAt : next.lease.renewedAt = now) (failures : next.lease.failures = 0)
    (positive : 0 < wait.nanos) : Counted now next := by
  refine ⟨Nat.le_of_eq renewedAt, ?_, fun _ _ _ _ => ?_, fun index phase found => ?_⟩
  · rw [failures]
    exact Nat.zero_le _
  · rw [failures]
    exact Nat.zero_le _
  · obtain rfl := untold index phase found
    rw [accountedMillis, renewedAt, failures]
    exact .asleep (Nat.le_refl _) (Nat.le_refl _) positive

/-- Nobody but the monitors that were told has changed. -/
private theorem counted_of_told (counted : Counted now session)
    (renewedAt : next.lease.renewedAt = session.lease.renewedAt)
    (failures : next.lease.failures = session.lease.failures) (ttl : next.ttl = session.ttl)
    (monitors : next.monitors = session.toldMonitors) : Counted now next := by
  refine counted_of_same counted renewedAt failures ttl fun index phase found => .inl ?_
  rw [monitors] at found
  exact untold_of_told found

/-- A monitor has ended, and the lease is timed as before. -/
private theorem counted_of_end (counted : Counted now session)
    (renewedAt : next.lease.renewedAt = session.lease.renewedAt)
    (failures : next.lease.failures = session.lease.failures) (ttl : next.ttl = session.ttl)
    (monitors : next.monitors = (session.setMonitor index .ended).monitors) : Counted now next := by
  refine counted_of_same counted renewedAt failures ttl fun position reached present => ?_
  rw [monitors] at present
  rcases untold_of_setMonitor present with same | ⟨rfl, _⟩
  · exact .inl same
  · exact .inr (.inl rfl)

theorem counted_fresh (fresh : session.Fresh now) (positive : 0 < session.nextDelay.nanos) :
    Counted now session := by
  refine counted_of_start (fun index phase found => ?_) fresh.renewedAt fresh.failures positive
  rw [fresh.monitors, List.getElem?_singleton] at found
  split at found
  · cases found
    rfl
  · cases found

/-- Whatever happens, the failures of a session stay behind the clock. -/
theorem counted_preserved (counted : Counted now session) (lived : Lived history session)
    (workable : Workable session.ttl session.settings)
    (outcome : Transition now session event next call)
    (wakes : Moment.wakesOnTime ⟨now, session, event, next, call⟩ = true) : Counted now next := by
  have monitored := lived.monitored
  have ttl := ttl_after outcome
  -- A monitor that waits for an answer has a failure to spare, and a millisecond for it.
  have awake {index : Nat} {held : String}
      (waits : session.monitors[index]? = some ⟨false, .renewing held⟩) :
      session.lease.failures ≤ session.ttl.millisUp ∧ session.accountedMillis < millisAt now := by
    refine ⟨counted.spare _ _ waits (by rintro ⟨⟩), ?_⟩
    cases counted.onClock _ _ waits with
    | renewing passed => exact passed
  cases outcome
  case began =>
    refine counted_of_told counted ?_ ?_ ttl ?_ <;> rw [stopMonitor_eq]
  case found | closed | surrendered =>
    refine counted_of_told counted ?_ ?_ ttl ?_ <;> simp [stopMonitor_eq, fire, setCaller]
  case noticed | retired | ignored | denied | lost =>
    exact counted_of_end counted rfl rfl ttl rfl
  case forgone | deserted | refused =>
    exact counted_of_same counted rfl rfl ttl fun _ _ found => .inl found
  case released =>
    refine counted_of_same counted ?_ ?_ ttl fun _ _ found => .inl ?_
    · simp [fire]
    · simp [fire]
    · simpa [fire] using found
  case woke asleep _ =>
    refine counted_of_onward counted asleep (by rintro ⟨⟩) rfl rfl ttl rfl fun onClock => ?_
    cases onClock with
    | asleep begun _ positive =>
      have fires := fires_of_wakesOnTime asleep wakes
      exact .queued (Nat.lt_of_le_of_lt begun (millisAt_lt_of_due positive fires))
  case asked queued _ _ =>
    refine counted_of_onward counted queued (by rintro ⟨⟩) rfl rfl ttl rfl fun onClock => ?_
    cases onClock with
    | queued passed => exact .creating passed
  case renews queued _ _ =>
    refine counted_of_onward counted queued (by rintro ⟨⟩) rfl rfl ttl rfl fun onClock => ?_
    cases onClock with
    | queued passed => exact .renewing passed
  case postponed waits _ =>
    refine counted_of_onward counted waits (by rintro ⟨⟩) rfl rfl ttl rfl fun onClock => ?_
    cases onClock with
    | creating passed =>
      exact .asleep (Nat.le_of_lt passed) (Nat.le_refl _) (nextDelay_pos workable)
  case armed waits | renewed waits =>
    refine counted_of_only monitored waits rfl (Nat.le_refl _) (Nat.zero_le _)
      (fun _ => Nat.zero_le _) ?_
    exact .asleep (Nat.le_refl _) (Nat.le_refl _) (nextDelay_pos workable)
  case failed waits retryable early =>
    obtain ⟨-, passed⟩ := awake waits
    have counts : millisAt session.lease.renewedAt + (session.lease.failures + 1) ≤ millisAt now :=
      Nat.succ_le_of_lt passed
    have spare := failures_le_millisUp counted.past counts early
    refine counted_of_only monitored waits rfl counted.past ?_ (fun _ => spare) ?_
    · exact Nat.le_trans spare (Nat.le_add_left _ _)
    · exact .asleep counts (Nat.le_refl _) (nextDelay_pos workable)
  case expired waits retryable late =>
    obtain ⟨spare, -⟩ := awake waits
    refine counted_of_only monitored waits rfl counted.past ?_ (absurd rfl) .ended
    rw [Nat.add_comm 1]
    exact Nat.succ_le_succ spare
  case recreated made _ waits =>
    rw [recreated_eq]
    exact counted_of_start (fun index phase found => (untold_is_last monitored found).2) rfl rfl
      (@nextDelay_pos (session.arm now made) workable)
  case dropped =>
    refine counted_of_same counted ?_ ?_ ttl fun position phase found => ?_
    · rw [stopMonitor_eq]
      rfl
    · rw [stopMonitor_eq]
      rfl
    · rcases untold_of_setMonitor found with same | ⟨rfl, _⟩
      · rw [stopMonitor_eq] at same
        exact .inl (untold_of_told same)
      · exact .inr (.inl rfl)

/-! ## Runs -/

theorem Ran.counted (ran : Ran initial moments session) (valid : validate span timing = .ok ())
    (opened : Session.opened start label span timing first = .ok initial)
    (clocked : Clocked start moments) : Counted (latest start moments) session := by
  have lived : Lived ⟨first, []⟩ initial := .opened valid opened
  obtain ⟨-, span_eq, timing_eq⟩ := terms_of_opened opened
  have workable : Workable initial.ttl initial.settings := by
    rw [span_eq, timing_eq]
    exact workable_of_validate valid
  induction ran with
  | still => exact counted_fresh (fresh_of_opened opened).1 (nextDelay_pos workable)
  | moved ran stepped ih =>
    obtain ⟨onward, wakes, clocked⟩ := clocked
    obtain ⟨-, ttl, settings⟩ := ran.terms
    refine counted_preserved ((ih clocked).later onward) (ran.lived lived) ?_
      (transition_of_step stepped) wakes
    rw [ttl, settings]
    exact workable

/-- **The count of failures is bounded.** On a clock whose timers fire at whole milliseconds, whatever the
manager answers and however late, at every time at most one renewal more than the TTL has milliseconds has
failed since the last success. So a word of 32 bits counts them all. -/
theorem failures_bounded (valid : validate span timing = .ok ())
    (opened : Session.opened start label span timing first = .ok initial)
    (ran : Ran initial moments session) (clocked : Clocked start moments) :
    session.lease.failures ≤ 1 + span.millisUp ∧ session.lease.failures < 2 ^ 32 := by
  have few := (ran.counted valid opened clocked).few
  rw [ran.terms.2.1, (terms_of_opened opened).2.1] at few
  refine ⟨few, Nat.lt_of_le_of_lt few ?_⟩
  exact Nat.lt_of_le_of_lt (Nat.add_le_add_left (millisUp_le_of_validate valid) 1) (by decide)

end

/-- A session with a TTL of two milliseconds that renews its lease as soon as it can. It begins right
before a whole millisecond. -/
def hurried : Session :=
  startMonitor 999999
    { name := "a-session", ttl := ⟨2000000, by decide⟩
      settings := { renewInterval := some ⟨1, by decide⟩ }, lease := ⟨"L1", .active, 999999, 0⟩ }

/-- A renewal that fails at some time. -/
def failedAttempt (now : Instant) : List (Instant × Event) :=
  [(now, .woke 0), (now, .granted (.monitor 0)),
    (now, .answered (.monitor 0) (.renewed (.error (.backendUnavailable "connection refused"))))]

/-- Three renewals fail while two milliseconds go by. -/
theorem hurried_failures_bounded : ∃ moments session,
    follow hurried (failedAttempt 1000000 ++ failedAttempt 2000000 ++ failedAttempt 3000000) =
        some (moments, session) ∧
      Clocked 999999 moments ∧ session.state = .invalidated ∧
      session.lease.failures = 1 + hurried.ttl.millisUp ∧ session.lease.failures < 2 ^ 32 := by
  obtain ⟨moments, session, followed, clocked, invalidated, failures⟩ : ∃ moments session,
      follow hurried (failedAttempt 1000000 ++ failedAttempt 2000000 ++ failedAttempt 3000000) =
          some (moments, session) ∧
        Clocked 999999 moments ∧ session.state = .invalidated ∧
        session.lease.failures = 1 + hurried.ttl.millisUp :=
    ⟨_, _, rfl, by decide, rfl, rfl⟩
  have valid : validate hurried.ttl hurried.settings = .ok () := rfl
  have opened : Session.opened 999999 "a-session" hurried.ttl hurried.settings (.ok "L1") =
    .ok hurried := rfl
  obtain ⟨-, counts⟩ := failures_bounded valid opened (ran_of_follow followed) clocked
  exact ⟨moments, session, followed, clocked, invalidated, failures, counts⟩

end Session

end Leasehold
