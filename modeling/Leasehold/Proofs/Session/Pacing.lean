import Leasehold.Proofs.Session.Outcomes
import Leasehold.Proofs.Tolerance

/-! When the monitor of an active session sleeps, and for how long. Each sleep begins with the answer to an
attempt, so that what the answer was fixes its length: a renewal interval after a success, a retry delay
after a failure (`Pace`). A failure that comes a TTL after the last success is followed by no sleep, since
it ends the session. -/
namespace Leasehold.Session

open Tolerance (retryDelay workable_of_validate)

variable {initial session next : Session} {event : Event} {call : Option Manager.Call}
variable {now start since : Instant} {index : Nat} {history : History} {moments : List Moment}
variable {moment : Moment} {made : Option Instant} {observer : Observer} {wait ttl : Duration}
variable {settings : SessionSettings} {cancelled : Bool}

/-! ## Failed attempts -/

/-- Whether an attempt of the monitor fails at this moment. -/
def Moment.fails (moment : Moment) : Bool :=
  match moment.event with
  | .answered (.monitor index) (.created (.error _))
  | .answered (.monitor index) (.renewed (.error _)) => moment.before.heeds (.monitor index)
  | _ => false

/-- When an attempt failed last in the observed generation, if one failed since the lease was made or
renewed last. -/
def failedAt? (observer : Observer) : List Moment → Option Instant
  | [] => none
  | moment :: earlier =>
    if moment.after.err = observer ∧ moment.succeeds then none
    else if moment.before.err = observer ∧ moment.fails then some moment.now
    else failedAt? observer earlier

/-- How the monitor of a leased session sleeps, by the time of the last success and by the time of the
last failure since, if there is one. -/
inductive Pace (ttl : Duration) (settings : SessionSettings) (succeeded : Instant) :
    Option Instant → Instant → Duration → Prop where
  /-- It sleeps from the success on, for a renewal interval. -/
  | regular : Pace ttl settings succeeded none succeeded (settings.renewIntervalFor ttl)
  /-- It sleeps from the failure on, for a retry delay. The TTL was not over by then. -/
  | retrying (early : failed < succeeded + ttl.nanos) :
      Pace ttl settings succeeded (some failed) failed (retryDelay ttl settings)

/-- While a session is active and has a lease, its monitor sleeps as it should. -/
def Paced (moments : List Moment) (session : Session) : Prop :=
  ∀ cancelled since wait, session.lease.state = .active → session.lease.id ≠ "" →
    session.monitors[session.err.generation]? = some ⟨cancelled, .asleep since wait⟩ →
    Pace session.ttl session.settings session.lease.renewedAt (failedAt? session.err moments) since wait

/-! ## Sleeps -/

theorem failedAt?_quiet (succeeds : moment.succeeds = false) (fails : moment.fails = false) :
    failedAt? observer (moment :: moments) = failedAt? observer moments := by
  simp [failedAt?, succeeds, fails]

theorem failedAt?_success (same : moment.after.err = observer) (succeeds : moment.succeeds = true) :
    failedAt? observer (moment :: moments) = none := by
  simp [failedAt?, same, succeeds]

theorem failedAt?_failure (same : moment.before.err = observer) (succeeds : moment.succeeds = false)
    (fails : moment.fails = true) : failedAt? observer (moment :: moments) = some moment.now := by
  simp [failedAt?, same, succeeds, fails]

theorem nextDelay_of_leased (leased : session.lease.id ≠ "") :
    session.nextDelay = if 0 < session.lease.failures then retryDelay session.ttl session.settings
      else session.settings.renewIntervalFor session.ttl := by
  rw [nextDelay, if_neg leased, retryDelay]

theorem setMonitor_get (session : Session) (index other : Nat) (phase : Monitor.Phase) :
    (session.setMonitor index phase).monitors[other]? = session.monitors[other]?.map fun monitor =>
      if index = other then { monitor with phase } else monitor :=
  List.getElem?_modify _ _ _ _

/-- A monitor that sleeps again sleeps from now on. -/
theorem sleepAgain_asleep
    (asleep : (session.sleepAgain now index).monitors[index]? = some ⟨cancelled, .asleep since wait⟩) :
    since = now ∧ wait = session.nextDelay := by
  have slept : (session.setMonitor index (.asleep now session.nextDelay)).monitors[index]? =
      some ⟨cancelled, .asleep since wait⟩ := asleep
  rw [setMonitor_get, Option.map_eq_some_iff] at slept
  obtain ⟨_, -, same⟩ := slept
  rw [if_pos rfl] at same
  cases same
  exact ⟨rfl, rfl⟩

/-- Who sleeps after a monitor was woken slept before. -/
theorem setMonitor_asleep {phase : Monitor.Phase} (awake : ∀ since wait, phase ≠ .asleep since wait)
    {other : Nat}
    (asleep : (session.setMonitor index phase).monitors[other]? = some ⟨cancelled, .asleep since wait⟩) :
    ∃ told, session.monitors[other]? = some ⟨told, .asleep since wait⟩ := by
  rw [setMonitor_get, Option.map_eq_some_iff] at asleep
  obtain ⟨monitor, found, same⟩ := asleep
  split at same
  · cases same
    exact absurd rfl (awake since wait)
  · rw [same] at found
    exact ⟨cancelled, found⟩

theorem fails_ignored {phase : Monitor.Phase} {reply : Manager.Reply}
    (told : session.monitors[index]? = some ⟨true, phase⟩) :
    Moment.fails ⟨now, session, .answered (.monitor index) reply, next, call⟩ = false := by
  unfold Moment.fails
  split
  · rename_i same; cases same; simp [heeds, told]
  · rename_i same; cases same; simp [heeds, told]
  · rfl

theorem toldMonitors_asleep
    (asleep : session.toldMonitors[index]? = some ⟨cancelled, .asleep since wait⟩) :
    ∃ told, session.monitors[index]? = some ⟨told, .asleep since wait⟩ := by
  rw [toldMonitors_get, Option.map_eq_some_iff] at asleep
  obtain ⟨⟨told, phase⟩, found, same⟩ := asleep
  cases same
  exact ⟨told, found⟩

/-! ## Steps -/

/-- A moment without the end of an attempt, after which nobody sleeps who did not before. -/
private theorem paced_of_quiet (paced : Paced moments session)
    (outcome : Transition now session event next call) (lease : next.lease = session.lease)
    (err : next.err = session.err)
    (asleep : ∀ (index : Nat) cancelled since wait,
      next.monitors[index]? = some ⟨cancelled, .asleep since wait⟩ →
      ∃ told, session.monitors[index]? = some ⟨told, .asleep since wait⟩)
    (succeeds : Moment.succeeds ⟨now, session, event, next, call⟩ = false)
    (fails : Moment.fails ⟨now, session, event, next, call⟩ = false) :
    Paced (⟨now, session, event, next, call⟩ :: moments) next := by
  intro cancelled since wait active leased sleeps
  obtain ⟨-, ttl, settings⟩ := terms_after outcome
  rw [err] at sleeps ⊢
  obtain ⟨told, slept⟩ := asleep _ _ _ _ sleeps
  rw [ttl, settings, lease, failedAt?_quiet succeeds fails]
  rw [lease] at active leased
  exact paced told since wait active leased slept

/-- A session that is not active, or has no lease. -/
private theorem paced_of_unleased (unleased : next.lease.state ≠ .active ∨ next.lease.id = "") :
    Paced moments next := by
  intro cancelled since wait active leased _
  rcases unleased with inactive | without
  · exact absurd active inactive
  · exact absurd without leased

/-- The answer to an attempt, with which the monitor begins to sleep. -/
private theorem paced_of_answer {answered : Session} {phase : Monitor.Phase} {failed : Option Instant}
    (monitored : session.Monitored) (waits : session.monitors[index]? = some ⟨false, phase⟩)
    (err : answered.err = session.err) (last : failedAt? session.err moments = failed)
    (pace : answered.lease.id ≠ "" → Pace answered.ttl answered.settings answered.lease.renewedAt
      failed now answered.nextDelay) :
    Paced moments (answered.sleepAgain now index) := by
  intro cancelled since wait _ leased sleeps
  have generation : session.err.generation = index :=
    (monitored.current index (monitored.untold index phase waits)).1.symm
  have same : (answered.sleepAgain now index).err = session.err := err
  rw [same, generation] at sleeps
  obtain ⟨rfl, rfl⟩ := sleepAgain_asleep sleeps
  rw [same, last]
  exact pace leased

/-- The monitor of a generation begins to sleep with its first success. -/
private theorem paced_of_start (last : failedAt? next.err moments = none)
    (sleeps : next.monitors[next.err.generation]? = some ⟨false, .asleep now next.nextDelay⟩)
    (renewedAt : next.lease.renewedAt = now) (failures : next.lease.failures = 0) :
    Paced moments next := by
  intro cancelled since wait _ leased slept
  rw [sleeps] at slept
  cases slept
  rw [last, nextDelay_of_leased leased, failures, if_neg (Nat.lt_irrefl 0), renewedAt]
  exact .regular

theorem paced_opened (fresh : initial.Fresh start) : Paced [] initial := by
  refine paced_of_start rfl ?_ fresh.renewedAt fresh.failures
  rw [fresh.monitors, err, fresh.signal]
  rfl

theorem paced_preserved (paced : Paced moments session) (lived : Lived history session)
    (outcome : Transition now session event next call) :
    Paced (⟨now, session, event, next, call⟩ :: moments) next := by
  have monitored := lived.monitored
  have step := outcome
  -- Who has a turn as a caller works on a destroyed session.
  have destroyed {index : Nat} {made : Manager.Call}
      (works : session.standing (.caller index) = .working made) : session.lease.state ≠ .active := by
    rw [lived.fitting.caller _ _ works]
    nofun
  cases outcome
  case began =>
    refine paced_of_quiet paced step ?_ ?_ ?_ rfl rfl
    · rw [stopMonitor_eq]
    · simp [err, stopMonitor_eq]
    · intro index cancelled since wait sleeps
      rw [stopMonitor_eq] at sleeps
      exact toldMonitors_asleep sleeps
  case woke | noticed | retired | asked | renews =>
    refine paced_of_quiet paced step rfl rfl ?_ rfl rfl
    exact fun _ _ _ _ sleeps => setMonitor_asleep (by rintro _ _ ⟨⟩) sleeps
  case ignored told _ =>
    refine paced_of_quiet paced step rfl rfl ?_ (succeeds_ignored told) (fails_ignored told)
    exact fun _ _ _ _ sleeps => setMonitor_asleep (by rintro _ _ ⟨⟩) sleeps
  case forgone | deserted =>
    exact paced_of_quiet paced step rfl rfl (fun _ _ _ _ sleeps => ⟨_, sleeps⟩) rfl rfl
  case dropped =>
    refine paced_of_quiet paced step ?_ ?_ ?_ rfl rfl
    · rw [stopMonitor_eq]
      rfl
    · rfl
    · intro index cancelled since wait sleeps
      obtain ⟨_, slept⟩ := setMonitor_asleep (by rintro _ _ ⟨⟩) sleeps
      rw [stopMonitor_eq] at slept
      exact toldMonitors_asleep slept
  case found destroyed =>
    refine paced_of_unleased (.inl ?_)
    simp [stopMonitor_eq, destroyed]
  case closed | surrendered =>
    refine paced_of_unleased (.inl ?_)
    simp [stopMonitor_eq, fire, setCaller]
  case released waits =>
    refine paced_of_unleased (.inl ?_)
    simpa [fire] using destroyed (standing_caller waits)
  case refused waits => exact paced_of_unleased (.inl (destroyed (standing_caller waits)))
  case postponed waits _ =>
    obtain ⟨_, ⟨without, _⟩ | ⟨_, other⟩⟩ := lived.fitting.monitor _ _ (standing_monitor waits)
    · exact paced_of_unleased (.inr without)
    · cases other
  case denied | expired | lost => exact paced_of_unleased (.inl (by rintro ⟨⟩))
  case armed waits | renewed waits =>
    refine paced_of_answer monitored waits rfl (failedAt?_success rfl ?_) fun leased => ?_
    · simp [Moment.succeeds, heeds, waits]
    · rw [nextDelay_of_leased leased]
      exact .regular
  case failed waits retryable early =>
    refine paced_of_answer monitored waits rfl (failedAt?_failure rfl rfl ?_) fun leased => ?_
    · simp [Moment.fails, heeds, waits]
    · rw [nextDelay_of_leased leased, if_pos (Nat.succ_pos _)]
      have before : now < session.lease.renewedAt + session.ttl.nanos :=
        Nat.lt_of_not_le fun passed => Nat.not_le_of_lt early (Nat.le_sub_of_add_le' passed)
      exact .retrying before
  case recreated made _ waits =>
    rw [recreated_eq]
    refine paced_of_start (failedAt?_success rfl rfl) ?_ rfl rfl
    have generation : session.signal.rearm.subscribe.generation = session.toldMonitors.length := by
      rw [toldMonitors_length, monitored.count]
      simp [Signal.rearm, Signal.subscribe]
    change (session.toldMonitors ++ _)[session.signal.rearm.subscribe.generation]? = _
    rw [generation, List.getElem?_concat_length]
    rfl

/-! ## Runs -/

theorem Ran.paced (ran : Ran initial moments session) (valid : validate span timing = .ok ())
    (opened : Session.opened start label span timing first = .ok initial) : Paced moments session := by
  have lived : Lived ⟨first, []⟩ initial := .opened valid opened
  induction ran with
  | still => exact paced_opened (fresh_of_opened opened).1
  | moved ran stepped ih => exact paced_preserved ih (ran.lived lived) (transition_of_step stepped)

/-! ## Verdicts -/

/-- What becomes of a session when a renewal fails, by the time of the last success and of the failure. -/
inductive Verdict (ttl : Duration) (settings : SessionSettings) (succeeded now : Instant) (index : Nat)
    (error : Error) (next : Session) : Prop where
  /-- The lease is lost, and observers are told so at once. -/
  | lost (passed : error.isRetryable = false ∨ succeeded + ttl.nanos ≤ now)
      (state : next.state = .invalidated) (ended : next.monitors[index]? = some ⟨false, .ended⟩)
      (told : next.err.tryRecv next.signal = some (some error))
  /-- The monitor is to try again. -/
  | again (retryable : error.isRetryable = true) (early : now < succeeded + ttl.nanos)
      (state : next.state = .active)
      (asleep : next.monitors[index]? = some ⟨false, .asleep now (retryDelay ttl settings)⟩)

/-- Observers of an active session are told of the error with which it is invalidated. -/
private theorem Lived.told_of_invalidate (lived : Lived history session)
    (waits : session.monitors[index]? = some ⟨false, phase⟩) (active : session.lease.state = .active)
    {error : Error} (signal : next.signal = (session.signal.fire (some error)).2) :
    next.err.tryRecv next.signal = some (some error) := by
  refine (told_of_settled ?_).1
  cases lived.settlement (lived.alive_of_untold waits) with
  | active _ _ _ shown =>
    rw [signal, Signal.fire, shown]
    rfl
  | lost inactive => exact absurd active inactive
  | releasing destroyed | released destroyed | interrupted destroyed =>
    rw [active] at destroyed
    cases destroyed

/-- Each failed renewal comes to one of the two verdicts. -/
theorem Lived.verdict (lived : Lived history session) {held : String} (positive : 0 < session.ttl.nanos)
    (waits : session.monitors[index]? = some ⟨false, .renewing held⟩) (now : Instant) (error : Error) :
    ∃ next, session.step now (.answered (.monitor index) (.renewed (.error error))) = some (next, none) ∧
      Verdict session.ttl session.settings session.lease.renewedAt now index error next := by
  obtain ⟨active, ⟨_, other⟩ | ⟨leased, _⟩⟩ := lived.fitting.monitor _ _ (standing_monitor waits)
  · cases other
  by_cases retryable : error.isRetryable = true
  · by_cases late : session.ttl.nanos ≤ now - session.lease.renewedAt
    · have passed : session.lease.renewedAt + session.ttl.nanos ≤ now :=
        Nat.add_le_of_le_sub' (Nat.le_of_lt (Nat.lt_of_sub_pos (Nat.lt_of_lt_of_le positive late))) late
      refine ⟨_, step_of_transition (.expired waits retryable late), .lost (.inr passed) rfl ?_ ?_⟩
      · simp [endMonitor, leave, setMonitor, invalidate, fire, waits]
      · exact lived.told_of_invalidate waits active rfl
    · have early := Nat.lt_of_not_le late
      have before : now < session.lease.renewedAt + session.ttl.nanos :=
        Nat.lt_of_not_le fun passed => late (Nat.le_sub_of_add_le' passed)
      refine ⟨_, step_of_transition (.failed waits retryable early), .again retryable before active ?_⟩
      simp [sleepAgain, leave, setMonitor, waits, nextDelay, leased, retryDelay]
  · have fatal : error.isRetryable = false := Bool.eq_false_iff.mpr retryable
    refine ⟨_, step_of_transition (.lost waits fatal), .lost (.inl fatal) rfl ?_ ?_⟩
    · simp [endMonitor, leave, setMonitor, invalidate, fire, waits]
    · exact lived.told_of_invalidate waits active rfl

/-- **The monitor never sleeps past its verdict.** While a session is active and has a lease, each sleep of
its monitor begins before the TTL is over. It ends one renewal interval after the last success, which is
before the TTL is over, or one retry delay after the last failure since. So a failed renewal invalidates
the session at once if it comes when the TTL is over, and otherwise only if no retry would help. -/
theorem monitor_paced (valid : validate span timing = .ok ())
    (opened : Session.opened start label span timing first = .ok initial)
    (ran : Ran initial moments session) :
    (∀ cancelled since wait, session.state = .active → session.id ≠ "" →
      session.monitors[session.err.generation]? = some ⟨cancelled, .asleep since wait⟩ →
      ∃ succeeded, succeededAt? (madeAt? start first) session.err moments = some succeeded ∧
        since < succeeded + span.nanos ∧
        (failedAt? session.err moments = none →
          since + wait.nanos = succeeded + (timing.renewIntervalFor span).nanos ∧
            since + wait.nanos < succeeded + span.nanos) ∧
        (∀ failed, failedAt? session.err moments = some failed →
          since + wait.nanos = failed + (retryDelay span timing).nanos ∧
            since + wait.nanos < succeeded + span.nanos + (retryDelay span timing).nanos) ∧
        ∀ now, (session.step now (.woke session.err.generation)).isSome ↔ since + wait.nanos ≤ now) ∧
      ∀ index held now error, session.monitors[index]? = some ⟨false, .renewing held⟩ →
        ∃ succeeded next, succeededAt? (madeAt? start first) session.err moments = some succeeded ∧
          session.step now (.answered (.monitor index) (.renewed (.error error))) = some (next, none) ∧
          Verdict span timing succeeded now index error next := by
  have timed := (ran.ruled valid opened).1
  have paced := ran.paced valid opened
  have lived := ran.lived (.opened valid opened)
  obtain ⟨-, sameTtl, sameSettings⟩ := ran.terms
  obtain ⟨-, openedTtl, openedSettings⟩ := terms_of_opened opened
  have ttl := sameTtl.trans openedTtl
  have settings := sameSettings.trans openedSettings
  refine ⟨?_, ?_⟩
  · intro cancelled since wait active leased asleep
    have shorter := (workable_of_validate valid).shorter
    have pace := paced cancelled since wait active leased asleep
    have wakes (now : Instant) :
        (session.step now (.woke session.err.generation)).isSome ↔ since + wait.nanos ≤ now := by
      by_cases due : since + wait.nanos ≤ now <;> simp [step, asleep, due]
    rw [ttl, settings] at pace
    refine ⟨_, timed leased, ?_⟩
    generalize failedAt? session.err moments = last at pace
    cases pace with
    | regular =>
      refine ⟨?_, fun _ => ⟨rfl, ?_⟩, by rintro _ ⟨⟩, wakes⟩
      · exact Nat.lt_add_of_pos_right (positive_of_validate valid)
      · exact Nat.add_lt_add_left shorter _
    | retrying early =>
      refine ⟨early, by rintro ⟨⟩, ?_, wakes⟩
      rintro _ ⟨⟩
      exact ⟨rfl, Nat.add_lt_add_right early _⟩
  · intro index held now error waits
    have positive : 0 < session.ttl.nanos := ttl ▸ positive_of_validate valid
    obtain ⟨next, stepped, verdict⟩ := lived.verdict positive waits now error
    obtain ⟨_, ⟨_, other⟩ | ⟨leased, _⟩⟩ := lived.fitting.monitor _ _ (standing_monitor waits)
    · cases other
    · exact ⟨_, next, timed leased, stepped, ttl ▸ settings ▸ verdict⟩

/-- A renewal that succeeds, and the next one, which fails. -/
def renewalAndFailure : List (Instant × Event) :=
  [(10000000000, .woke 0), (10000000000, .granted (.monitor 0)),
    (11000000000, .answered (.monitor 0) (.renewed (.ok ()))),
    (21000000000, .woke 0), (21000000000, .granted (.monitor 0)),
    (30000000000, .answered (.monitor 0) (.renewed (.error (.backendUnavailable "timed out"))))]

/-- Nineteen seconds after the last success the monitor goes to sleep for one more second. -/
theorem renewal_and_failure_paced : ∃ moments session succeeded failed,
    follow opening.2 renewalAndFailure = some (moments, session) ∧
      session.state = .active ∧ session.id = "L1" ∧
      succeededAt? (some 0) session.err moments = some succeeded ∧
      failedAt? session.err moments = some failed ∧ failed < succeeded + (Duration.seconds 20).nanos ∧
      (session.step (failed + (retryDelay (.seconds 20) {}).nanos) (.woke 0)).isSome := by
  have followed : follow opening.2 renewalAndFailure =
      some ((follow opening.2 renewalAndFailure).get (by decide)) := (Option.some_get _).symm
  have opened : Session.opened 0 "a-session" (.seconds 20) {} (.ok "L1") = .ok opening.2 := rfl
  obtain ⟨succeeded, last, early, -, again, wakes⟩ :=
    (monitor_paced (by rfl) opened (ran_of_follow followed)).1 false 30000000000 (.seconds 1) (by decide)
      (by decide) (by decide)
  refine ⟨_, _, succeeded, 30000000000, followed, by decide, by decide, last, by decide, early, ?_⟩
  exact (wakes _).mpr (Nat.le_of_eq (again _ (by decide)).1)

end Leasehold.Session
