import Leasehold.Session

/-! Everything an event can do to a session, one constructor for each outcome. The step function
decides which outcome it is by looking at the task that the event is about; `transition_of_step`
makes that decision once, so that later proofs split on outcomes and not on the code. -/
namespace Leasehold.Session

/-! ## Telling the monitor to stop -/

/-- The monitors after the current one was told to stop. -/
def toldMonitors (session : Session) : List Monitor := session.stopMonitor.monitors

theorem stopMonitor_eq (session : Session) :
    session.stopMonitor = { session with monitors := session.toldMonitors, current := none } := by
  unfold toldMonitors stopMonitor
  split
  · rename_i nobody; rw [← nobody]
  · rfl

theorem startMonitor_eq (session : Session) (now : Instant) :
    session.startMonitor now =
      { session with
        monitors := session.toldMonitors ++ [⟨false, .asleep now session.nextDelay⟩]
        current := some session.toldMonitors.length } := by
  simp only [startMonitor, stopMonitor_eq, nextDelay]

@[simp] theorem toldMonitors_length (session : Session) :
    session.toldMonitors.length = session.monitors.length := by
  unfold toldMonitors stopMonitor; split <;> simp

/-- Only the current monitor is told, and only whether it was told changes. -/
@[simp] theorem toldMonitors_get (session : Session) (index : Nat) :
    session.toldMonitors[index]? = session.monitors[index]?.map fun monitor =>
      { monitor with cancelled := monitor.cancelled || session.current == some index } := by
  unfold toldMonitors stopMonitor
  split
  · rename_i nobody; simp [nobody]
  · rename_i current held
    by_cases same : current = index
    · simp [held, same]
    · have other : (some current == some index) = false := by simpa using same
      cases found : session.monitors[index]? <;> simp [held, other, found, same]

/-- A new generation: the signal is new, there is a lease again, and a new monitor sleeps. -/
theorem recreated_eq (session : Session) (now : Instant) (made : String) :
    ({ session with signal := session.signal.rearm }.arm now made).startMonitor now =
      { session with
        signal := session.signal.rearm
        lease := ⟨made, .active, now, 0⟩
        monitors := session.toldMonitors ++
          [⟨false, .asleep now (session.arm now made).nextDelay⟩]
        current := some session.monitors.length } := by
  have told : (({ session with signal := session.signal.rearm } : Session).arm now made).toldMonitors =
      session.toldMonitors := by
    apply List.ext_getElem?
    intro index
    rw [toldMonitors_get, toldMonitors_get]
    rfl
  rw [startMonitor_eq, told, toldMonitors_length]
  rfl

/-! ## Going on after the lease is given up -/

section
variable (session : Session) (index : Nat) (intent : Intent)

@[simp] theorem afterTeardown_lease : (session.afterTeardown index intent).1.lease = session.lease := by
  cases intent <;> rfl

@[simp] theorem afterTeardown_monitors :
    (session.afterTeardown index intent).1.monitors = session.monitors := by
  cases intent <;> rfl

@[simp] theorem afterTeardown_current :
    (session.afterTeardown index intent).1.current = session.current := by
  cases intent <;> rfl

@[simp] theorem afterTeardown_signal :
    (session.afterTeardown index intent).1.signal = session.signal := by
  cases intent <;> rfl

@[simp] theorem afterTeardown_isDropped :
    (session.afterTeardown index intent).1.isDropped = session.isDropped := by
  cases intent <;> rfl

end

/-! ## Beginning -/

/-- A session as it is right after its first lease was asked for: the monitor sleeps, and nothing
else has happened. -/
structure Fresh (session : Session) (now : Instant) : Prop where
  active : session.lease.state = .active
  failures : session.lease.failures = 0
  renewedAt : session.lease.renewedAt = now
  queue : session.queue = []
  monitors : session.monitors = [⟨false, .asleep now session.nextDelay⟩]
  current : session.current = some 0
  callers : session.callers = []
  signal : session.signal = {}
  alive : session.isDropped = false

/-- A session begins fresh, with the lease that was made or without one. -/
theorem fresh_of_opened {first : Except Error String}
    (opened : Session.opened now label span timing first = .ok session) :
    session.Fresh now ∧ (first = .ok session.lease.id ∨
      session.lease.id = "" ∧ ∃ error, first = .error error ∧ error.isRetryable = true) := by
  cases first with
  | ok made =>
    cases opened
    refine ⟨?_, .inl rfl⟩
    constructor <;> simp [startMonitor_eq, toldMonitors, stopMonitor, nextDelay]
  | error error =>
    simp only [Session.opened] at opened
    split at opened
    · rename_i retryable
      cases opened
      refine ⟨?_, .inr ⟨rfl, error, rfl, retryable⟩⟩
      constructor <;> simp [startMonitor_eq, toldMonitors, stopMonitor, nextDelay]
    · cases opened

/-! ## Outcomes -/

/-- The outcomes of an event, each with what it takes, what it makes of the session and the call to
the manager that it makes. -/
inductive Transition (now : Instant) (session : Session) :
    Event → Session → Option Manager.Call → Prop where
  /-- A call tells the monitor to stop and queues up. -/
  | began (intent : Intent) (alive : session.isDropped = false) :
      Transition now session (.began intent)
        { session.stopMonitor with
          callers := session.callers ++ [⟨intent, .queued⟩]
          queue := session.queue ++ [.caller session.callers.length] } none
  /-- A monitor that has slept long enough queues up. -/
  | woke (asleep : session.monitors[index]? = some ⟨cancelled, .asleep since wait⟩)
      (due : since + wait.nanos ≤ now) :
      Transition now session (.woke index)
        { session.setMonitor index .queued with queue := session.queue ++ [.monitor index] } none
  /-- A monitor notices that it was told to stop. -/
  | noticed (told : session.monitors[index]? = some ⟨true, phase⟩)
      (listens : phase ≠ .queued ∧ phase ≠ .ended) :
      Transition now session (.noticed index) (session.endMonitor index) none
  /-- A monitor takes its turn and has nothing to do any more. -/
  | retired (first : session.queue.head? = some (.monitor index))
      (queued : session.monitors[index]? = some ⟨cancelled, .queued⟩)
      (needless : cancelled = true ∨ session.lease.state ≠ .active) :
      Transition now session (.granted (.monitor index)) (session.endMonitor index) none
  /-- A monitor takes its turn and asks for a lease. -/
  | asked (first : session.queue.head? = some (.monitor index))
      (queued : session.monitors[index]? = some ⟨false, .queued⟩)
      (active : session.lease.state = .active) (without : session.lease.id = "") :
      Transition now session (.granted (.monitor index)) (session.setMonitor index .creating)
        (some (.create session.name session.ttl))
  /-- A monitor takes its turn and renews the lease. -/
  | renews (first : session.queue.head? = some (.monitor index))
      (queued : session.monitors[index]? = some ⟨false, .queued⟩)
      (active : session.lease.state = .active) (leased : session.lease.id ≠ "") :
      Transition now session (.granted (.monitor index))
        (session.setMonitor index (.renewing session.lease.id)) (some (.renew session.lease.id))
  /-- A call takes its turn and finds nothing to give up. -/
  | found (first : session.queue.head? = some (.caller index))
      (queued : session.callers[index]? = some ⟨intent, .queued⟩)
      (destroyed : session.lease.state = .destroyed) :
      Transition now session (.granted (.caller index))
        (session.stopMonitor.afterTeardown index intent).1
        (session.stopMonitor.afterTeardown index intent).2
  /-- A call takes its turn and closes a session that has no lease. -/
  | closed (first : session.queue.head? = some (.caller index))
      (queued : session.callers[index]? = some ⟨intent, .queued⟩)
      (live : session.lease.state ≠ .destroyed) (without : session.lease.id = "") :
      Transition now session (.granted (.caller index))
        (({ session.stopMonitor with
          lease := { session.lease with id := "", state := .destroyed } }.fire none).afterTeardown
            index intent).1
        (({ session.stopMonitor with
          lease := { session.lease with id := "", state := .destroyed } }.fire none).afterTeardown
            index intent).2
  /-- A call takes its turn and gives up the lease. -/
  | surrendered (first : session.queue.head? = some (.caller index))
      (queued : session.callers[index]? = some ⟨intent, .queued⟩)
      (live : session.lease.state ≠ .destroyed) (leased : session.lease.id ≠ "") :
      Transition now session (.granted (.caller index))
        ({ session.stopMonitor with
          lease := { session.lease with id := "", state := .destroyed } }.setCaller index
            (.destroying session.lease.id)) (some (.destroy session.lease.id))
  /-- An answer reaches a monitor that was told to stop. -/
  | ignored (told : session.monitors[index]? = some ⟨true, phase⟩)
      (waits : phase = .creating ∧ (∃ result, reply = .created result) ∨
        (∃ held, phase = .renewing held) ∧ ∃ result, reply = .renewed result) :
      Transition now session (.answered (.monitor index) reply) (session.endMonitor index) none
  /-- A monitor has got a lease. -/
  | armed (waits : session.monitors[index]? = some ⟨false, .creating⟩) :
      Transition now session (.answered (.monitor index) (.created (.ok made)))
        ((session.arm now made).sleepAgain now index) none
  /-- A monitor has got no lease yet. -/
  | postponed (waits : session.monitors[index]? = some ⟨false, .creating⟩)
      (retryable : error.isRetryable = true) :
      Transition now session (.answered (.monitor index) (.created (.error error)))
        (session.sleepAgain now index) none
  /-- A monitor is refused a lease. -/
  | denied (waits : session.monitors[index]? = some ⟨false, .creating⟩)
      (fatal : error.isRetryable = false) :
      Transition now session (.answered (.monitor index) (.created (.error error)))
        ((session.invalidate error).endMonitor index) none
  /-- A monitor has renewed the lease. -/
  | renewed (waits : session.monitors[index]? = some ⟨false, .renewing held⟩) :
      Transition now session (.answered (.monitor index) (.renewed (.ok ())))
        ({ session with lease := { session.lease with renewedAt := now, failures := 0 } }.sleepAgain
          now index) none
  /-- A monitor has not renewed the lease, and there is time to try again. -/
  | failed (waits : session.monitors[index]? = some ⟨false, .renewing held⟩)
      (retryable : error.isRetryable = true)
      (early : now - session.lease.renewedAt < session.ttl.nanos) :
      Transition now session (.answered (.monitor index) (.renewed (.error error)))
        ({ session with lease := { session.lease with
          failures := session.lease.failures + 1 } }.sleepAgain now index) none
  /-- A monitor has not renewed the lease within the TTL. -/
  | expired (waits : session.monitors[index]? = some ⟨false, .renewing held⟩)
      (retryable : error.isRetryable = true)
      (late : session.ttl.nanos ≤ now - session.lease.renewedAt) :
      Transition now session (.answered (.monitor index) (.renewed (.error error)))
        (({ session with lease := { session.lease with
          failures := session.lease.failures + 1 } }.invalidate error).endMonitor index) none
  /-- A monitor learns that the lease is lost. -/
  | lost (waits : session.monitors[index]? = some ⟨false, .renewing held⟩)
      (fatal : error.isRetryable = false) :
      Transition now session (.answered (.monitor index) (.renewed (.error error)))
        ((session.invalidate error).endMonitor index) none
  /-- A call has given up the lease. -/
  | released (waits : session.callers[index]? = some ⟨intent, .destroying held⟩) :
      Transition now session (.answered (.caller index) (.destroyed outcome))
        ((session.fire none).afterTeardown index intent).1
        ((session.fire none).afterTeardown index intent).2
  /-- A call has got a new lease. -/
  | recreated (waits : session.callers[index]? = some ⟨intent, .creating⟩) :
      Transition now session (.answered (.caller index) (.created (.ok made)))
        ((({ session with signal := session.signal.rearm }.arm now made).startMonitor now).finish
          index none) none
  /-- A call has got no new lease. -/
  | refused (waits : session.callers[index]? = some ⟨intent, .creating⟩) :
      Transition now session (.answered (.caller index) (.created (.error error)))
        (session.finish index (some error)) none
  /-- A call is dropped. -/
  | forgone (found : session.callers[index]? = some caller) (pending : caller.inProgress = true) :
      Transition now session (.forgone index)
        ((session.setCaller index .abandoned).leave (.caller index)) none
  /-- The session is dropped, which also ends the monitor that it can still tell to stop. -/
  | dropped (alive : session.isDropped = false)
      (idle : session.callers.any Caller.inProgress = false)
      (current : session.current = some index) :
      Transition now session .dropped
        { session.stopMonitor.endMonitor index with
          signal := session.signal.drop, isDropped := true } none
  /-- The session is dropped when it has no monitor to tell. -/
  | deserted (alive : session.isDropped = false)
      (idle : session.callers.any Caller.inProgress = false) (current : session.current = none) :
      Transition now session .dropped
        { session with signal := session.signal.drop, isDropped := true } none

/-! ## Every step is an outcome -/

variable {session next : Session} {event : Event} {call : Option Manager.Call} {now : Instant}
variable {index : Nat}

private theorem monitor_turn_transition (first : session.queue.head? = some (.monitor index))
    (queued : session.monitors[index]? = some ⟨cancelled, .queued⟩) :
    Transition now session (.granted (.monitor index)) (session.monitorTurn index cancelled).1
      (session.monitorTurn index cancelled).2 := by
  unfold monitorTurn
  split
  case isTrue needless => exact .retired first queued needless
  case isFalse needed =>
    simp only [not_or, Bool.not_eq_true, Classical.not_not] at needed
    obtain ⟨rfl, active⟩ := needed
    split
    case isTrue without => exact .asked first queued active without
    case isFalse leased => exact .renews first queued active leased

private theorem caller_turn_transition (first : session.queue.head? = some (.caller index))
    (queued : session.callers[index]? = some ⟨intent, .queued⟩) :
    Transition now session (.granted (.caller index)) (session.callerTurn index intent).1
      (session.callerTurn index intent).2 := by
  have kept : session.stopMonitor.lease = session.lease := by rw [stopMonitor_eq]
  unfold callerTurn
  simp only [kept]
  split
  case isTrue destroyed => exact .found first queued destroyed
  case isFalse live =>
    split
    case isTrue without => exact .closed first queued live without
    case isFalse leased => exact .surrendered first queued live leased

private theorem grant_transition (stepped : session.grant task = some (next, call)) :
    Transition now session (.granted task) next call := by
  unfold grant at stepped
  split at stepped
  · rename_i first
    cases task with
    | monitor index =>
      dsimp only at stepped
      split at stepped
      · rename_i cancelled queued
        have outcome : Transition now session (.granted (.monitor index)) _ _ :=
          monitor_turn_transition first queued
        rwa [Option.some.inj stepped] at outcome
      · cases stepped
    | caller index =>
      dsimp only at stepped
      split at stepped
      · rename_i intent queued
        have outcome : Transition now session (.granted (.caller index)) _ _ :=
          caller_turn_transition first queued
        rwa [Option.some.inj stepped] at outcome
      · cases stepped
  · cases stepped

private theorem monitor_created_transition
    (waits : session.monitors[index]? = some ⟨false, .creating⟩) (result : Except Error String) :
    Transition now session (.answered (.monitor index) (.created result))
      (session.monitorCreated now index result) none := by
  cases result with
  | ok made => exact .armed waits
  | error error =>
    simp only [monitorCreated]
    split
    · rename_i retryable; exact .postponed waits retryable
    · rename_i fatal; exact .denied waits (by simpa using fatal)

private theorem monitor_renewed_transition
    (waits : session.monitors[index]? = some ⟨false, .renewing held⟩) (result : Except Error Unit) :
    Transition now session (.answered (.monitor index) (.renewed result))
      (session.monitorRenewed now index result) none := by
  cases result with
  | ok done => exact .renewed waits
  | error error =>
    simp only [monitorRenewed]
    split
    · rename_i retryable
      split
      · rename_i late; exact .expired waits retryable late
      · rename_i early; exact .failed waits retryable (Nat.lt_of_not_le early)
    · rename_i fatal; exact .lost waits (by simpa using fatal)

private theorem answer_transition (stepped : session.answer now task reply = some (next, call)) :
    Transition now session (.answered task reply) next call := by
  cases task with
  | monitor index =>
    simp only [answer] at stepped
    split at stepped
    · rename_i told
      cases stepped
      exact .ignored told (.inl ⟨rfl, _, rfl⟩)
    · rename_i told
      cases stepped
      exact .ignored told (.inr ⟨⟨_, rfl⟩, _, rfl⟩)
    · rename_i waits
      cases stepped
      exact monitor_created_transition waits _
    · rename_i waits
      cases stepped
      exact monitor_renewed_transition waits _
    · cases stepped
  | caller index =>
    simp only [answer] at stepped
    split at stepped
    · rename_i result waits
      have outcome : Transition now session (.answered (.caller index) (.destroyed result)) _ _ :=
        .released waits
      rwa [Option.some.inj stepped] at outcome
    · rename_i result waits
      cases stepped
      cases result with
      | ok made => exact .recreated waits
      | error error => exact .refused waits
    · cases stepped

/-- A step is one of the outcomes of its event. -/
theorem transition_of_step (stepped : session.step now event = some (next, call)) :
    Transition now session event next call := by
  cases event with
  | began intent =>
    simp only [step] at stepped
    split at stepped
    · cases stepped
    · rename_i alive
      have outcome : Transition now session (.began intent) _ _ :=
        .began intent (by simpa using alive)
      simp only [stopMonitor_eq, Option.some.injEq, Prod.mk.injEq] at stepped outcome
      obtain ⟨rfl, rfl⟩ := stepped
      exact outcome
  | woke index =>
    simp only [step] at stepped
    split at stepped
    · rename_i asleep
      split at stepped
      · rename_i due
        cases stepped
        exact .woke asleep due
      · cases stepped
    · cases stepped
  | noticed index =>
    simp only [step] at stepped
    split at stepped
    · rename_i told; cases stepped; exact .noticed told (by simp)
    · rename_i told; cases stepped; exact .noticed told (by simp)
    · rename_i told; cases stepped; exact .noticed told (by simp)
    · cases stepped
  | granted task => exact grant_transition stepped
  | answered task reply => exact answer_transition stepped
  | forgone index =>
    simp only [step] at stepped
    split at stepped
    · rename_i caller found
      split at stepped
      · rename_i pending
        cases stepped
        exact .forgone found pending
      · cases stepped
    · cases stepped
  | dropped =>
    simp only [step] at stepped
    split at stepped
    · cases stepped
    · rename_i free
      simp only [not_or, Bool.not_eq_true] at free
      obtain ⟨alive, idle⟩ := free
      cases current : session.current with
      | none =>
        have outcome : Transition now session .dropped _ _ := .deserted alive idle current
        simp only [current, stopMonitor, Option.some.injEq, Prod.mk.injEq] at stepped
        obtain ⟨rfl, rfl⟩ := stepped
        simpa only [current] using outcome
      | some index =>
        have outcome : Transition now session .dropped _ _ := .dropped alive idle current
        simp only [current, Option.some.injEq, Prod.mk.injEq] at stepped
        obtain ⟨rfl, rfl⟩ := stepped
        simpa [endMonitor, setMonitor, leave, stopMonitor_eq] using outcome

/-- Every outcome is a step. -/
theorem step_of_transition (outcome : Transition now session event next call) :
    session.step now event = some (next, call) := by
  cases outcome
  case began alive => simp [step, alive, stopMonitor_eq]
  case woke asleep due => simp [step, asleep, due, setMonitor]
  case noticed index phase told listens =>
    obtain ⟨waits, lives⟩ := listens
    cases phase with
    | queued => exact absurd rfl waits
    | ended => exact absurd rfl lives
    | asleep | creating | renewing => simp [step, told]
  case retired first queued needless => simp [step, grant, first, queued, monitorTurn, needless]
  case asked first queued active without =>
    simp [step, grant, first, queued, monitorTurn, active, without]
  case renews first queued active leased =>
    simp [step, grant, first, queued, monitorTurn, active, leased]
  case found first queued destroyed =>
    simp [step, grant, first, queued, callerTurn, stopMonitor_eq, destroyed]
  case closed first queued live without =>
    simp [step, grant, first, queued, callerTurn, stopMonitor_eq, live, without]
  case surrendered first queued live leased =>
    simp [step, grant, first, queued, callerTurn, stopMonitor_eq, live, leased]
  case ignored index phase reply told waits =>
    rcases waits with ⟨rfl, result, rfl⟩ | ⟨⟨held, rfl⟩, result, rfl⟩ <;> simp [step, answer, told]
  case armed waits => simp [step, answer, waits, monitorCreated]
  case postponed waits retryable => simp [step, answer, waits, monitorCreated, retryable]
  case denied waits fatal => simp [step, answer, waits, monitorCreated, fatal]
  case renewed waits => simp [step, answer, waits, monitorRenewed]
  case failed waits retryable early =>
    simp [step, answer, waits, monitorRenewed, retryable, Nat.not_le_of_lt early]
  case expired waits retryable late => simp [step, answer, waits, monitorRenewed, retryable, late]
  case lost waits fatal => simp [step, answer, waits, monitorRenewed, fatal]
  case released waits => simp [step, answer, waits]
  case recreated waits => simp [step, answer, waits, callerCreated]
  case refused waits => simp [step, answer, waits, callerCreated]
  case forgone found pending => simp [step, found, pending]
  case dropped alive idle current =>
    simp [step, alive, idle, current, stopMonitor_eq, endMonitor, setMonitor, leave]
  case deserted alive idle current =>
    simp [step, alive, idle, current, stopMonitor]

/-- The terms on which a session was made stay. -/
theorem terms_after (outcome : Transition now session event next call) :
    next.name = session.name ∧ next.ttl = session.ttl ∧ next.settings = session.settings := by
  cases outcome
  case recreated =>
    rw [recreated_eq]
    exact ⟨rfl, rfl, rfl⟩
  case found intent _ _ _ | closed intent _ _ _ _ | released intent _ _ =>
    cases intent <;> simp [afterTeardown, stopMonitor_eq, fire, setCaller, finish, leave]
  all_goals
    simp [stopMonitor_eq, fire, setCaller, setMonitor, finish, leave, endMonitor, sleepAgain, arm,
      invalidate]

/-- A session is made on the terms that are asked for. -/
theorem terms_of_opened {first : Except Error String}
    (opened : Session.opened now label span timing first = .ok session) :
    session.name = label ∧ session.ttl = span ∧ session.settings = timing := by
  cases first with
  | ok made =>
    cases opened
    rw [startMonitor_eq]
    exact ⟨rfl, rfl, rfl⟩
  | error error =>
    simp only [Session.opened] at opened
    split at opened
    · cases opened
      rw [startMonitor_eq]
      exact ⟨rfl, rfl, rfl⟩
    · cases opened

end Leasehold.Session
