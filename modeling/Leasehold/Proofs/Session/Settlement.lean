import Leasehold.Proofs.Session.Calls

/-! How the signal of each generation settles. A generation whose lease is lost settles with the
error, one whose lease is given up settles with nothing once the call that gives it up goes on. A call
that is dropped while it gives up the lease leaves the generation unsettled, and no later call makes
up for it, because it finds the session destroyed already. -/
namespace Leasehold.Session

variable {session next : Session} {event : Event} {call : Option Manager.Call} {now : Instant}
variable {index : Nat} {history : History} {observer : Observer}

/-! ## What became of a generation, by its history -/

/-- The error with which the lease was lost at this moment. -/
def Moment.loss? (moment : Moment) : Option Error :=
  if moment.before.state = .active ∧ moment.after.state = .invalidated then
    match moment.event with
    | .answered _ (.created (.error error)) | .answered _ (.renewed (.error error)) => some error
    | _ => none
  else none

/-- Whether a call was dropped at this moment while it gave up the lease. -/
def Moment.interrupts (moment : Moment) : Bool :=
  match moment.event with
  | .forgone index =>
    match moment.before.callers[index]? with
    | some ⟨_, .destroying _⟩ => true
    | _ => false
  | _ => false

/-- The error with which the lease of the observed generation was lost. -/
def History.loss? (history : History) (observer : Observer) : Option Error :=
  history.moments.findSome? fun moment =>
    if moment.before.err = observer then moment.loss? else none

/-- Whether a call was dropped in the observed generation while it gave up the lease. -/
def History.interrupted (history : History) (observer : Observer) : Bool :=
  history.moments.any fun moment => moment.before.err = observer && moment.interrupts

/-- What an observer can be told once the lease of its generation is given up: the error with which
it was lost, or else nothing, unless the giving up was interrupted. -/
def History.verdict (history : History) (observer : Observer) : Option (Option Error) :=
  match history.loss? observer with
  | some error => some (some error)
  | none => if history.interrupted observer then none else some none

theorem loss?_add (history : History) (moment : Moment) :
    (history.add moment).loss? moment.before.err =
      moment.loss?.or (history.loss? moment.before.err) := by
  cases loss : moment.loss? <;> simp [History.loss?, History.add, loss]

theorem interrupted_add (history : History) (moment : Moment) :
    (history.add moment).interrupted moment.before.err =
      (moment.interrupts || history.interrupted moment.before.err) := by
  simp [History.interrupted, History.add]

/-- A step stays in its generation or begins the next one, which is active. -/
theorem err_after (outcome : Transition now session event next call) :
    next.err = session.err ∨
      next.err.generation = session.err.generation + 1 ∧ next.lease.state = .active := by
  cases outcome
  case recreated =>
    right
    rw [recreated_eq]
    exact ⟨List.length_append .., rfl⟩
  case began | found | closed | surrendered | dropped =>
    left; simp [err, Signal.subscribe, stopMonitor_eq, fire, Signal.fire, setCaller, Signal.drop]
  case released => left; simp [err, Signal.subscribe, fire, Signal.fire]
  all_goals exact .inl rfl

/-- Nothing has happened in a generation yet to come. -/
theorem Lived.generation_le (lived : Lived history session) :
    ∀ moment ∈ history.moments, moment.before.err.generation ≤ session.err.generation := by
  induction lived with
  | opened => intro moment member; cases member
  | @happened history session now event next call lived stepped ih =>
    have kept : session.err.generation ≤ next.err.generation := by
      rcases err_after (transition_of_step stepped) with same | ⟨new, _⟩
      · exact Nat.le_of_eq (by rw [same])
      · rw [new]; exact Nat.le_succ _
    intro moment member
    rcases List.mem_cons.mp member with rfl | earlier
    · exact kept
    · exact Nat.le_trans (ih moment earlier) kept

theorem Lived.other_generation (lived : Lived history session)
    (new : observer.generation = session.err.generation + 1) :
    ∀ moment ∈ history.moments, moment.before.err ≠ observer := by
  rintro moment member rfl
  have old := lived.generation_le moment member
  rw [new] at old
  exact Nat.not_succ_le_self _ old

theorem Lived.loss?_next (lived : Lived history session)
    (new : observer.generation = session.err.generation + 1) : history.loss? observer = none := by
  rw [History.loss?, List.findSome?_eq_none_iff]
  intro moment member
  rw [if_neg (lived.other_generation new moment member)]

theorem Lived.interrupted_next (lived : Lived history session)
    (new : observer.generation = session.err.generation + 1) :
    history.interrupted observer = false := by
  rw [History.interrupted, List.any_eq_false]
  intro moment member
  simp [lived.other_generation new moment member]

/-! ## Giving up the lease -/

/-- A call waits until the lease is given up. -/
def Releasing (session : Session) : Prop :=
  ∃ index held, session.standing (.caller index) = .working (.destroy held)

/-- While nobody begins to give up the lease and nobody who does goes on, nothing changes. -/
private theorem releasing_iff (outcome : Transition now session event next call)
    (quiet : ∀ held, call ≠ some (.destroy held))
    (idle : ∀ index held, session.subject event = some (.caller index) →
      session.standing (.caller index) ≠ .working (.destroy held)) :
    next.Releasing ↔ session.Releasing := by
  constructor
  · rintro ⟨index, held, works⟩
    rcases working_after outcome works with worked | ⟨_, called⟩
    · exact ⟨index, held, worked⟩
    · exact absurd called (quiet held)
  · rintro ⟨index, held, works⟩
    refine ⟨index, held, ?_⟩
    rw [standing_of_other outcome fun about => idle index held about works, works]

/-- After the head of the queue has gone on, nobody gives up the lease, unless it does. -/
private theorem not_releasing_of_head {task : Task} (orderly : session.Orderly)
    (outcome : Transition now session event next call) (head : session.queue.head? = some task)
    (about : session.subject event = some task) (quiet : ∀ held, call ≠ some (.destroy held)) :
    ¬ next.Releasing := by
  rintro ⟨index, held, works⟩
  exact quiet held (working_after_head orderly outcome head about works).2

/-- What the signal of the current generation says, by its history and the state of the lease. -/
inductive Settlement (history : History) (session : Session) : Prop where
  /-- There is a lease, or one is yet to be made. -/
  | active (state : session.lease.state = .active) (kept : history.loss? session.err = none)
      (intact : history.interrupted session.err = false)
      (shown : session.signal.current = .pending) : Settlement history session
  /-- The lease was lost, and may have been given up since. -/
  | lost (state : session.lease.state ≠ .active) (loss : history.loss? session.err = some error)
      (shown : session.signal.current = .settled (some error)) : Settlement history session
  /-- A call gives up the lease. -/
  | releasing (state : session.lease.state = .destroyed) (kept : history.loss? session.err = none)
      (intact : history.interrupted session.err = false) (busy : session.Releasing)
      (shown : session.signal.current = .pending) : Settlement history session
  /-- The lease was given up. -/
  | released (state : session.lease.state = .destroyed) (kept : history.loss? session.err = none)
      (intact : history.interrupted session.err = false) (freed : ¬ session.Releasing)
      (shown : session.signal.current = .settled none) : Settlement history session
  /-- The call that gave up the lease was dropped. -/
  | interrupted (state : session.lease.state = .destroyed)
      (kept : history.loss? session.err = none)
      (broken : history.interrupted session.err = true) (freed : ¬ session.Releasing)
      (shown : session.signal.current = .pending) : Settlement history session

/-- A session begins active. -/
theorem settlement_fresh (fresh : session.Fresh now) : Settlement ⟨first, []⟩ session :=
  .active fresh.active rfl rfl (by rw [fresh.signal])

/-- No lease is lost while the state stays, or when it was destroyed. -/
private theorem loss?_of_state
    (state : next.lease.state = session.lease.state ∨ next.lease.state = .destroyed) :
    Moment.loss? ⟨now, session, event, next, call⟩ = none := by
  refine if_neg ?_
  rintro ⟨active, invalidated⟩
  simp only [Session.state] at active invalidated
  rcases state with same | destroyed
  · rw [same, active] at invalidated; cases invalidated
  · rw [destroyed] at invalidated; cases invalidated

/-- Nothing is interrupted when the subject does not give up the lease. -/
private theorem not_interrupts (idle : ∀ index held, session.subject event = some (.caller index) →
      session.standing (.caller index) ≠ .working (.destroy held)) :
    Moment.interrupts ⟨now, session, event, next, call⟩ = false := by
  unfold Moment.interrupts
  split
  · rename_i index about
    split
    · rename_i found
      cases about
      exact absurd (standing_caller found) (idle index _ rfl)
    · rfl
  · rfl

/-- The history of a generation stays the same when nothing is lost or interrupted. -/
private theorem carried (err : next.err = session.err)
    (calm : Moment.loss? ⟨now, session, event, next, call⟩ = none)
    (whole : Moment.interrupts ⟨now, session, event, next, call⟩ = false) :
    (history.add ⟨now, session, event, next, call⟩).loss? next.err = history.loss? session.err ∧
      (history.add ⟨now, session, event, next, call⟩).interrupted next.err =
        history.interrupted session.err := by
  have loss := loss?_add history ⟨now, session, event, next, call⟩
  have interrupted := interrupted_add history ⟨now, session, event, next, call⟩
  rw [calm, Option.none_or] at loss
  rw [whole, Bool.false_or] at interrupted
  rw [err]
  exact ⟨loss, interrupted⟩

/-- A step that changes neither the state nor the signal nor who gives up the lease. -/
private theorem settlement_of_quiet (settlement : Settlement history session)
    (outcome : Transition now session event next call)
    (state : next.lease.state = session.lease.state) (signal : next.signal = session.signal)
    (quiet : ∀ held, call ≠ some (.destroy held))
    (idle : ∀ index held, session.subject event = some (.caller index) →
      session.standing (.caller index) ≠ .working (.destroy held)) :
    Settlement (history.add ⟨now, session, event, next, call⟩) next := by
  have err : next.err = session.err := by rw [Session.err, signal]; rfl
  obtain ⟨loss, interrupted⟩ := @carried _ _ event call now history err
    (loss?_of_state (.inl state)) (not_interrupts idle)
  have releasing := releasing_iff outcome quiet idle
  cases settlement with
  | active active kept intact shown =>
    exact .active (state ▸ active) (loss ▸ kept) (interrupted ▸ intact) (signal ▸ shown)
  | lost inactive lost shown => exact .lost (state ▸ inactive) (loss ▸ lost) (signal ▸ shown)
  | releasing destroyed kept intact busy shown =>
    exact .releasing (state ▸ destroyed) (loss ▸ kept) (interrupted ▸ intact) (releasing.mpr busy)
      (signal ▸ shown)
  | released destroyed kept intact freed shown =>
    exact .released (state ▸ destroyed) (loss ▸ kept) (interrupted ▸ intact)
      (fun busy => freed (releasing.mp busy)) (signal ▸ shown)
  | interrupted destroyed kept broken freed shown =>
    exact .interrupted (state ▸ destroyed) (loss ▸ kept) (interrupted ▸ broken)
      (fun busy => freed (releasing.mp busy)) (signal ▸ shown)

/-- The lease is lost. -/
private theorem settlement_of_loss (settlement : Settlement history session)
    (active : session.lease.state = .active) (invalidated : next.lease.state = .invalidated)
    (signal : next.signal = (session.signal.fire (some error)).2)
    (loss : Moment.loss? ⟨now, session, event, next, call⟩ = some error) :
    Settlement (history.add ⟨now, session, event, next, call⟩) next := by
  have err : next.err = session.err := by rw [Session.err, signal]; rfl
  have added := loss?_add history ⟨now, session, event, next, call⟩
  rw [loss, Option.some_or] at added
  refine .lost (by rw [invalidated]; rintro ⟨⟩) (err ▸ added) ?_
  cases settlement with
  | active _ _ _ shown => rw [signal, Signal.fire, shown]; rfl
  | lost inactive => exact absurd active inactive
  | releasing destroyed | released destroyed | interrupted destroyed =>
    rw [active] at destroyed; cases destroyed

/-- A call takes its turn and gives up the lease, at once when there is none. -/
private theorem settlement_of_teardown (settlement : Settlement history session)
    (live : session.lease.state ≠ .destroyed) (destroyed : next.lease.state = .destroyed)
    (whole : Moment.interrupts ⟨now, session, event, next, call⟩ = false)
    (shown : next.Releasing ∧ next.signal = session.signal ∨
      ¬ next.Releasing ∧ next.signal = (session.signal.fire none).2) :
    Settlement (history.add ⟨now, session, event, next, call⟩) next := by
  have err : next.err = session.err := by
    rcases shown with ⟨_, signal⟩ | ⟨_, signal⟩ <;> rw [Session.err, signal] <;> rfl
  obtain ⟨loss, interrupted⟩ := @carried _ _ event call now history err
    (loss?_of_state (.inr destroyed)) whole
  cases settlement with
  | active _ kept intact pending =>
    rcases shown with ⟨busy, signal⟩ | ⟨freed, signal⟩
    · exact .releasing destroyed (loss ▸ kept) (interrupted ▸ intact) busy (signal ▸ pending)
    · exact .released destroyed (loss ▸ kept) (interrupted ▸ intact) freed
        (by rw [signal, Signal.fire, pending]; rfl)
  | lost _ lost settled =>
    refine .lost (by rw [destroyed]; rintro ⟨⟩) (loss ▸ lost) ?_
    rcases shown with ⟨_, signal⟩ | ⟨_, signal⟩
    · rw [signal, settled]
    · rw [signal, Signal.fire, settled]; rfl
  | releasing gone | released gone | interrupted gone => exact absurd gone live

/-- The call that gave up the lease goes on. -/
private theorem settlement_of_release (settlement : Settlement history session)
    (busy : session.Releasing) (freed : ¬ next.Releasing) (destroyed : session.lease.state = .destroyed)
    (state : next.lease.state = session.lease.state) (signal : next.signal = (session.signal.fire none).2)
    (whole : Moment.interrupts ⟨now, session, event, next, call⟩ = false) :
    Settlement (history.add ⟨now, session, event, next, call⟩) next := by
  have err : next.err = session.err := by rw [Session.err, signal]; rfl
  obtain ⟨loss, interrupted⟩ := @carried _ _ event call now history err
    (loss?_of_state (.inl state)) whole
  cases settlement with
  | active active => rw [active] at destroyed; cases destroyed
  | lost inactive lost shown =>
    exact .lost (state ▸ inactive) (loss ▸ lost) (by rw [signal, Signal.fire, shown]; rfl)
  | releasing _ kept intact _ shown =>
    exact .released (state ▸ destroyed) (loss ▸ kept) (interrupted ▸ intact) freed
      (by rw [signal, Signal.fire, shown]; rfl)
  | released _ _ _ idle | interrupted _ _ _ idle => exact absurd busy idle

/-- The call that gave up the lease is dropped. -/
private theorem settlement_of_interruption (settlement : Settlement history session)
    (busy : session.Releasing) (freed : ¬ next.Releasing) (destroyed : session.lease.state = .destroyed)
    (state : next.lease.state = session.lease.state) (signal : next.signal = session.signal)
    (broken : Moment.interrupts ⟨now, session, event, next, call⟩ = true) :
    Settlement (history.add ⟨now, session, event, next, call⟩) next := by
  have err : next.err = session.err := by rw [Session.err, signal]; rfl
  have loss := loss?_add history ⟨now, session, event, next, call⟩
  have interrupted := interrupted_add history ⟨now, session, event, next, call⟩
  rw [loss?_of_state (.inl state), Option.none_or] at loss
  rw [broken, Bool.true_or] at interrupted
  cases settlement with
  | active active => rw [active] at destroyed; cases destroyed
  | lost inactive lost shown =>
    exact .lost (state ▸ inactive) (err ▸ loss.trans lost) (signal ▸ shown)
  | releasing _ kept intact _ shown =>
    exact .interrupted (state ▸ destroyed) (err ▸ loss.trans kept) (err ▸ interrupted) freed
      (signal ▸ shown)
  | released _ _ _ idle | interrupted _ _ _ idle => exact absurd busy idle

/-- A new generation begins. -/
private theorem settlement_of_recreation (lived : Lived history session)
    (new : next.err.generation = session.err.generation + 1) (active : next.lease.state = .active)
    (shown : next.signal.current = .pending) :
    Settlement (history.add ⟨now, session, event, next, call⟩) next := by
  have other : session.err ≠ next.err := by
    intro same
    rw [same] at new
    exact Nat.succ_ne_self _ new.symm
  refine .active active ?_ ?_ shown
  · simpa [History.loss?, History.add, other] using lived.loss?_next new
  · simpa [History.interrupted, History.add, other] using lived.interrupted_next new

private theorem afterTeardown_quiet (session : Session) (index : Nat) (intent : Intent)
    (held : String) : (session.afterTeardown index intent).2 ≠ some (.destroy held) := by
  cases intent <;> rintro ⟨⟩

/-- The signal of a session that was not dropped says what its history and its state tell. -/
theorem Lived.settlement (lived : Lived history session) (alive : session.isDropped = false) :
    Settlement history session := by
  induction lived with
  | opened _ opened => exact settlement_fresh (fresh_of_opened opened).1
  | @happened history session now event next call lived stepped ih =>
    have outcome := transition_of_step stepped
    replace ih := ih (alive_before outcome alive)
    have fitting := lived.fitting
    have orderly := lived.orderly
    clear stepped
    have step := outcome
    -- The signal moves when a lease is lost, given up or made, and the history of the generation
    -- when a call is dropped that gives one up; all other outcomes are quiet.
    cases outcome
    case began =>
      refine settlement_of_quiet ih step ?_ ?_ (by rintro _ ⟨⟩) ?_
      · rw [stopMonitor_eq]
      · rw [stopMonitor_eq]
      · rintro index held ⟨⟩; simp [standing]
    case woke | noticed | retired | asked | renews | ignored | postponed | renewed | failed =>
      exact settlement_of_quiet ih step rfl rfl (by rintro _ ⟨⟩) (by rintro _ _ ⟨⟩)
    case armed waits =>
      have active := (fitting.monitor _ _ (standing_monitor waits)).1
      exact settlement_of_quiet ih step active.symm rfl (by rintro _ ⟨⟩) (by rintro _ _ ⟨⟩)
    case denied waits _ | expired waits _ _ | lost waits _ =>
      have active := (fitting.monitor _ _ (standing_monitor waits)).1
      refine settlement_of_loss ih active rfl rfl ?_
      simp [Moment.loss?, Session.state, active, invalidate, endMonitor, setMonitor, leave, fire]
    case found first queued destroyed =>
      refine settlement_of_quiet ih step ?_ ?_ (afterTeardown_quiet _ _ _) ?_
      · simp [stopMonitor_eq]
      · simp [stopMonitor_eq]
      · rintro index held ⟨⟩ works
        rw [standing_caller queued] at works
        cases works
    case closed first queued live without =>
      refine settlement_of_teardown ih live ?_ rfl (.inr ⟨?_, ?_⟩)
      · simp [fire]
      · exact not_releasing_of_head orderly step first rfl (afterTeardown_quiet _ _ _)
      · simp [fire, stopMonitor_eq]
    case surrendered index intent first queued live leased =>
      refine settlement_of_teardown ih live rfl rfl (.inl ⟨?_, ?_⟩)
      · refine ⟨index, session.lease.id, ?_⟩
        rw [stopMonitor_eq]
        exact standing_setCaller_self queued _
      · rw [stopMonitor_eq]; rfl
    case released waits =>
      have works := standing_caller waits
      refine settlement_of_release ih ⟨_, _, works⟩ ?_ (fitting.caller _ _ works) ?_ ?_ rfl
      · exact not_releasing_of_head orderly step (orderly.first _ _ works) rfl
          (afterTeardown_quiet _ _ _)
      · simp [fire]
      · simp [fire]
    case recreated waits =>
      rw [recreated_eq]
      exact settlement_of_recreation lived (List.length_append ..) rfl rfl
    case refused waits =>
      refine settlement_of_quiet ih step rfl rfl (by rintro _ ⟨⟩) ?_
      rintro index held ⟨⟩ works
      rw [standing_caller waits] at works
      cases works
    case forgone index caller found pending =>
      obtain ⟨intent, phase⟩ := caller
      cases phase with
      | destroying held =>
        have works := standing_caller found
        refine settlement_of_interruption ih ⟨_, _, works⟩ ?_ (fitting.caller _ _ works) rfl rfl ?_
        · exact not_releasing_of_head orderly step (orderly.first _ _ works) rfl (by rintro _ ⟨⟩)
        · simp [Moment.interrupts, found]
      | queued | creating =>
        refine settlement_of_quiet ih step rfl rfl (by rintro _ ⟨⟩) ?_
        rintro index held ⟨⟩ works
        rw [standing_caller found] at works
        cases works
      | finished | abandoned => cases pending
    case dropped | deserted => cases alive

/-! ## Completed calls -/

/-- The fate of the current generation is what the signal says now. -/
theorem fate_current (session : Session) :
    session.signal.fate session.err.generation = session.signal.current := by
  simp [Signal.fate, err, Signal.subscribe]

/-- Observers of the current generation are told how it ended once its signal has settled. -/
theorem told_of_settled (shown : session.signal.current = .settled outcome) :
    session.err.tryRecv session.signal = some outcome ∧
      session.err.recv session.signal = some outcome := by
  simp [Observer.tryRecv, Observer.recv, fate_current, shown]

/-- Observers of the current generation wait while its signal has not settled. -/
theorem told_of_pending (shown : session.signal.current = .pending) :
    session.err.tryRecv session.signal = none ∧ session.err.recv session.signal = none := by
  simp [Observer.tryRecv, Observer.recv, fate_current, shown]

/-- A call of `destroy` that was in progress is over. -/
def Completes (session next : Session) (index : Nat) : Prop :=
  (∃ phase, session.callers[index]? = some ⟨.destroy, phase⟩ ∧
    Caller.inProgress ⟨.destroy, phase⟩ = true) ∧
  ∃ failure, next.callers[index]? = some ⟨.destroy, .finished failure⟩

/-- What is over is what the event was about. -/
private theorem subject_of_completes (intended : session.Intended)
    (outcome : Transition now session event next call) (completes : Completes session next index) :
    session.subject event = some (.caller index) := by
  obtain ⟨⟨phase, before, pending⟩, failure, after⟩ := completes
  cases caller_moved outcome after with
  | same same => rw [before] at same; cases same; cases pending
  | done _ _ about => exact about
  | answered creating => cases intended _ _ creating

/-- A call of `destroy` is over only when it or an earlier call has given up the lease. -/
private theorem teardown_of_completes (lived : Lived history session)
    (outcome : Transition now session event next call) (completes : Completes session next index) :
    next.lease.state = .destroyed ∧ session.queue.head? = some (.caller index) ∧
      (∀ held, call ≠ some (.destroy held)) ∧
      Moment.interrupts ⟨now, session, event, next, call⟩ = false := by
  have about := subject_of_completes lived.intended outcome completes
  obtain ⟨⟨phase, before, pending⟩, failure, after⟩ := completes
  have head {call} (works : session.standing (.caller index) = .working call) :
      session.queue.head? = some (.caller index) := lived.orderly.first _ _ works
  cases outcome
  all_goals simp only [subject, Option.some.injEq, Task.caller.injEq, reduceCtorEq] at about
  case began => subst about; simp at before
  case found first queued destroyed =>
    subst about
    exact ⟨by simpa [stopMonitor_eq] using destroyed, first, afterTeardown_quiet _ _ _, rfl⟩
  case closed first queued live without =>
    subst about
    exact ⟨by simp [fire], first, afterTeardown_quiet _ _ _, rfl⟩
  case surrendered first queued live leased =>
    subst about
    rw [stopMonitor_eq] at after
    cases after.symm.trans (setCaller_get_self queued (.destroying session.lease.id))
  case released waits =>
    subst about
    have works := standing_caller waits
    exact ⟨by simpa [fire] using lived.fitting.caller _ _ works, head works,
      afterTeardown_quiet _ _ _, rfl⟩
  case recreated waits | refused waits =>
    subst about
    rw [waits] at before
    cases before
    cases lived.intended _ _ waits
  case forgone caller found _ =>
    subst about
    obtain ⟨intent, reached⟩ := caller
    cases after.symm.trans (setCaller_get_self found .abandoned)
  case dropped _ _ current => simp [current] at about
  case deserted _ _ current => simp [current] at about

/-- **A completed `destroy` settles the signal, unless an earlier call was dropped in the middle.**
When a call of `destroy` is over, observers of the current generation are told the error with which
its lease was lost, or else that it ended in order. They are left waiting in one case only: the lease
was not lost, and an earlier call was dropped in the same generation while it gave up the lease. -/
theorem destroy_settles (lived : Lived history session)
    (stepped : session.step now event = some (next, call)) (completes : Completes session next index) :
    next.err = session.err ∧ next.err.tryRecv next.signal = history.verdict next.err ∧
      next.err.recv next.signal = history.verdict next.err := by
  have outcome := transition_of_step stepped
  have about := subject_of_completes lived.intended outcome completes
  obtain ⟨destroyed, head, quiet, whole⟩ := teardown_of_completes lived outcome completes
  have freed := not_releasing_of_head lived.orderly outcome head about quiet
  have alive : next.isDropped = false := by
    obtain ⟨phase, before, pending⟩ := completes.1
    cases gone : session.isDropped with
    | true =>
      rw [lived.idle_of_dropped gone _ (List.mem_of_getElem? before)] at pending
      cases pending
    | false =>
      rcases isDropped_after outcome with same | ⟨rfl, _⟩
      · rw [same, gone]
      · simp [subject] at about
  have same : next.err = session.err := by
    rcases err_after outcome with same | ⟨_, active⟩
    · exact same
    · rw [destroyed] at active; cases active
  refine ⟨same, ?_⟩
  have settlement := (Lived.happened lived stepped).settlement alive
  obtain ⟨sameLoss, sameBreak⟩ := @carried _ _ event call now history same
    (loss?_of_state (.inr destroyed)) whole
  rw [← same] at sameLoss sameBreak
  rw [History.verdict, ← sameLoss, ← sameBreak]
  -- Nobody gives up the lease any more, so that a pending signal means an earlier interruption.
  cases settlement with
  | active active => rw [active] at destroyed; cases destroyed
  | lost _ loss shown => rw [loss]; exact told_of_settled shown
  | releasing _ _ _ busy _ => exact absurd busy freed
  | released _ kept intact _ shown => rw [kept, intact]; exact told_of_settled shown
  | interrupted _ kept broken _ shown => rw [kept, broken]; exact told_of_pending shown

/-- A session whose first call of `destroy` was dropped while it gave up the lease, and on which a
second one takes its turn next. -/
def interruptedRelease : Option (History × Session) :=
  replay opening
    [(0, .began .destroy), (0, .granted (.caller 0)), (5, .forgone 0), (9, .began .destroy)]

/-- The second call is over, and the signal has not settled. -/
theorem interrupted_destroy_unsettled : ∃ history session next call,
    interruptedRelease = some (history, session) ∧
      session.step 9 (.granted (.caller 1)) = some (next, call) ∧ Completes session next 1 ∧
      history.verdict next.err = none ∧ next.err.tryRecv next.signal = none ∧
      next.err.recv next.signal = none := by
  have ran : interruptedRelease = some (interruptedRelease.get (by decide)) :=
    (Option.some_get _).symm
  let before := interruptedRelease.get (by decide)
  let after := (before.2.step 9 (.granted (.caller 1))).get (by decide)
  have stepped : before.2.step 9 (.granted (.caller 1)) = some after := (Option.some_get _).symm
  have completes : Completes before.2 after.1 1 := ⟨⟨.queued, by decide, rfl⟩, none, by decide⟩
  have unsettled : before.1.verdict after.1.err = none := by decide
  obtain ⟨_, tried, received⟩ :=
    destroy_settles (lived_of_replay lived_opening ran) stepped completes
  exact ⟨_, _, _, _, ran, stepped, completes, unsettled, tried.trans unsettled,
    received.trans unsettled⟩

end Leasehold.Session
