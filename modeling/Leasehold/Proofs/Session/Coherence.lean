import Leasehold.Proofs.Session.Withdrawal

/-! While no call is in progress, the state of a session, its monitors and its signal agree, as long
as no call was dropped before it was over. A session that was dropped keeps what it had come to. -/
namespace Leasehold.Session

/-- The lease with this id is lost at this moment: the monitor that renews it is answered with an
error, or the monitor that asks for one is, when there is no lease yet. -/
def Moment.Loses (moment : Moment) (id : String) (error : Error) : Prop :=
  ∃ index : Nat,
    (moment.before.monitors[index]? = some ⟨false, .renewing id⟩ ∧ id ≠ "" ∧
      moment.event = .answered (.monitor index) (.renewed (.error error))) ∨
    (moment.before.monitors[index]? = some ⟨false, .creating⟩ ∧ id = "" ∧
      moment.event = .answered (.monitor index) (.created (.error error)))

/-- Whether a call was dropped at this moment before it was over. -/
def Moment.forgoes (moment : Moment) : Bool :=
  match moment.event with
  | .forgone _ => true
  | _ => false

/-- No call was dropped before it was over. -/
def History.Patient (history : History) : Prop :=
  ∀ moment ∈ history.moments, moment.forgoes = false

variable {session next : Session} {event : Event} {call : Option Manager.Call} {now : Instant}
variable {index : Nat} {history : History}

/-! ## Lost leases -/

/-- The error with which the lease of the current generation was lost, and the moment when it was. -/
def LostWith (history : History) (session : Session) (error : Error) : Prop :=
  session.signal.current = .settled (some error) ∧
    ∃ moment ∈ history.moments, moment.before.err = session.err ∧ moment.Loses session.id error

private theorem lostWith_of_same (lost : LostWith history session error)
    (id : next.lease.id = session.lease.id) (signal : next.signal = session.signal) :
    LostWith (history.add moment) next error := by
  obtain ⟨shown, earlier, member, generation, loses⟩ := lost
  refine ⟨signal ▸ shown, earlier, List.mem_cons_of_mem _ member, ?_, ?_⟩
  · rw [generation, err, err, signal]
  · rw [Session.id, id]; exact loses

/-- The monitor of an active session is answered with an error that ends it. -/
private theorem lostWith_now (settlement : Settlement history session)
    (active : session.lease.state = .active) (id : next.lease.id = session.lease.id)
    (signal : next.signal = (session.signal.fire (some error)).2)
    (loses : Moment.Loses ⟨now, session, event, next, call⟩ session.lease.id error) :
    LostWith (history.add ⟨now, session, event, next, call⟩) next error := by
  cases settlement with
  | active _ _ _ shown =>
    refine ⟨by rw [signal, Signal.fire, shown]; rfl, _, List.mem_cons_self, ?_, ?_⟩
    · rw [err, err, signal]; rfl
    · rw [Session.id, id]; exact loses
  | lost inactive => exact absurd active inactive
  | releasing destroyed | released destroyed | interrupted destroyed =>
    rw [active] at destroyed; cases destroyed

/-- An invalidated session tells the error with which its lease was lost. -/
theorem Lived.lostWith (lived : Lived history session) (alive : session.isDropped = false)
    (invalidated : session.lease.state = .invalidated) : ∃ error, LostWith history session error := by
  induction lived with
  | opened _ opened => rw [(fresh_of_opened opened).1.active] at invalidated; cases invalidated
  | @happened history session now event next call lived stepped ih =>
    have outcome := transition_of_step stepped
    have before := alive_before outcome alive
    have fitting := lived.fitting
    have settlement := lived.settlement before
    clear stepped
    cases outcome
    case began =>
      rw [stopMonitor_eq] at invalidated ⊢
      obtain ⟨error, lost⟩ := ih before invalidated
      exact ⟨error, lostWith_of_same lost rfl rfl⟩
    case woke | noticed | retired | asked | renews | ignored | postponed | forgone =>
      obtain ⟨error, lost⟩ := ih before invalidated
      exact ⟨error, lostWith_of_same lost rfl rfl⟩
    case renewed waits | failed waits _ _ =>
      have active := (fitting.monitor _ _ (standing_monitor waits)).1
      cases active.symm.trans invalidated
    case denied error waits _ =>
      obtain ⟨active, ⟨without, _⟩ | ⟨_, other⟩⟩ := fitting.monitor _ _ (standing_monitor waits)
      · exact ⟨error, lostWith_now settlement active rfl rfl ⟨_, .inr ⟨waits, without, rfl⟩⟩⟩
      · cases other
    case expired error held waits _ _ | lost error held waits _ =>
      obtain ⟨active, ⟨_, other⟩ | ⟨leased, same⟩⟩ := fitting.monitor _ _ (standing_monitor waits)
      · cases other
      · obtain rfl : held = session.lease.id := by cases same; rfl
        exact ⟨error, lostWith_now settlement active rfl rfl ⟨_, .inl ⟨waits, leased, rfl⟩⟩⟩
    case found destroyed => simp [stopMonitor_eq, destroyed] at invalidated
    case closed => simp [fire] at invalidated
    case released waits | refused waits =>
      have destroyed := fitting.caller _ _ (standing_caller waits)
      simp [fire, finish, setCaller, leave, destroyed] at invalidated
    case recreated => rw [recreated_eq] at invalidated; cases invalidated
    case armed | surrendered => cases invalidated
    case dropped | deserted => cases alive

/-! ## Dropped sessions -/

/-- What a dropped session had come to when it was dropped: nothing has changed since, but that its
signal is closed. -/
theorem Lived.before_drop (lived : Lived history session) (gone : session.isDropped = true) :
    ∃ earlier kept, Lived earlier kept ∧ kept.isDropped = false ∧ kept.Idle ∧
      earlier.moments ⊆ history.moments ∧ session.lease = kept.lease ∧
      session.signal = kept.signal.drop ∧ session.current = none := by
  induction lived with
  | opened _ opened => rw [(fresh_of_opened opened).1.alive] at gone; cases gone
  | @happened history session now event next call lived stepped ih =>
    have outcome := transition_of_step stepped
    -- After it was dropped nobody calls, so that only monitors that were told to stop go on.
    cases before : session.isDropped with
    | true =>
      obtain ⟨earlier, kept, there, alive, idle, part, lease, signal, stopped⟩ := ih before
      have quiet : ∀ intent, event ≠ .began intent := by
        rintro intent rfl
        cases outcome with | began _ alive => rw [before] at alive; cases alive
      have still : event ≠ .dropped := by
        rintro rfl
        cases outcome <;> simp_all
      have idleNow := lived.idle_of_dropped before
      obtain ⟨_, current, _⟩ := idle_after idleNow outcome quiet still
      obtain ⟨_, lease', signal'⟩ := unwatched_after lived idleNow stopped outcome quiet still
      exact ⟨earlier, kept, there, alive, idle, List.subset_cons_of_subset _ part,
        lease'.trans lease, signal'.trans signal, current.trans stopped⟩
    | false =>
      rcases isDropped_after outcome with same | ⟨rfl, idle⟩
      · rw [same, before] at gone; cases gone
      · have idle : session.Idle := by
          simpa [Idle] using idle
        refine ⟨history, session, lived, before, idle, List.subset_cons_self _ _, ?_⟩
        cases outcome with
        | dropped _ _ _ => rw [stopMonitor_eq]; exact ⟨rfl, rfl, rfl⟩
        | deserted _ _ current => exact ⟨rfl, rfl, current⟩

/-! ## Coherence -/

theorem History.Patient.not_withdrawn (patient : history.Patient) (observer : Observer) :
    ¬ history.Withdrawn observer := by
  rintro ⟨index, _, withdrew⟩
  obtain ⟨moment, member, withdraws⟩ := List.any_eq_true.mp withdrew
  have kept := patient moment member
  unfold Moment.forgoes at kept
  unfold Moment.withdraws at withdraws
  split at withdraws
  · rename_i about; rw [about] at kept; cases kept
  · cases withdraws

theorem History.Patient.not_interrupted (patient : history.Patient) (observer : Observer) :
    history.interrupted observer = false := by
  rw [History.interrupted, List.any_eq_false]
  rintro moment member holds
  obtain ⟨_, interrupts⟩ := Bool.and_eq_true_iff.mp holds
  have kept := patient moment member
  unfold Moment.forgoes at kept
  unfold Moment.interrupts at interrupts
  split at interrupts
  · rename_i about; rw [about] at kept; cases kept
  · cases interrupts

theorem Idle.not_releasing (idle : session.Idle) : ¬ session.Releasing := by
  rintro ⟨index, held, works⟩
  rw [idle.standing index] at works
  cases works

/-- What has settled stays settled when the session is dropped. -/
private theorem settled_of_drop {kept : Session} (signal : session.signal = kept.signal.drop)
    (shown : kept.signal.current = .settled outcome) : session.signal.current = .settled outcome := by
  rw [signal, Signal.drop, shown]; rfl

/-- An invalidated session tells the error, also when it was dropped since. -/
theorem Lived.invalidated_coherent (lived : Lived history session)
    (invalidated : session.lease.state = .invalidated) : ∃ error, LostWith history session error := by
  cases dropped : session.isDropped with
  | false => exact lived.lostWith dropped invalidated
  | true =>
    obtain ⟨earlier, kept, there, alive, _, part, lease, signal, _⟩ := lived.before_drop dropped
    obtain ⟨error, shown, moment, member, generation, loses⟩ :=
      there.lostWith alive (lease ▸ invalidated)
    refine ⟨error, settled_of_drop signal shown, moment, part member, ?_, ?_⟩
    · rw [generation, err, err, signal]; rfl
    · rw [Session.id, lease]; exact loses

/-- The signal of an idle destroyed session has settled. -/
theorem Lived.destroyed_settled (lived : Lived history session) (patient : history.Patient)
    (idle : session.Idle) (destroyed : session.lease.state = .destroyed) :
    ∃ outcome, session.signal.current = .settled outcome := by
  have settled {earlier kept} (there : Lived earlier kept) (calm : earlier.Patient)
      (still : kept.Idle) (alive : kept.isDropped = false) (gone : kept.lease.state = .destroyed) :
      ∃ outcome, kept.signal.current = .settled outcome := by
    cases there.settlement alive with
    | active active => rw [active] at gone; cases gone
    | lost _ _ shown => exact ⟨_, shown⟩
    | releasing _ _ _ busy => exact absurd busy still.not_releasing
    | released _ _ _ _ shown => exact ⟨_, shown⟩
    | interrupted _ _ broken => rw [calm.not_interrupted] at broken; cases broken
  cases dropped : session.isDropped with
  | false => exact settled lived patient idle dropped destroyed
  | true =>
    obtain ⟨earlier, kept, there, alive, still, part, lease, signal, _⟩ := lived.before_drop dropped
    obtain ⟨outcome, shown⟩ := settled there (fun moment member => patient moment (part member))
      still alive (lease ▸ destroyed)
    exact ⟨outcome, settled_of_drop signal shown⟩

/-- **Coherence.** When no call is in progress and none was dropped before it was over:
an active session has exactly one running monitor, that of its generation, and its signal is pending,
until the session is dropped, which ends the monitor;
the monitor of an invalidated session has ended, and its signal tells the error that the manager
answered about the lease that the session still names, or about making one when it names none;
a destroyed session has no lease, all its monitors were told to stop, and its signal has settled. -/
theorem idle_session_coherent (lived : Lived history session) (patient : history.Patient)
    (idle : session.Idle) :
    match session.state with
    | .active =>
      if session.isDropped then ∀ index, ¬ session.Running index
      else (∀ index, session.Running index ↔ index = session.err.generation) ∧
        session.signal.current = .pending
    | .invalidated =>
      (∃ cancelled, session.monitors[session.err.generation]? = some ⟨cancelled, .ended⟩) ∧
        (∀ index, ¬ session.Running index) ∧ ∃ error, LostWith history session error
    | .destroyed =>
      session.id = "" ∧ (∀ (index : Nat) phase, session.monitors[index]? ≠ some ⟨false, phase⟩) ∧
        ∃ outcome, session.signal.current = .settled outcome := by
  have monitored := lived.monitored
  cases state : session.lease.state with
  | active =>
    simp only [Session.state, state]
    split
    · rename_i dropped
      obtain ⟨_, _, _, _, _, _, _, _, stopped⟩ := lived.before_drop dropped
      intro index running
      rw [(monitored.running_iff state).mp running] at stopped
      cases stopped
    · rename_i alive
      replace alive : session.isDropped = false := by simpa using alive
      have watched := (lived.watched_iff_not_withdrawn alive state idle).mpr (patient.not_withdrawn _)
      refine ⟨fun index => ⟨monitored.generation_of_running, ?_⟩, ?_⟩
      · rintro rfl; exact watched.2
      · cases lived.settlement alive with
        | active _ _ _ shown => exact shown
        | lost inactive => exact absurd state inactive
        | releasing other | released other | interrupted other => rw [state] at other; cases other
  | invalidated =>
    simp only [Session.state, state]
    exact ⟨monitored.invalidated state, fun index => monitored.not_running (by rw [state]; rintro ⟨⟩),
      lived.invalidated_coherent state⟩
  | destroyed =>
    simp only [Session.state, state]
    refine ⟨lived.fitting.destroyed state, ?_, lived.destroyed_settled patient idle state⟩
    intro index phase untold
    have held := monitored.untold index phase untold
    rw [monitored.destroyed state] at held
    cases held

/-- A session whose manager does not know its lease any more. -/
def lostLease : Option (History × Session) :=
  replay opening
    [(10000000000, .woke 0), (10000000000, .granted (.monitor 0)),
      (10000000007, .answered (.monitor 0) (.renewed (.error (.sessionNotFound "L1"))))]

theorem lost_session_coherent : ∃ history session,
    lostLease = some (history, session) ∧ history.Patient ∧ session.Idle ∧
      session.state = .invalidated ∧ (∀ index, ¬ session.Running index) ∧
      ∃ error, LostWith history session error := by
  have ran : lostLease = some (lostLease.get (by decide)) := (Option.some_get _).symm
  let reached := lostLease.get (by decide)
  have patient : reached.1.Patient := by unfold History.Patient; decide
  have idle : reached.2.Idle := by unfold Idle; decide
  have invalidated : reached.2.state = .invalidated := by decide
  have coherent := idle_session_coherent (lived_of_replay lived_opening ran) patient idle
  exact ⟨_, _, ran, patient, idle, invalidated, coherent.2⟩

end Leasehold.Session
