import Leasehold.Proofs.Session.Outcomes

/-! How long a session counts on its lease. A step leaves the lease to nobody, leaves it as it is, or
makes or renews it (`Tenure`); the session gives it up as lost for an error that is worth a retry only
when the TTL is over since it was made or renewed last. -/
namespace Leasehold.Session

variable {session next : Session} {event : Event} {call : Option Manager.Call} {now : Instant}
variable {history : History} {error : Error} {id : String}

/-- What a step does to the lease that a monitor cares for. -/
inductive Tenure (now : Instant) (session : Session) (event : Event) (next : Session) : Prop where
  /-- No monitor cares for a lease of the session. -/
  | untended (without : next.lease.state ≠ .active ∨ next.lease.id = "" ∨ next.current = none)
  /-- The lease is as before, and the monitor is the same and was not told that it is renewed. -/
  | kept (active : session.lease.state = .active) (id : next.lease.id = session.lease.id)
      (since : next.lease.renewedAt = session.lease.renewedAt)
      (current : next.current = session.current)
      (untold : ∀ index, session.current = some index →
        event ≠ .answered (.monitor index) (.renewed (.ok ())))
  /-- The lease was made or renewed just now. -/
  | renewed (since : next.lease.renewedAt = now)

private theorem tenure_of_same (lease : next.lease = session.lease)
    (current : next.current = session.current)
    (untold : ∀ index, session.current = some index →
      event ≠ .answered (.monitor index) (.renewed (.ok ()))) :
    Tenure now session event next := by
  by_cases active : session.lease.state = .active
  · exact .kept active (by rw [lease]) (by rw [lease]) current untold
  · exact .untended (.inl (lease ▸ active))

theorem tenure_of_outcome (fitting : session.Fitting) (monitored : session.Monitored)
    (outcome : Transition now session event next call) : Tenure now session event next := by
  cases outcome
  case began | found | closed | surrendered | dropped =>
    refine .untended (.inr (.inr ?_))
    simp [stopMonitor_eq, fire, setCaller, endMonitor, setMonitor, leave]
  case woke | noticed | retired | asked | renews | forgone | deserted =>
    refine tenure_of_same rfl rfl ?_
    rintro _ _ ⟨⟩
  case ignored told _ =>
    refine tenure_of_same rfl rfl ?_
    rintro index held ⟨⟩
    obtain ⟨_, _, running⟩ := monitored.current _ held
    rw [told] at running
    cases running
  case postponed =>
    refine tenure_of_same rfl rfl ?_
    rintro _ _ ⟨⟩
  case failed waits _ _ =>
    refine .kept (fitting.monitor _ _ (standing_monitor waits)).1 rfl rfl rfl ?_
    rintro _ _ ⟨⟩
  case denied | expired | lost =>
    refine .untended (.inl ?_)
    rintro ⟨⟩
  case armed => exact .renewed rfl
  case renewed => exact .renewed rfl
  case recreated =>
    rw [recreated_eq]
    exact .renewed rfl
  case released waits =>
    have destroyed := fitting.caller _ _ (standing_caller waits)
    refine .untended (.inl ?_)
    simp [fire, destroyed]
  case refused waits =>
    have destroyed := fitting.caller _ _ (standing_caller waits)
    refine .untended (.inl ?_)
    simp [finish, setCaller, leave, destroyed]

/-- A step leaves the lease and the generation, or clears the lease, or a new lease has come with the
answer. -/
theorem lease_after (outcome : Transition now session event next call) :
    next.lease.id = session.lease.id ∧ next.signal.past = session.signal.past ∨
      next.lease.id = "" ∨
      ∃ task, event = .answered task (.created (.ok next.lease.id)) ∧ call = none := by
  cases outcome
  case began | dropped =>
    refine .inl ?_
    rw [stopMonitor_eq]
    exact ⟨rfl, rfl⟩
  case found intent _ _ _ =>
    refine .inl ?_
    cases intent <;> rw [stopMonitor_eq] <;> exact ⟨rfl, rfl⟩
  case released intent _ _ => cases intent <;> exact .inl ⟨rfl, rfl⟩
  case closed intent _ _ _ _ => cases intent <;> exact .inr (.inl rfl)
  case surrendered => exact .inr (.inl rfl)
  case armed => exact .inr (.inr ⟨_, rfl, rfl⟩)
  case recreated =>
    rw [recreated_eq]
    exact .inr (.inr ⟨_, rfl, rfl⟩)
  all_goals exact .inl ⟨rfl, rfl⟩

/-- Whoever asks for a renewal is the monitor of an active session that has its turn. -/
theorem renewal_of_call (outcome : Transition now session event next (some (.renew id))) :
    ∃ index, event = .granted (.monitor index) ∧
      session.monitors[index]? = some ⟨false, .queued⟩ ∧ session.lease.id = id ∧ id ≠ "" ∧
      next.lease = session.lease := by
  generalize asks : some (Manager.Call.renew id) = call at outcome
  cases outcome
  case renews queued _ leased =>
    cases asks
    exact ⟨_, rfl, queued, rfl, leased, rfl⟩
  case found intent _ _ _ | closed intent _ _ _ _ | released intent _ _ => cases intent <;> cases asks
  all_goals cases asks

/-- A lease is asked for on the terms of the session. -/
theorem creation_of_call (outcome : Transition now session event next (some (.create label span))) :
    label = session.name ∧ span = session.ttl := by
  generalize asks : some (Manager.Call.create label span) = call at outcome
  cases outcome
  case asked => cases asks; exact ⟨rfl, rfl⟩
  case found intent _ _ _ | closed intent _ _ _ _ =>
    cases intent
    · cases asks
    · cases asks
      rw [stopMonitor_eq]
      exact ⟨rfl, rfl⟩
  case released intent _ _ =>
    cases intent
    · cases asks
    · cases asks
      exact ⟨rfl, rfl⟩
  all_goals cases asks

/-- An active session is invalidated by an answer to its monitor. If that is an error that is worth a
retry, it is about a renewal, and the TTL is over. -/
theorem loss_of_outcome (outcome : Transition now session event next call)
    (active : session.lease.state = .active) (lost : next.lease.state = .invalidated) :
    ∃ index phase error, session.monitors[index]? = some ⟨false, phase⟩ ∧
      next.signal = (session.signal.fire (some error)).2 ∧
      (error.isRetryable = true → (∃ held, phase = .renewing held) ∧
        event = .answered (.monitor index) (.renewed (.error error)) ∧
        next.lease.id = session.lease.id ∧ session.ttl.nanos ≤ now - session.lease.renewedAt) := by
  cases outcome
  case denied waits fatal | lost waits fatal =>
    refine ⟨_, _, _, waits, rfl, fun retryable => ?_⟩
    rw [retryable] at fatal
    cases fatal
  case expired waits retryable late => exact ⟨_, _, _, waits, rfl, fun _ => ⟨⟨_, rfl⟩, rfl, rfl, late⟩⟩
  case recreated =>
    rw [recreated_eq] at lost
    cases lost
  case surrendered | armed => cases lost
  case found intent _ _ destroyed => rw [active] at destroyed; cases destroyed
  case closed intent _ _ _ _ => cases intent <;> cases lost
  -- The other steps leave the state as it is.
  all_goals
    have invalidated : session.lease.state = .invalidated := by
      simpa [stopMonitor_eq, fire, setMonitor, setCaller, endMonitor, sleepAgain, finish, leave]
        using lost
    rw [active] at invalidated
    cases invalidated

/-- A session that shows that its lease was lost with an error that is worth a retry was told of it by
an answer about a renewal, after the TTL was over. -/
theorem Lived.loss_shown (lived : Lived history session)
    (stepped : session.step now event = some (next, call)) (active : session.lease.state = .active)
    (lost : next.lease.state = .invalidated)
    (told : next.err.tryRecv next.signal = some (some error)) (retryable : error.isRetryable = true) :
    ∃ index, event = .answered (.monitor index) (.renewed (.error error)) ∧
      session.current = some index ∧ session.lease.id ≠ "" ∧ next.lease.id = session.lease.id ∧
      session.ttl.nanos ≤ now - session.lease.renewedAt := by
  obtain ⟨index, phase, shown, waits, signal, spent⟩ :=
    loss_of_outcome (transition_of_step stepped) active lost
  have pending : session.signal.current = .pending := by
    cases lived.settlement (lived.alive_of_untold waits) with
    | active _ _ _ pending => exact pending
    | lost inactive => exact absurd active inactive
    | releasing destroyed | released destroyed | interrupted destroyed =>
      rw [active] at destroyed
      cases destroyed
  obtain rfl : shown = error := by
    have settled := Observer.tryRecv_eq_some_iff.mp told
    rw [err, Signal.subscribe, Signal.fate_length, signal, Signal.fire, pending] at settled
    cases settled
    rfl
  obtain ⟨⟨held, rfl⟩, rfl, same, late⟩ := spent retryable
  refine ⟨index, rfl, lived.monitored.untold _ _ waits, ?_, same, late⟩
  rcases (lived.fitting.monitor _ _ (standing_monitor waits)).2 with ⟨_, other⟩ | ⟨leased, _⟩
  · cases other
  · exact leased

end Leasehold.Session
