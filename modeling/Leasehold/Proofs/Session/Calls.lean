import Leasehold.Proofs.Session.LeaseAccounting

/-! What holds of the calls of a session: a call is in progress exactly while it waits or works, only
a `recreate` asks for a lease, and a session is dropped only when no call is in progress, after which
none begins. -/
namespace Leasehold.Session

/-- No call is in progress. -/
def Idle (session : Session) : Prop := ∀ caller ∈ session.callers, caller.inProgress = false

/-- How a call has come to where it is after an event. -/
inductive CallerMove (session : Session) : Event → Nat → Caller → Prop where
  /-- It was there before. -/
  | same (before : session.callers[index]? = some caller) : CallerMove session event index caller
  /-- It has begun. -/
  | began : CallerMove session (.began intent) session.callers.length ⟨intent, .queued⟩
  /-- It gives up the lease. -/
  | gives (before : session.callers[index]? = some ⟨intent, .queued⟩) :
      CallerMove session (.granted (.caller index)) index ⟨intent, .destroying session.lease.id⟩
  /-- The lease was given up, and the call was for nothing else. -/
  | done (before : session.callers[index]? = some ⟨.destroy, phase⟩)
      (pending : Caller.inProgress ⟨.destroy, phase⟩ = true)
      (about : session.subject event = some (.caller index)) :
      CallerMove session event index ⟨.destroy, .finished none⟩
  /-- The lease was given up, and the call asks for a new one. -/
  | asks (before : session.callers[index]? = some ⟨.recreate, phase⟩)
      (pending : Caller.inProgress ⟨.recreate, phase⟩ = true)
      (about : session.subject event = some (.caller index)) :
      CallerMove session event index ⟨.recreate, .creating⟩
  /-- It was answered about its new lease. -/
  | answered (before : session.callers[index]? = some ⟨intent, .creating⟩) :
      CallerMove session (.answered (.caller index) (.created result)) index ⟨intent, .finished problem⟩
  /-- It was dropped. -/
  | forgone (before : session.callers[index]? = some ⟨intent, phase⟩) :
      CallerMove session (.forgone index) index ⟨intent, .abandoned⟩

variable {session next : Session} {event : Event} {call : Option Manager.Call} {now : Instant}
variable {index : Nat} {history : History}

/-- A call is over when it is absent from the turns. -/
theorem standing_absent_iff (found : session.callers[index]? = some caller) :
    session.standing (.caller index) = .absent ↔ caller.inProgress = false := by
  rw [standing_caller found]
  unfold callerStanding Caller.inProgress
  cases caller.phase <;> simp

/-- In an idle session every call is absent from the turns. -/
theorem Idle.standing (idle : session.Idle) (index : Nat) :
    session.standing (.caller index) = .absent := by
  cases found : session.callers[index]? with
  | none => simp [Session.standing, found]
  | some caller => exact (standing_absent_iff found).mpr (idle caller (List.mem_of_getElem? found))

/-- A session is dropped at most once, and only when no call is in progress. -/
theorem isDropped_after (outcome : Transition now session event next call) :
    next.isDropped = session.isDropped ∨
      event = .dropped ∧ session.callers.any Caller.inProgress = false := by
  cases outcome
  case dropped idle _ | deserted idle _ => exact .inr ⟨rfl, idle⟩
  case began | found | closed | surrendered | released | recreated =>
    left; simp [stopMonitor_eq, recreated_eq, fire, setCaller, finish, leave]
  all_goals exact .inl rfl

/-- A session that is not dropped was not dropped before. -/
theorem alive_before (outcome : Transition now session event next call)
    (alive : next.isDropped = false) : session.isDropped = false := by
  rcases isDropped_after outcome with same | ⟨rfl, _⟩
  · rw [← same, alive]
  · cases outcome <;> assumption

/-! ## How far a call comes -/

/-- The calls after one has gone on to another phase. -/
theorem setCaller_get (found : session.callers[index]? = some ⟨intent, phase⟩)
    (later : Caller.Phase) (position : Nat) :
    (session.setCaller index later).callers[position]? =
      if index = position then some ⟨intent, later⟩ else session.callers[position]? := by
  by_cases same : index = position
  · subst same; simp [setCaller, found]
  · simp [setCaller, same]

theorem setCaller_get_self (found : session.callers[index]? = some ⟨intent, phase⟩)
    (later : Caller.Phase) : (session.setCaller index later).callers[index]? = some ⟨intent, later⟩ := by
  rw [setCaller_get found, if_pos rfl]

private theorem move_of_setCaller (found : session.callers[index]? = some ⟨intent, phase⟩)
    (later : Caller.Phase) (after : (session.setCaller index later).callers[position]? = some caller)
    (move : CallerMove session event index ⟨intent, later⟩) :
    CallerMove session event position caller := by
  rw [setCaller_get found] at after
  split at after
  · rename_i same; cases after; exact same ▸ move
  · exact .same after

private theorem move_of_afterTeardown (ready : Session) (callers : ready.callers = session.callers)
    (about : session.subject event = some (.caller index))
    (found : session.callers[index]? = some ⟨intent, phase⟩)
    (pending : Caller.inProgress ⟨intent, phase⟩ = true)
    (after : (ready.afterTeardown index intent).1.callers[position]? = some caller) :
    CallerMove session event position caller := by
  cases intent with
  | destroy =>
    refine move_of_setCaller found (.finished none) ?_ (.done found pending about)
    rw [← after]; simp [afterTeardown, finish, leave, setCaller, callers]
  | recreate =>
    refine move_of_setCaller found .creating ?_ (.asks found pending about)
    rw [← after]; simp [afterTeardown, setCaller, callers]

/-- Every call was there before, or has moved. -/
theorem caller_moved (outcome : Transition now session event next call)
    (after : next.callers[index]? = some caller) : CallerMove session event index caller := by
  cases outcome
  case began intent _ =>
    simp only [List.getElem?_append] at after
    split at after
    · exact .same after
    · rename_i beyond
      rw [List.getElem?_singleton] at after
      split at after
      · rename_i first
        cases after
        have new : index = session.callers.length :=
          Nat.le_antisymm (Nat.sub_eq_zero_iff_le.mp first) (Nat.le_of_not_lt beyond)
        exact new ▸ .began
      · cases after
  case found queued _ | closed queued _ _ =>
    exact move_of_afterTeardown _ (by simp [stopMonitor_eq, fire]) rfl queued rfl after
  case surrendered queued _ _ =>
    refine move_of_setCaller queued (.destroying session.lease.id) ?_ (.gives queued)
    simpa [stopMonitor_eq, setCaller] using after
  case released waits => exact move_of_afterTeardown (session.fire none) rfl rfl waits rfl after
  case recreated waits =>
    refine move_of_setCaller waits (.finished none) ?_ (.answered waits)
    simpa [recreated_eq, finish, leave, setCaller] using after
  case refused error _ waits =>
    exact move_of_setCaller waits (.finished (some error)) after (.answered waits)
  case forgone found _ => exact move_of_setCaller found .abandoned after (.forgone found)
  case dropped =>
    rw [stopMonitor_eq] at after
    exact .same after
  all_goals exact .same after

/-! ## Which calls make a lease -/

/-- Only a `recreate` asks for a lease. -/
def Intended (session : Session) : Prop :=
  ∀ (index : Nat) intent, session.callers[index]? = some ⟨intent, .creating⟩ → intent = .recreate

theorem intended_preserved (intended : session.Intended)
    (outcome : Transition now session event next call) : next.Intended := by
  intro index intent creating
  cases caller_moved outcome creating with
  | same before => exact intended index intent before
  | asks _ _ _ => rfl

/-- A call that waits for a lease is a `recreate`. -/
theorem Lived.intended (lived : Lived history session) : session.Intended := by
  induction lived with
  | opened _ opened =>
    intro index intent creating
    simp [(fresh_of_opened opened).1.callers] at creating
  | happened _ stepped ih => exact intended_preserved ih (transition_of_step stepped)

/-! ## Calls of a dropped session -/

/-- A dropped session has no call in progress. -/
theorem Lived.idle_of_dropped (lived : Lived history session) (gone : session.isDropped = true) :
    session.Idle := by
  induction lived with
  | opened _ opened => rw [(fresh_of_opened opened).1.alive] at gone; cases gone
  | @happened history session now event next call lived stepped ih =>
    have outcome := transition_of_step stepped
    intro caller member
    obtain ⟨index, after⟩ := List.getElem?_of_mem member
    cases before : session.isDropped with
    | true =>
      have idle : ∀ (index : Nat) caller, session.callers[index]? = some caller →
          caller.inProgress = false :=
        fun index caller found => ih before caller (List.mem_of_getElem? found)
      cases caller_moved outcome after with
      | same found => exact idle _ _ found
      | began => cases outcome with | began _ alive => rw [before] at alive; cases alive
      | gives found => cases idle _ _ found
      | asks found pending _ => rw [idle _ _ found] at pending; cases pending
      | done | answered | forgone => rfl
    | false =>
      rcases isDropped_after outcome with same | ⟨rfl, idle⟩
      · rw [same, before] at gone; cases gone
      · cases caller_moved outcome after with
        | same found => simpa using List.any_eq_false.mp idle caller (List.mem_of_getElem? found)
        | done => rfl
        | asks _ _ about => simp [subject] at about

end Leasehold.Session
