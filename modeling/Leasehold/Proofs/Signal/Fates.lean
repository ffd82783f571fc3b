import Leasehold.Signal

/-! What the operations on a signal do to the fates of its generations: each touches the current one
only, and only while it is pending, so that observers never see a fate change. -/
namespace Leasehold.Signal

variable {signal next : Signal} {generation : Nat}

theorem fate_past (old : generation < signal.past.length) :
    signal.fate generation = signal.past[generation] := by
  simp [fate, List.getElem?_append_left old, old]

theorem fate_length (signal : Signal) : signal.fate signal.past.length = signal.current := by
  simp [fate]

theorem fate_beyond (new : signal.past.length < generation) : signal.fate generation = .pending := by
  have absent : (signal.past ++ [signal.current])[generation]? = none := by
    apply List.getElem?_eq_none
    rw [List.length_append, List.length_singleton]
    exact new
  simp [fate, absent]

/-- A signal with the same past differs in the current generation only. -/
theorem fate_of_past (past : next.past = signal.past) (other : generation ≠ signal.past.length) :
    next.fate generation = signal.fate generation := by
  rcases Nat.lt_or_gt_of_ne other with old | new
  · rw [fate_past old, fate_past (past ▸ old)]
    simp [past]
  · rw [fate_beyond new, fate_beyond (past ▸ new)]

theorem fate_fire (signal : Signal) (outcome : Option Error) (generation : Nat) :
    (signal.fire outcome).2.fate generation =
      if generation = signal.past.length then signal.current.settle outcome
      else signal.fate generation := by
  split
  · rename_i here
    subst here
    exact fate_length (signal.fire outcome).2
  · rename_i other
    exact fate_of_past rfl other

theorem fate_drop (signal : Signal) (generation : Nat) :
    signal.drop.fate generation =
      if generation = signal.past.length then signal.current.close else signal.fate generation := by
  split
  · rename_i here
    subst here
    exact fate_length signal.drop
  · rename_i other
    exact fate_of_past rfl other

theorem fate_rearm (signal : Signal) (generation : Nat) :
    signal.rearm.fate generation =
      if generation = signal.past.length then signal.current.close else signal.fate generation := by
  have length : signal.rearm.past.length = signal.past.length + 1 := List.length_append
  rcases Nat.lt_trichotomy generation signal.past.length with old | rfl | new
  · rw [if_neg (Nat.ne_of_lt old), fate_past old, fate_past (by omega)]
    simp [rearm, List.getElem_append_left old]
  · rw [if_pos rfl, fate_past (by omega)]
    simp [rearm]
  · rw [if_neg (Nat.ne_of_gt new), fate_beyond new]
    rcases Nat.eq_or_lt_of_le (Nat.succ_le_of_lt new) with next | later
    · have last : generation = signal.rearm.past.length := by omega
      rw [last, fate_length]
      rfl
    · exact fate_beyond (by omega)

/-! ## Fates do not change -/

/-- How a signal goes on. -/
inductive Onward (signal : Signal) : Signal → Prop where
  | same : Onward signal signal
  | fired (outcome : Option Error) : Onward signal (signal.fire outcome).2
  | rearmed : Onward signal signal.rearm
  | dropped : Onward signal signal.drop

/-- A generation that is not pending any more keeps its fate. -/
theorem Onward.fate_stays (onward : signal.Onward next) (settled : signal.fate generation ≠ .pending) :
    next.fate generation = signal.fate generation := by
  have settles (outcome : Option Error) (here : generation = signal.past.length) :
      signal.current.settle outcome = signal.fate generation := by
    subst here
    rw [fate_length] at settled ⊢
    cases fate : signal.current <;> simp_all [Fate.settle]
  have closes (here : generation = signal.past.length) :
      signal.current.close = signal.fate generation := by
    subst here
    rw [fate_length] at settled ⊢
    cases fate : signal.current <;> simp_all [Fate.close]
  cases onward with
  | same => rfl
  | fired outcome =>
    rw [fate_fire]
    split
    · rename_i here; exact settles outcome here
    · rfl
  | rearmed =>
    rw [fate_rearm]
    split
    · rename_i here; exact closes here
    · rfl
  | dropped =>
    rw [fate_drop]
    split
    · rename_i here; exact closes here
    · rfl

end Leasehold.Signal

namespace Leasehold.Observer

variable {signal next : Signal} {outcome : Option Error} {observer : Observer}

theorem tryRecv_eq_some_iff :
    observer.tryRecv signal = some outcome ↔ signal.fate observer.generation = .settled outcome := by
  unfold tryRecv
  cases signal.fate observer.generation <;> simp

theorem recv_eq_some_iff : observer.recv signal = some outcome ↔
    signal.fate observer.generation = .settled outcome ∨
      signal.fate observer.generation = .closed ∧ outcome = none := by
  unfold recv
  cases signal.fate observer.generation <;> simp [eq_comm]

/-- What an observer was told it is told ever after. -/
theorem tryRecv_stays (onward : signal.Onward next) (told : observer.tryRecv signal = some outcome) :
    observer.tryRecv next = some outcome := by
  rw [tryRecv_eq_some_iff] at told ⊢
  rw [onward.fate_stays (by rw [told]; nofun), told]

/-- What an observer that waits was told it is told ever after. -/
theorem recv_stays (onward : signal.Onward next) (told : observer.recv signal = some outcome) :
    observer.recv next = some outcome := by
  rw [recv_eq_some_iff] at told ⊢
  have settled : signal.fate observer.generation ≠ .pending := by
    rcases told with settled | ⟨closed, _⟩
    · rw [settled]; nofun
    · rw [closed]; nofun
  rw [onward.fate_stays settled]
  exact told

/-- To be closed tells nobody anything. -/
private theorem tryRecv_of_close (closed : next.fate observer.generation =
      if observer.generation = signal.past.length then signal.current.close
      else signal.fate observer.generation) :
    observer.tryRecv next = observer.tryRecv signal := by
  unfold tryRecv
  rw [closed]
  by_cases here : observer.generation = signal.past.length
  · rw [if_pos here, here, Signal.fate_length]
    cases signal.current <;> rfl
  · rw [if_neg here]

theorem tryRecv_rearm (observer : Observer) (signal : Signal) :
    observer.tryRecv signal.rearm = observer.tryRecv signal :=
  tryRecv_of_close (Signal.fate_rearm signal observer.generation)

theorem tryRecv_drop (observer : Observer) (signal : Signal) :
    observer.tryRecv signal.drop = observer.tryRecv signal :=
  tryRecv_of_close (Signal.fate_drop signal observer.generation)

/-- Settling tells the observers of the current generation the outcome, unless they were told before. -/
theorem tryRecv_fire (observer : Observer) (outcome : Option Error)
    (open_ : signal.current ≠ .closed) :
    observer.tryRecv (signal.fire outcome).2 =
      if observer = signal.subscribe then (observer.tryRecv signal).or (some outcome)
      else observer.tryRecv signal := by
  by_cases here : observer = signal.subscribe
  · subst here
    rw [if_pos rfl]
    unfold tryRecv
    rw [Signal.fate_fire, Signal.subscribe, if_pos rfl, Signal.fate_length]
    cases fate : signal.current with
    | pending | settled => rfl
    | closed => exact absurd fate open_
  · have other : observer.generation ≠ signal.past.length :=
      fun same => here (by rw [Signal.subscribe, ← same])
    unfold tryRecv
    rw [if_neg here, Signal.fate_fire, if_neg other]

end Leasehold.Observer
