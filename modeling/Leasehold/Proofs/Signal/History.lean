import Leasehold.Proofs.Signal.Fates

/-! What has been done with a signal, act by act. What an observer is told is read off that alone: the first
outcome that its generation was fired with, whenever the observer was made, and whatever is done with the
signal afterwards (`settles_once`). An observer that waits is told as well that its generation is over. -/
namespace Leasehold.Signal

/-! ## Acts -/

/-- What is done with a signal or an observer of it. -/
inductive Act where
  /-- The current generation is settled, if it was not settled before. -/
  | fire (outcome : Option Error)
  /-- A new generation begins. -/
  | rearm
  /-- An observer of the current generation is made. -/
  | subscribe
  /-- An observer is copied; they are numbered in the order in which they are made. -/
  | copy (index : Nat)
  /-- The signal is dropped, and its observers are kept. -/
  | drop
deriving DecidableEq

/-- A signal with its observers, the first one first. -/
structure Watched where
  /-- The signal. -/
  signal : Signal := {}
  /-- The observers that were made so far. -/
  observers : List Observer := []

/-- What an act makes of a signal and its observers. -/
def Watched.take (act : Act) (watched : Watched) : Watched :=
  match act with
  | .fire outcome => { watched with signal := (watched.signal.fire outcome).2 }
  | .rearm => { watched with signal := watched.signal.rearm }
  | .subscribe => { watched with observers := watched.observers ++ [watched.signal.subscribe] }
  | .copy index => { watched with observers := watched.observers ++ watched.observers[index]?.toList }
  | .drop => { watched with signal := watched.signal.drop }

/-- A new signal after these acts, of which the latest one stands first. -/
def after : List Act → Watched
  | [] => {}
  | act :: earlier => (after earlier).take act

/-! ## What the acts say -/

/-- The number of the generation that is the current one after these acts. -/
def newest : List Act → Nat
  | [] => 0
  | .rearm :: earlier => newest earlier + 1
  | _ :: earlier => newest earlier

/-- The outcome of the first of these acts that fires a generation. -/
def firstFired? (generation : Nat) : List Act → Option (Option Error)
  | [] => none
  | .fire outcome :: earlier =>
    (firstFired? generation earlier).or (if newest earlier = generation then some outcome else none)
  | _ :: earlier => firstFired? generation earlier

/-- A generation is over: there is a newer one, or the signal was dropped. -/
def IsOver (generation : Nat) (history : List Act) : Prop :=
  generation < newest history ∨ .drop ∈ history

instance : Decidable (IsOver generation history) := inferInstanceAs (Decidable (_ ∨ _))

/-- The generations of the observers. One that is made belongs to the current generation, and a copy to the
generation of what it was copied from. -/
def observed : List Act → List Nat
  | [] => []
  | .subscribe :: earlier => observed earlier ++ [newest earlier]
  | .copy index :: earlier => observed earlier ++ (observed earlier)[index]?.toList
  | _ :: earlier => observed earlier

/-- Nothing is done with a signal that was dropped, and only what there is is copied. -/
def IsPossible : List Act → Prop
  | [] => True
  | .copy index :: earlier => IsPossible earlier ∧ index < (observed earlier).length
  | _ :: earlier => IsPossible earlier ∧ .drop ∉ earlier

instance decidableIsPossible : (history : List Act) → Decidable (IsPossible history)
  | [] => .isTrue trivial
  | act :: earlier =>
    have := decidableIsPossible earlier
    match act with
    | .fire _ | .rearm | .subscribe | .copy _ | .drop => inferInstanceAs (Decidable (_ ∧ _))

/-- What became of a generation, by the acts. -/
def verdict (generation : Nat) (history : List Act) : Fate :=
  match firstFired? generation history with
  | some outcome => .settled outcome
  | none => if IsOver generation history then .closed else .pending

variable {act : Act} {history : List Act} {generation : Nat} {signal : Signal} {observer : Observer}

/-- No generation is fired before it begins. -/
theorem firstFired?_of_lt (new : newest history < generation) : firstFired? generation history = none := by
  induction history with
  | nil => rfl
  | cons act earlier ih =>
    cases act with
    | fire outcome =>
      have before : newest earlier < generation := new
      rw [firstFired?, ih before, if_neg (Nat.ne_of_lt before)]
      rfl
    | rearm => exact ih (Nat.lt_of_succ_lt new)
    | subscribe | copy | drop => exact ih new

theorem observed_le (member : generation ∈ observed history) : generation ≤ newest history := by
  induction history with
  | nil => cases member
  | cons act earlier ih =>
    cases act with
    | fire | drop => exact ih member
    | rearm => exact Nat.le_succ_of_le (ih member)
    | subscribe =>
      rcases List.mem_append.mp member with old | new
      · exact ih old
      · exact Nat.le_of_eq (List.mem_singleton.mp new)
    | copy index =>
      rcases List.mem_append.mp member with old | copied
      · exact ih old
      · exact ih (List.mem_of_getElem? (Option.mem_toList.mp copied))

/-- The current generation is not over as long as the signal is there. -/
theorem not_isOver (kept : .drop ∉ history) : ¬ IsOver (newest history) history :=
  not_or.mpr ⟨Nat.lt_irrefl _, kept⟩

/-- An act that neither ends a generation nor fires it does not matter to it. -/
theorem verdict_of_quiet (act : Act)
    (unfired : firstFired? generation (act :: history) = firstFired? generation history)
    (unchanged : newest (act :: history) = newest history) (kept : act ≠ .drop) :
    verdict generation (act :: history) = verdict generation history := by
  have ended : IsOver generation (act :: history) ↔ IsOver generation history := by
    unfold IsOver
    rw [unchanged, List.mem_cons, or_iff_right kept.symm]
  unfold verdict
  rw [unfired]
  simp only [ended]

theorem verdict_fire (kept : .drop ∉ history) (outcome : Option Error) :
    verdict generation (.fire outcome :: history) =
      if generation = newest history then (verdict generation history).settle outcome
      else verdict generation history := by
  split
  · rename_i current
    subst current
    unfold verdict
    rw [firstFired?, if_pos rfl]
    cases firstFired? (newest history) history with
    | some first => rfl
    | none =>
      dsimp only
      rw [if_neg (not_isOver kept)]
      rfl
  · rename_i other
    refine verdict_of_quiet _ ?_ rfl nofun
    rw [firstFired?, if_neg (Ne.symm other), Option.or_none]

/-- A generation that has just begun is pending. -/
theorem verdict_rearm (kept : .drop ∉ history) :
    verdict (newest history + 1) (.rearm :: history) = .pending := by
  have unfired : firstFired? (newest history + 1) history = none := firstFired?_of_lt (Nat.lt_succ_self _)
  have still : ¬ IsOver (newest (.rearm :: history)) (.rearm :: history) := not_isOver (by simpa using kept)
  simp only [verdict, firstFired?, unfired]
  exact if_neg still

/-- An act that fires nothing and ends a generation closes it, unless it was fired before. -/
theorem verdict_of_over
    (unfired : firstFired? generation (act :: history) = firstFired? generation history)
    (ended : IsOver generation (act :: history)) :
    verdict generation (act :: history) = (verdict generation history).close := by
  unfold verdict
  rw [unfired, if_pos ended]
  cases firstFired? generation history with
  | some outcome => rfl
  | none =>
    dsimp only
    split <;> rfl

theorem verdict_close (ended : IsOver generation history) :
    (verdict generation history).close = verdict generation history := by
  unfold verdict
  rw [if_pos ended]
  cases firstFired? generation history <;> rfl

/-! ## Signals and observers after the acts -/

theorem onward_take (act : Act) (watched : Watched) : watched.signal.Onward (watched.take act).signal := by
  cases act with
  | fire outcome => exact .fired outcome
  | rearm => exact .rearmed
  | subscribe | copy => exact .same
  | drop => exact .dropped

theorem past_length_after (history : List Act) : (after history).signal.past.length = newest history := by
  induction history with
  | nil => rfl
  | cons act earlier ih =>
    cases act with
    | rearm => rw [newest, ← ih]; exact List.length_append
    | fire | subscribe | copy | drop => exact ih

theorem observers_after (history : List Act) :
    (after history).observers = (observed history).map Observer.mk := by
  induction history with
  | nil => rfl
  | cons act earlier ih =>
    cases act with
    | subscribe => simp [after, Watched.take, observed, ih, Signal.subscribe, past_length_after]
    | copy index =>
      rw [observed, List.map_append, ← ih, after, Watched.take, ih, List.getElem?_map]
      cases (observed earlier)[index]? <;> rfl
    | fire | rearm | drop => exact ih

theorem current_after
    (known : (after history).signal.fate (newest history) = verdict (newest history) history) :
    (after history).signal.current = verdict (newest history) history := by
  rw [← known, ← past_length_after, fate_length]

/-- What is closed at the end of the current generation is what the acts say is over. -/
theorem fate_of_over (known : (after history).signal.fate generation = verdict generation history)
    (begun : generation ≤ newest history)
    (unfired : firstFired? generation (act :: history) = firstFired? generation history)
    (ended : IsOver generation (act :: history)) :
    (if generation = (after history).signal.past.length then (after history).signal.current.close
      else (after history).signal.fate generation) = verdict generation (act :: history) := by
  rw [verdict_of_over unfired ended, past_length_after]
  split
  · rename_i current
    subst current
    rw [current_after known]
  · rename_i other
    rw [known, verdict_close (.inl (Nat.lt_of_le_of_ne begun other))]

/-- What became of a generation that has begun is what the acts say. -/
theorem fate_after (possible : IsPossible history) (begun : generation ≤ newest history) :
    (after history).signal.fate generation = verdict generation history := by
  -- By the acts. Generations that have not begun are left out: by the acts they are over as well when the
  -- signal is dropped, and in the signal they stay pending.
  induction history generalizing generation with
  | nil =>
    obtain rfl : generation = 0 := Nat.le_zero.mp begun
    rfl
  | cons act earlier ih =>
    cases act with
    | fire outcome =>
      have known : (after earlier).signal.fate generation = verdict generation earlier := ih possible.1 begun
      rw [after, Watched.take, fate_fire, past_length_after, verdict_fire possible.2, known]
      split
      · rename_i current
        subst current
        rw [current_after known]
      · rfl
    | rearm =>
      rcases Nat.lt_or_eq_of_le begun with old | rfl
      · have begun : generation ≤ newest earlier := Nat.le_of_lt_succ old
        rw [after, Watched.take, fate_rearm]
        exact fate_of_over (ih possible.1 begun) begun rfl (.inl old)
      · rw [← past_length_after, fate_length, past_length_after]
        exact (verdict_rearm possible.2).symm
    | subscribe => exact (ih possible.1 begun).trans (verdict_of_quiet .subscribe rfl rfl nofun).symm
    | copy index => exact (ih possible.1 begun).trans (verdict_of_quiet (.copy index) rfl rfl nofun).symm
    | drop =>
      rw [after, Watched.take, fate_drop]
      exact fate_of_over (ih possible.1 begun) begun rfl (.inr List.mem_cons_self)

/-! ## What observers are told -/

/-- What an observer was told it is told after all later acts. -/
theorem told_after (history later : List Act) (observer : Observer) (outcome : Option Error) :
    (observer.tryRecv (after history).signal = some outcome →
        observer.tryRecv (after (later ++ history)).signal = some outcome) ∧
      (observer.recv (after history).signal = some outcome →
        observer.recv (after (later ++ history)).signal = some outcome) := by
  induction later with
  | nil => exact ⟨id, id⟩
  | cons act later ih =>
    have onward := onward_take act (after (later ++ history))
    exact ⟨fun told => Observer.tryRecv_stays onward (ih.1 told),
      fun told => Observer.recv_stays onward (ih.2 told)⟩

theorem tryRecv_of_verdict (fate : signal.fate observer.generation = verdict generation history) :
    observer.tryRecv signal = firstFired? generation history := by
  rw [Observer.tryRecv, fate, verdict]
  cases firstFired? generation history with
  | some outcome => rfl
  | none => by_cases ended : IsOver generation history <;> simp [ended]

theorem recv_of_verdict (fate : signal.fate observer.generation = verdict generation history) :
    observer.recv signal =
      (firstFired? generation history).or (if IsOver generation history then some none else none) := by
  rw [Observer.recv, fate, verdict]
  cases firstFired? generation history with
  | some outcome => rfl
  | none => by_cases ended : IsOver generation history <;> simp [ended]

/-- **A signal settles once.** As long as the signal is there, firing it tells that its current generation was
not fired before. An observer that does not wait is told the outcome that its own generation was fired with
first, and nothing before that. One that waits is told the same; if its generation is over unfired, it is told
that there was no error, and else it waits on. What they were told they are told again, whatever is done. -/
theorem settles_once (history : List Act) (possible : IsPossible history) :
    (.drop ∉ history → ∀ outcome,
      ((after history).signal.fire outcome).1 = true ↔ firstFired? (newest history) history = none) ∧
    (after history).observers.length = (observed history).length ∧
    ∀ (index generation : Nat), (observed history)[index]? = some generation →
      ∃ observer : Observer, (after history).observers[index]? = some observer ∧
        observer.tryRecv (after history).signal = firstFired? generation history ∧
        observer.recv (after history).signal =
          (firstFired? generation history).or (if IsOver generation history then some none else none) ∧
        ∀ (later : List Act) (outcome : Option Error),
          (observer.tryRecv (after history).signal = some outcome →
            observer.tryRecv (after (later ++ history)).signal = some outcome) ∧
          (observer.recv (after history).signal = some outcome →
            observer.recv (after (later ++ history)).signal = some outcome) := by
  refine ⟨fun kept outcome => ?_, ?_, fun index generation made => ?_⟩
  · have known := fate_after possible (Nat.le_refl (newest history))
    rw [fire, current_after known, verdict]
    cases firstFired? (newest history) history with
    | some first => exact iff_of_false nofun nofun
    | none =>
      dsimp only
      rw [if_neg (not_isOver kept)]
      exact iff_of_true rfl rfl
  · rw [observers_after, List.length_map]
  · have fate := fate_after possible (observed_le (List.mem_of_getElem? made))
    refine ⟨⟨generation⟩, ?_, tryRecv_of_verdict fate, recv_of_verdict fate, fun later => ?_⟩
    · rw [observers_after, List.getElem?_map, made]
      rfl
    · exact told_after history later ⟨generation⟩

/-- A generation is observed, fired twice and observed again by a copy. The next one ends before it is fired,
and the signal is dropped before the last one is. -/
def eventfulHistory : List Act :=
  [.copy 3, .drop, .subscribe, .rearm, .subscribe, .rearm, .copy 0, .fire none, .fire (some .sessionInvalid),
    .subscribe]

/-- Only the first firing counts. The copy is told its outcome, and the observers of the later generations are
told that there was no error once they wait. -/
theorem eventful_history_settles : IsPossible eventfulHistory ∧
    ((after [.subscribe]).signal.fire (some .sessionInvalid)).1 = true ∧
    ((after [.fire (some .sessionInvalid), .subscribe]).signal.fire none).1 ≠ true ∧
    (∃ copied, (after eventfulHistory).observers[1]? = some copied ∧
      copied.tryRecv (after eventfulHistory).signal = some (some .sessionInvalid)) ∧
    (∃ replaced, (after eventfulHistory).observers[2]? = some replaced ∧
      replaced.tryRecv (after eventfulHistory).signal = none ∧
      replaced.recv (after eventfulHistory).signal = some none) ∧
    ∃ dropped, (after eventfulHistory).observers[4]? = some dropped ∧
      dropped.tryRecv (after eventfulHistory).signal = none ∧
      dropped.recv (after eventfulHistory).signal = some none := by
  have possible : IsPossible eventfulHistory := by decide
  obtain ⟨-, -, told⟩ := settles_once eventfulHistory possible
  obtain ⟨copied, first, settled, -⟩ := told 1 0 rfl
  obtain ⟨replaced, second, unsettled, silent, -⟩ := told 2 1 rfl
  obtain ⟨dropped, third, unfired, closed, -⟩ := told 4 2 rfl
  obtain ⟨fresh, -⟩ := settles_once [.subscribe] (by decide)
  obtain ⟨spent, -⟩ := settles_once [.fire (some .sessionInvalid), .subscribe] (by decide)
  refine ⟨possible, (fresh (by decide) _).mpr rfl, ?_, ⟨copied, first, settled⟩,
    ⟨replaced, second, unsettled, silent⟩, dropped, third, unfired, closed⟩
  rw [Ne, spent (by decide)]
  nofun

end Leasehold.Signal
