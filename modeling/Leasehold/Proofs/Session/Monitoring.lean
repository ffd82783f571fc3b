import Leasehold.Proofs.Session.LeaseAccounting

/-! Which monitors of a session run. Each generation starts one monitor; the monitors of earlier
generations were all told to stop, and that of the current generation runs until it is told or the
lease is lost (`Monitored`). -/
namespace Leasehold.Session

variable {session next : Session} {event : Event} {call : Option Manager.Call} {now : Instant}
variable {index : Nat} {history : History}

/-- A monitor runs: it was not told to stop and has not ended. -/
def Running (session : Session) (index : Nat) : Prop :=
  ∃ phase, session.monitors[index]? = some ⟨false, phase⟩ ∧ phase ≠ .ended

/-- The monitors of a session agree with its generation and with the state of its lease. -/
structure Monitored (session : Session) : Prop where
  /-- One monitor was started in each generation. -/
  count : session.monitors.length = session.signal.past.length + 1
  /-- The monitor that can be told to stop is that of the current generation, and was not told. -/
  current : ∀ index, session.current = some index → index = session.signal.past.length ∧
    ∃ phase, session.monitors[index]? = some ⟨false, phase⟩
  /-- A monitor that was not told to stop can be told. -/
  untold : ∀ index phase, session.monitors[index]? = some ⟨false, phase⟩ →
    session.current = some index
  /-- While the session is active, a monitor ends only when it was told to stop. -/
  active : session.lease.state = .active → ∀ index : Nat, session.monitors[index]? ≠ some ⟨false, .ended⟩
  /-- When the lease is lost, the monitor of the current generation has ended. -/
  invalidated : session.lease.state = .invalidated →
    ∃ cancelled, session.monitors[session.signal.past.length]? = some ⟨cancelled, .ended⟩
  /-- When the lease was given up, no monitor is left to be told. -/
  destroyed : session.lease.state = .destroyed → session.current = none

namespace Monitored

/-- In an active session the monitor that runs is the one that can be told to stop. -/
theorem running_iff (monitored : session.Monitored) (active : session.lease.state = .active) :
    session.Running index ↔ session.current = some index := by
  constructor
  · rintro ⟨phase, found, _⟩
    exact monitored.untold index phase found
  · intro held
    obtain ⟨_, phase, found⟩ := monitored.current index held
    refine ⟨phase, found, ?_⟩
    rintro rfl
    exact monitored.active active index found

/-- Only the monitor of the current generation runs. -/
theorem generation_of_running (monitored : session.Monitored) (running : session.Running index) :
    index = session.signal.past.length := by
  obtain ⟨phase, found, _⟩ := running
  exact (monitored.current index (monitored.untold index phase found)).1

/-- In a session that is not active no monitor runs. -/
theorem not_running (monitored : session.Monitored) (inactive : session.lease.state ≠ .active) :
    ¬ session.Running index := by
  intro running
  have generation := monitored.generation_of_running running
  obtain ⟨phase, found, live⟩ := running
  have held := monitored.untold index phase found
  cases state : session.lease.state with
  | active => exact inactive state
  | destroyed => rw [monitored.destroyed state] at held; cases held
  | invalidated =>
    obtain ⟨cancelled, ended⟩ := monitored.invalidated state
    rw [← generation, found] at ended
    cases ended
    exact live rfl

end Monitored

/-! ## Monitors after a step -/

/-- A session begins with one monitor. -/
theorem monitored_fresh (fresh : session.Fresh now) : session.Monitored := by
  refine ⟨?_, ?_, ?_, ?_, ?_, ?_⟩
  · rw [fresh.monitors, fresh.signal]; rfl
  · intro index held
    rw [fresh.current] at held
    cases held
    exact ⟨by rw [fresh.signal]; rfl, _, by rw [fresh.monitors]; rfl⟩
  · intro index phase found
    rw [fresh.monitors] at found
    obtain ⟨rfl, _⟩ : index = 0 ∧ _ := by simpa [List.getElem?_singleton] using found
    exact fresh.current
  · intro _ index ended
    rw [fresh.monitors] at ended
    simp [List.getElem?_singleton] at ended
  · rw [fresh.active]; rintro ⟨⟩
  · rw [fresh.active]; rintro ⟨⟩

/-- What the monitors depend on has not changed. -/
private theorem monitored_of_same (monitored : session.Monitored)
    (monitors : next.monitors = session.monitors) (current : next.current = session.current)
    (past : next.signal.past = session.signal.past) (state : next.lease.state = session.lease.state) :
    next.Monitored := by
  refine ⟨?_, ?_, ?_, ?_, ?_, ?_⟩
  · rw [monitors, past]; exact monitored.count
  · rw [monitors, current, past]; exact monitored.current
  · rw [monitors, current]; exact monitored.untold
  · rw [monitors, state]; exact monitored.active
  · rw [monitors, past, state]; exact monitored.invalidated
  · rw [current, state]; exact monitored.destroyed

/-- After the monitor was told to stop, everyone was told. -/
private theorem all_told (monitored : session.Monitored) (phase : Monitor.Phase) :
    session.toldMonitors[index]? ≠ some ⟨false, phase⟩ := by
  rw [toldMonitors_get]
  cases found : session.monitors[index]? with
  | none => rintro ⟨⟩
  | some monitor =>
    obtain ⟨cancelled, earlier⟩ := monitor
    cases cancelled with
    | true => simp
    | false =>
      have held := monitored.untold index earlier found
      simp [held]

/-- The monitor was told to stop, and the session may have given up its lease. -/
private theorem monitored_of_told (monitored : session.Monitored)
    (monitors : next.monitors = session.toldMonitors) (current : next.current = none)
    (past : next.signal.past = session.signal.past)
    (state : next.lease.state = session.lease.state ∨ next.lease.state = .destroyed) :
    next.Monitored := by
  refine ⟨?_, ?_, ?_, ?_, ?_, fun _ => current⟩
  · rw [monitors, past, toldMonitors_length]; exact monitored.count
  · rw [current]; rintro _ ⟨⟩
  · intro index phase found
    rw [monitors] at found
    exact absurd found (all_told monitored phase)
  · intro _ index
    rw [monitors]
    exact all_told monitored .ended
  · intro invalidated
    rcases state with same | destroyed
    · obtain ⟨cancelled, ended⟩ := monitored.invalidated (same ▸ invalidated)
      rw [monitors, past, toldMonitors_get, ended]
      exact ⟨_, rfl⟩
    · rw [destroyed] at invalidated; cases invalidated

/-- A monitor has gone on. One that has ended stays so, and one may end when it was told to stop or the
session is not active. -/
private theorem monitored_of_moved {phase later : Monitor.Phase} (monitored : session.Monitored)
    (found : session.monitors[index]? = some ⟨cancelled, phase⟩) (stays : phase = .ended → later = .ended)
    (monitors : next.monitors = (session.setMonitor index later).monitors)
    (current : next.current = session.current) (past : next.signal.past = session.signal.past)
    (state : next.lease.state = session.lease.state)
    (needless : later = .ended → cancelled = true ∨ session.lease.state ≠ .active) :
    next.Monitored := by
  -- The monitors after the step, so that each field is read off by its position.
  have after : ∀ position, next.monitors[position]? = if index = position then
      some ⟨cancelled, later⟩ else session.monitors[position]? := by
    intro position
    rw [monitors]
    by_cases same : index = position
    · subst same; simp [setMonitor, found]
    · simp [setMonitor, same]
  refine ⟨?_, ?_, ?_, ?_, ?_, ?_⟩
  · rw [monitors, past, setMonitor, List.length_modify]; exact monitored.count
  · intro position held
    rw [current] at held
    obtain ⟨generation, earlier, untold⟩ := monitored.current position held
    refine ⟨past ▸ generation, ?_⟩
    rw [after]
    split
    · rename_i same
      rw [← same, found] at untold
      cases untold
      exact ⟨_, rfl⟩
    · exact ⟨earlier, untold⟩
  · intro position untold given
    rw [after] at given
    rw [current]
    split at given
    · rename_i same
      cases given
      exact same ▸ monitored.untold index phase found
    · exact monitored.untold position untold given
  · intro active position ended
    rw [state] at active
    rw [after] at ended
    split at ended
    · cases ended
      rcases needless rfl with told | inactive
      · cases told
      · exact inactive active
    · exact monitored.active active position ended
  · intro invalidated
    rw [state] at invalidated
    obtain ⟨told, ended⟩ := monitored.invalidated invalidated
    rw [past, after]
    split
    · rename_i same
      rw [← same, found] at ended
      cases ended
      exact ⟨_, by rw [stays rfl]⟩
    · exact ⟨told, ended⟩
  · rw [current, state]; exact monitored.destroyed

/-- The running monitor has ended because the lease is lost. -/
private theorem monitored_of_loss {phase : Monitor.Phase} (monitored : session.Monitored)
    (found : session.monitors[index]? = some ⟨false, phase⟩)
    (monitors : next.monitors = (session.setMonitor index .ended).monitors)
    (current : next.current = session.current) (past : next.signal.past = session.signal.past)
    (state : next.lease.state = .invalidated) : next.Monitored := by
  have held := monitored.untold index phase found
  have generation := (monitored.current index held).1
  have ended : next.monitors[index]? = some ⟨false, .ended⟩ := by
    rw [monitors]; simp [setMonitor, found]
  refine ⟨?_, ?_, ?_, ?_, ?_, ?_⟩
  · rw [monitors, past, setMonitor, List.length_modify]; exact monitored.count
  · intro position told
    rw [current, held] at told
    cases told
    exact ⟨past ▸ generation, _, ended⟩
  · intro position untold given
    rw [current, held]
    by_cases same : index = position
    · rw [same]
    · have before : session.monitors[position]? = some ⟨false, untold⟩ := by
        rw [monitors] at given; simpa [setMonitor, same] using given
      rw [← held]
      exact monitored.untold position untold before
  · rw [state]; rintro ⟨⟩
  · intro _; rw [past, ← generation]; exact ⟨_, ended⟩
  · rw [state]; rintro ⟨⟩

/-- Behind monitors that were all told to stop, an untold one is the new one. -/
theorem untold_is_last {first phase : Monitor.Phase} (monitored : session.Monitored)
    (found : (session.toldMonitors ++ [⟨false, first⟩])[index]? = some ⟨false, phase⟩) :
    index = session.monitors.length ∧ phase = first := by
  rw [List.getElem?_append, toldMonitors_length] at found
  split at found
  · exact absurd found (all_told monitored phase)
  · rename_i beyond
    rw [List.getElem?_singleton] at found
    split at found
    · rename_i last
      cases found
      exact ⟨Nat.le_antisymm (Nat.sub_eq_zero_iff_le.mp last) (Nat.le_of_not_lt beyond), rfl⟩
    · cases found

/-- A new generation has started its monitor. -/
private theorem monitored_of_start (monitored : session.Monitored)
    (monitors : next.monitors = session.toldMonitors ++ [⟨false, .asleep now wait⟩])
    (current : next.current = some session.monitors.length)
    (past : next.signal.past.length = session.signal.past.length + 1)
    (state : next.lease.state = .active) : next.Monitored := by
  have count : session.monitors.length = next.signal.past.length := by rw [monitored.count, past]
  have untold : ∀ index phase, next.monitors[index]? = some ⟨false, phase⟩ →
      index = session.monitors.length ∧ phase = .asleep now wait :=
    fun index phase given => untold_is_last monitored (monitors ▸ given)
  refine ⟨?_, ?_, ?_, ?_, ?_, ?_⟩
  · rw [monitors, List.length_append, toldMonitors_length, count]; rfl
  · intro index held
    rw [current] at held
    cases held
    refine ⟨count, .asleep now wait, ?_⟩
    rw [monitors, ← toldMonitors_length, List.getElem?_concat_length]
  · intro index phase given
    rw [current, (untold index phase given).1]
  · intro _ index ended
    cases (untold index _ ended).2
  · rw [state]; rintro ⟨⟩
  · rw [state]; rintro ⟨⟩

/-- The monitors of a session keep agreeing with it. -/
theorem monitored_preserved (monitored : session.Monitored) (fitting : session.Fitting)
    (outcome : Transition now session event next call) : next.Monitored := by
  cases outcome
  case began =>
    refine monitored_of_told monitored ?_ ?_ ?_ (.inl ?_) <;> rw [stopMonitor_eq]
  case woke asleep _ =>
    exact monitored_of_moved monitored asleep (by rintro ⟨⟩) rfl rfl rfl rfl (by rintro ⟨⟩)
  case noticed told _ =>
    exact monitored_of_moved monitored told (fun _ => rfl) rfl rfl rfl rfl fun _ => .inl rfl
  case retired first queued needless =>
    exact monitored_of_moved monitored queued (by rintro ⟨⟩) rfl rfl rfl rfl fun _ => needless
  case asked queued _ _ | renews queued _ _ =>
    exact monitored_of_moved monitored queued (by rintro ⟨⟩) rfl rfl rfl rfl (by rintro ⟨⟩)
  case found destroyed =>
    refine monitored_of_told monitored ?_ ?_ ?_ (.inl ?_) <;> simp [stopMonitor_eq]
  case closed =>
    refine monitored_of_told monitored ?_ ?_ ?_ (.inr ?_) <;>
      simp [stopMonitor_eq, fire, Signal.fire]
  case surrendered =>
    refine monitored_of_told monitored ?_ ?_ ?_ (.inr ?_) <;> simp [stopMonitor_eq, setCaller]
  case ignored told _ =>
    exact monitored_of_moved monitored told (fun _ => rfl) rfl rfl rfl rfl fun _ => .inl rfl
  case armed waits =>
    have active := (fitting.monitor _ _ (standing_monitor waits)).1
    exact monitored_of_moved monitored waits (by rintro ⟨⟩) rfl rfl rfl active.symm (by rintro ⟨⟩)
  case postponed waits _ | renewed waits | failed waits _ _ =>
    exact monitored_of_moved monitored waits (by rintro ⟨⟩) rfl rfl rfl rfl (by rintro ⟨⟩)
  case denied waits _ | expired waits _ _ | lost waits _ =>
    exact monitored_of_loss monitored waits rfl rfl rfl rfl
  case released =>
    refine monitored_of_same monitored ?_ ?_ ?_ ?_ <;> simp [fire, Signal.fire]
  case recreated =>
    rw [recreated_eq]
    exact monitored_of_start monitored rfl rfl (List.length_append ..) rfl
  case refused | forgone => exact monitored_of_same monitored rfl rfl rfl rfl
  case dropped index _ _ current =>
    obtain ⟨_, phase, found⟩ := monitored.current index current
    have stopped : session.stopMonitor.Monitored := by
      refine monitored_of_told monitored ?_ ?_ ?_ (.inl ?_) <;> rw [stopMonitor_eq]
    have told : session.stopMonitor.monitors[index]? = some ⟨true, phase⟩ := by
      rw [stopMonitor_eq, toldMonitors_get, found]; simp [current]
    refine monitored_of_moved stopped told (fun _ => rfl) rfl rfl ?_ rfl fun _ => .inl rfl
    rw [stopMonitor_eq]; rfl
  case deserted => exact monitored_of_same monitored rfl rfl rfl rfl

/-- The monitors of a session agree with it at every time. -/
theorem Lived.monitored (lived : Lived history session) : session.Monitored := by
  induction lived with
  | opened _ opened => exact monitored_fresh (fresh_of_opened opened).1
  | happened lived stepped ih => exact monitored_preserved ih lived.fitting (transition_of_step stepped)

end Leasehold.Session
