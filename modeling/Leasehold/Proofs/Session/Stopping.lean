import Leasehold.Proofs.Session.Coherence
import Leasehold.Proofs.Session.Runs

/-! Monitors that were told to stop. A monitor that does not run never runs again, and only one that
runs calls the manager, wherever it was when it was told and whoever has had a turn since. So a session
that is not active makes no lease and renews none, until a `recreate` asks for one. -/
namespace Leasehold.Session

variable {session next start later : Session} {event : Event} {call : Option Manager.Call}
variable {now : Instant} {index : Nat} {history : History} {moments : List Moment}

/-- The monitor with this number was told to stop. -/
def Told (session : Session) (index : Nat) : Prop :=
  ∃ phase, session.monitors[index]? = some ⟨true, phase⟩

/-- The monitor with this number was not told to stop. -/
def Untold (session : Session) (index : Nat) : Prop :=
  ∃ phase, session.monitors[index]? = some ⟨false, phase⟩

/-- Whether the call with this number asks for a lease at this moment. -/
def Moment.asks (moment : Moment) (index : Nat) : Bool :=
  match moment.actor?, moment.call with
  | some (.caller actor), some (.create _ _) => actor = index
  | _, _ => false

/-! ## Monitors that do not run -/

/-- A monitor may have become another one: what it was told stays told, and an end is final. -/
structure Monitor.Becomes (old new : Monitor) : Prop where
  told : old.cancelled = true → new.cancelled = true
  ended : old.phase = .ended → new.phase = .ended

theorem Monitor.Becomes.refl (monitor : Monitor) : monitor.Becomes monitor :=
  ⟨fun told => told, fun ended => ended⟩

private theorem becomes_of_told (after : session.toldMonitors[index]? = some monitor) :
    ∃ old, session.monitors[index]? = some old ∧ old.Becomes monitor := by
  rw [toldMonitors_get] at after
  obtain ⟨old, found, rfl⟩ := Option.map_eq_some_iff.mp after
  refine ⟨old, found, ?_, fun ended => ended⟩
  intro told
  simp [told]

private theorem becomes_of_setMonitor {position : Nat} {phase : Monitor.Phase}
    (live : ∀ cancelled, session.monitors[position]? = some ⟨cancelled, .ended⟩ → phase = .ended)
    (after : (session.setMonitor position phase).monitors[index]? = some monitor) :
    ∃ old, session.monitors[index]? = some old ∧ old.Becomes monitor := by
  rw [setMonitor, List.getElem?_modify] at after
  obtain ⟨old, found, rfl⟩ := Option.map_eq_some_iff.mp after
  refine ⟨old, found, ?_, ?_⟩
  · intro told
    split <;> exact told
  · intro ended
    split
    · rename_i same
      subst same
      obtain ⟨cancelled, reached⟩ := old
      cases ended
      exact live cancelled found
    · exact ended

/-- Every monitor was there before, or was just started. -/
theorem monitor_before (outcome : Transition now session event next call)
    (after : next.monitors[index]? = some monitor) :
    session.monitors.length ≤ index ∨
      ∃ old, session.monitors[index]? = some old ∧ old.Becomes monitor := by
  have other {position : Nat} {cancelled phase}
      (found : session.monitors[position]? = some ⟨cancelled, phase⟩)
      (live : phase ≠ .ended) (later : Monitor.Phase) (told : Bool)
      (ended : session.monitors[position]? = some ⟨told, .ended⟩) : later = .ended := by
    rw [found] at ended
    cases ended
    exact absurd rfl live
  cases outcome
  case began | found | closed | surrendered =>
    simp only [stopMonitor_eq, fire, setCaller, afterTeardown_monitors] at after
    exact .inr (becomes_of_told after)
  case woke asleep _ => exact .inr (becomes_of_setMonitor (other asleep (by rintro ⟨⟩) _) after)
  case asked queued _ _ | renews queued _ _ =>
    exact .inr (becomes_of_setMonitor (other queued (by rintro ⟨⟩) _) after)
  case noticed | retired | ignored | denied | expired | lost =>
    exact .inr (becomes_of_setMonitor (fun _ _ => rfl) after)
  case armed waits | postponed waits _ | renewed waits | failed waits _ _ =>
    exact .inr (becomes_of_setMonitor (other waits (by rintro ⟨⟩) _) after)
  case released =>
    simp only [afterTeardown_monitors] at after
    exact .inr ⟨monitor, after, .refl monitor⟩
  case refused | forgone | deserted => exact .inr ⟨monitor, after, .refl monitor⟩
  case recreated =>
    rw [recreated_eq] at after
    simp only [finish, leave, setCaller, List.getElem?_append, toldMonitors_length] at after
    split at after
    · exact .inr (becomes_of_told after)
    · rename_i beyond
      exact .inl (Nat.le_of_not_lt beyond)
  case dropped =>
    obtain ⟨middle, found, onward⟩ := becomes_of_setMonitor (fun _ _ => rfl) after
    rw [stopMonitor_eq] at found
    obtain ⟨old, known, before⟩ := becomes_of_told found
    exact .inr ⟨old, known, fun told => onward.told (before.told told),
      fun ended => onward.ended (before.ended ended)⟩

/-- A monitor that runs was running before, or was just started. -/
theorem running_before (outcome : Transition now session event next call)
    (running : next.Running index) : session.monitors.length ≤ index ∨ session.Running index := by
  obtain ⟨phase, found, live⟩ := running
  rcases monitor_before outcome found with new | ⟨⟨cancelled, earlier⟩, known, becomes⟩
  · exact .inl new
  · right
    cases cancelled with
    | true => cases becomes.told rfl
    | false => exact ⟨earlier, known, fun ended => live (becomes.ended ended)⟩

/-- No monitor is lost. -/
theorem monitors_length_after (outcome : Transition now session event next call) :
    session.monitors.length ≤ next.monitors.length := by
  cases outcome
  case recreated =>
    rw [recreated_eq]
    simp [finish, leave, setCaller]
  all_goals
    simp [stopMonitor_eq, fire, setCaller, setMonitor, finish, leave, endMonitor, sleepAgain, arm,
      invalidate]

theorem Ran.monitors_length (ran : Ran start moments session) :
    start.monitors.length ≤ session.monitors.length := by
  induction ran with
  | still => exact Nat.le_refl _
  | moved _ stepped ih => exact Nat.le_trans ih (monitors_length_after (transition_of_step stepped))

theorem Ran.running_before (ran : Ran start moments session) (running : session.Running index) :
    start.monitors.length ≤ index ∨ start.Running index := by
  induction ran with
  | still => exact .inr running
  | moved ran stepped ih =>
    rcases Session.running_before (transition_of_step stepped) running with new | before
    · exact .inl (Nat.le_trans ran.monitors_length new)
    · exact ih before

/-! ## Calls to the manager -/

/-- A monitor that calls the manager runs, and the session is active. -/
theorem running_of_call (outcome : Transition now session event next (some made))
    (acts : Moment.actor? ⟨now, session, event, next, some made⟩ = some (.monitor index)) :
    session.Running index ∧ session.lease.state = .active := by
  generalize held : some made = call at outcome
  cases outcome
  case asked queued active _ | renews queued active _ =>
    cases acts
    exact ⟨⟨.queued, queued, nofun⟩, active⟩
  case found | closed | surrendered | released => cases acts
  all_goals cases held

/-- A call has yet to ask for a lease, if it does so at all. -/
def Caller.Unasked (caller : Caller) : Prop :=
  caller.phase = .queued ∨ ∃ held, caller.phase = .destroying held

/-- A call that does not give up a lease asks for one, and is a `recreate`. -/
theorem asks_of_call (outcome : Transition now session event next (some made))
    (acts : Moment.actor? ⟨now, session, event, next, some made⟩ = some (.caller index)) :
    (∃ held, made = .destroy held) ∨
      Moment.asks ⟨now, session, event, next, some made⟩ index = true ∧
        next.callers[index]? = some ⟨.recreate, .creating⟩ ∧
        ∃ phase, session.callers[index]? = some ⟨.recreate, phase⟩ ∧
          Caller.Unasked ⟨.recreate, phase⟩ := by
  generalize held : some made = call at outcome
  cases outcome
  case surrendered => cases held; exact .inl ⟨_, rfl⟩
  case found intent _ queued _ | closed intent _ queued _ _ =>
    cases acts
    cases intent
    · cases held
    · cases held
      refine .inr ⟨by simp [Moment.asks, Moment.actor?, afterTeardown], ?_, .queued, queued, .inl rfl⟩
      simp [afterTeardown, setCaller, stopMonitor_eq, fire, queued]
  case released intent lease waits =>
    cases acts
    cases intent
    · cases held
    · cases held
      refine .inr ⟨by simp [Moment.asks, Moment.actor?, afterTeardown], ?_, _, waits, .inr ⟨_, rfl⟩⟩
      simp [afterTeardown, setCaller, fire, waits]
  case asked | renews => cases acts
  all_goals cases held

theorem callers_length_after (outcome : Transition now session event next call) :
    session.callers.length ≤ next.callers.length := by
  cases outcome
  case found intent _ _ _ | closed intent _ _ _ _ | released intent _ _ =>
    cases intent <;> simp [afterTeardown, stopMonitor_eq, fire, setCaller, finish, leave]
  case recreated =>
    rw [recreated_eq]
    simp [finish, leave, setCaller]
  all_goals
    simp [stopMonitor_eq, fire, setCaller, setMonitor, finish, leave, endMonitor, sleepAgain, arm,
      invalidate]

/-- A call that has asked for its lease once does not ask again. -/
private theorem unasked_before (outcome : Transition now session event next call)
    (known : index < session.callers.length) (after : next.callers[index]? = some caller)
    (unasked : caller.Unasked) :
    ∃ old, session.callers[index]? = some old ∧ old.Unasked := by
  cases caller_moved outcome after with
  | same before => exact ⟨caller, before, unasked⟩
  | began => exact absurd known (Nat.lt_irrefl _)
  | gives before => exact ⟨_, before, .inl rfl⟩
  | done | asks | answered | forgone =>
    rcases unasked with queued | ⟨_, giving⟩
    · cases queued
    · cases giving

theorem asks_iff {moment : Moment} : moment.asks index = true ↔
    moment.actor? = some (.caller index) ∧ ∃ name ttl, moment.call = some (.create name ttl) := by
  unfold Moment.asks
  split
  · rename_i acts called
    simp [acts, called]
  · rename_i other
    constructor
    · intro asks
      cases asks
    · rintro ⟨acts, name, ttl, called⟩
      exact absurd called (other index name ttl acts)

/-- Each call asks for a lease at most once. -/
theorem Lived.asks_once (lived : Lived history session) (index : Nat) :
    (∀ moment ∈ history.moments, moment.asks index = false) ∨
      (history.moments.filter (·.asks index)).length = 1 ∧ index < session.callers.length ∧
        ∀ caller, session.callers[index]? = some caller → ¬ caller.Unasked := by
  induction lived with
  | opened =>
    left
    intro moment member
    cases member
  | @happened history session now event next call lived stepped ih =>
    have outcome := transition_of_step stepped
    have kept := callers_length_after outcome
    cases asks : Moment.asks ⟨now, session, event, next, call⟩ index with
    | false =>
      rcases ih with never | ⟨once, known, asked⟩
      · left
        intro moment member
        rcases List.mem_cons.mp member with rfl | earlier
        · exact asks
        · exact never moment earlier
      · refine .inr ⟨?_, Nat.lt_of_lt_of_le known kept, ?_⟩
        · simpa [History.add, asks] using once
        · intro caller after unasked
          obtain ⟨old, before, early⟩ := unasked_before outcome known after unasked
          exact asked old before early
    | true =>
      obtain ⟨acts, name, ttl, called⟩ := asks_iff.mp asks
      dsimp only at called
      subst called
      rcases asks_of_call outcome acts with ⟨held, other⟩ | ⟨_, creating, phase, before, early⟩
      · cases other
      · rcases ih with never | ⟨_, _, asked⟩
        · refine .inr ⟨?_, ?_, ?_⟩
          · have none : history.moments.filter (·.asks index) = [] :=
              List.filter_eq_nil_iff.mpr fun moment member => by simp [never moment member]
            simp [History.add, asks, none]
          · exact (List.getElem?_eq_some_iff.mp creating).1
          · intro caller after unasked
            rw [creating] at after
            cases after
            rcases unasked with queued | ⟨_, giving⟩
            · cases queued
            · cases giving
        · exact absurd early (asked _ before)

/-! ## Dropped sessions -/

/-- A dropped session stays dropped, and calls the manager no more. -/
theorem Lived.rests (lived : Lived history session) (dropped : session.isDropped = true)
    (outcome : Transition now session event next call) : next.isDropped = true ∧ call = none := by
  have idle := lived.idle_of_dropped dropped
  obtain ⟨_, _, _, _, _, _, _, _, stopped⟩ := lived.before_drop dropped
  have quiet : ∀ intent, event ≠ .began intent := by
    rintro intent rfl
    cases outcome with
    | began _ alive => rw [dropped] at alive; cases alive
  have kept : event ≠ .dropped := by
    rintro rfl
    cases outcome with
    | dropped alive | deserted alive => rw [dropped] at alive; cases alive
  obtain ⟨_, _, same⟩ := idle_after idle outcome quiet kept
  exact ⟨same.trans dropped, (unwatched_after lived idle stopped outcome quiet kept).1⟩

theorem Ran.rests (ran : Ran start moments session) (lived : Lived history start)
    (dropped : start.isDropped = true) :
    session.isDropped = true ∧ ∀ moment ∈ moments, moment.call = none := by
  induction ran with
  | still =>
    refine ⟨dropped, fun moment member => ?_⟩
    cases member
  | moved ran stepped ih =>
    obtain ⟨gone, silent⟩ := ih
    obtain ⟨stays, quiet⟩ := (ran.lived lived).rests gone (transition_of_step stepped)
    refine ⟨stays, fun moment member => ?_⟩
    rcases List.mem_cons.mp member with rfl | earlier
    · exact quiet
    · exact silent moment earlier

/-! ## Stopped monitors -/

/-- A monitor that calls the manager was running when the run began, or was started since. -/
theorem Ran.running_of_call (ran : Ran start moments session) (member : moment ∈ moments)
    (called : moment.call = some made) (acts : moment.actor? = some (.monitor index)) :
    start.monitors.length ≤ index ∨ start.Running index := by
  obtain ⟨earlier, front, stepped⟩ := ran.cut member
  have outcome := transition_of_step stepped
  rw [called] at outcome
  refine front.running_before (Session.running_of_call outcome ?_).1
  rw [← called]
  exact acts

theorem Told.not_running (told : session.Told index) : ¬ session.Running index := by
  rintro ⟨phase, untold, _⟩
  obtain ⟨other, found⟩ := told
  rw [found] at untold
  cases untold

/-- A call that keeps a lease or makes one is made by a `recreate` that asks for its lease, or by a
monitor of a session that is active and not dropped. -/
private theorem sustained_by (lived : Lived history session) (ran : Ran session moments later)
    (member : moment ∈ moments) (called : moment.call = some made)
    (sustains : ∀ id, made ≠ .destroy id) :
    (∃ index, moment.asks index = true ∧
        moment.after.callers[index]? = some ⟨.recreate, .creating⟩) ∨
      ∃ index, moment.actor? = some (.monitor index) ∧
        moment.before.state = .active ∧ moment.before.isDropped = false := by
  obtain ⟨earlier, front, stepped⟩ := ran.cut member
  have outcome := transition_of_step stepped
  have silent (dropped : moment.before.isDropped = true) : moment.call = none :=
    ((front.lived lived).rests dropped outcome).2
  rw [called] at outcome silent
  obtain ⟨actor, _, acts⟩ := actor_of_call outcome
  have acted : moment.actor? = some actor := acts
  cases actor with
  | monitor index =>
    refine .inr ⟨index, acted, (running_of_call outcome acts).2, ?_⟩
    rw [← Bool.not_eq_true]
    intro dropped
    cases silent dropped
  | caller index =>
    rcases asks_of_call outcome acts with ⟨id, given⟩ | ⟨asks, creating, _⟩
    · exact absurd given (sustains id)
    · refine .inl ⟨index, ?_, creating⟩
      rw [asks_iff] at asks ⊢
      exact ⟨acted, called ▸ asks.2⟩

/-- **A monitor that was told to stop never acts.** At every time at most one monitor was not told to
stop, and one that was told makes no call to the manager from then on. A lease is made or renewed only
by a `recreate` that asks for its lease, once in its whole life, or by a monitor while the session is
active and not dropped; once the session is not active or dropped, only a monitor that was started
since can do so. A dropped session makes no call at all. -/
theorem stopped_monitors_rest (lived : Lived history session) (ran : Ran session moments later) :
    (∀ one other, session.Untold one → session.Untold other → one = other) ∧
      (∀ index, session.Told index → ∀ moment ∈ moments,
        moment.actor? = some (.monitor index) → moment.call = none) ∧
      (∀ moment ∈ moments, ∀ call, moment.call = some call → (∀ id, call ≠ .destroy id) →
        (∃ index, moment.asks index = true ∧
          moment.after.callers[index]? = some ⟨.recreate, .creating⟩) ∨
        ∃ index, moment.actor? = some (.monitor index) ∧
          moment.before.state = .active ∧ moment.before.isDropped = false ∧
          (session.state ≠ .active ∨ session.isDropped = true → session.monitors.length ≤ index)) ∧
      (session.isDropped = true → ∀ moment ∈ moments, moment.call = none) ∧
      ∀ index, ((history.extend moments).moments.filter (·.asks index)).length ≤ 1 := by
  have monitored := lived.monitored
  refine ⟨?_, ?_, ?_, fun dropped => (ran.rests lived dropped).2, ?_⟩
  · rintro one other ⟨phase, first⟩ ⟨phase', second⟩
    have held := monitored.untold one phase first
    rw [monitored.untold other phase' second] at held
    exact (Option.some.inj held).symm
  · intro index told moment member acts
    cases called : moment.call with
    | none => rfl
    | some made =>
      rcases ran.running_of_call member called acts with new | running
      · obtain ⟨phase, found⟩ := told
        exact absurd (List.getElem?_eq_some_iff.mp found).1 (Nat.not_lt_of_le new)
      · exact absurd running told.not_running
  · intro moment member call called sustains
    rcases sustained_by lived ran member called sustains with asked | ⟨index, acts, active, alive⟩
    · exact .inl asked
    · refine .inr ⟨index, acts, active, alive, fun rests => ?_⟩
      rcases ran.running_of_call member called acts with new | running
      · exact new
      · rcases rests with inactive | dropped
        · exact absurd running (monitored.not_running inactive)
        · rw [(ran.rests lived dropped).2 moment member] at called
          cases called
  · intro index
    rcases (ran.lived lived).asks_once index with never | ⟨once, _⟩
    · have none : (history.extend moments).moments.filter (·.asks index) = [] :=
        List.filter_eq_nil_iff.mpr fun moment member => by simp [never moment member]
      simp [none]
    · exact Nat.le_of_eq once

/-- A session whose monitor is told to stop while it sleeps. -/
def toldAsleep : Option (History × Session) := replay opening [(9000000000, .began .recreate)]

/-- The monitor wakes nevertheless, waits for its turn, and gets it when the lease was replaced. -/
def lateTurn : List (Instant × Event) :=
  [(9000000000, .granted (.caller 0)), (10000000000, .woke 0),
    (10000000005, .answered (.caller 0) (.destroyed (.ok ()))),
    (10000000009, .answered (.caller 0) (.created (.ok "L2"))),
    (10000000009, .granted (.monitor 0))]

theorem late_turn_rests : ∃ history session moments later,
    toldAsleep = some (history, session) ∧ follow session lateTurn = some (moments, later) ∧
      session.Told 0 ∧ later.lease.id = "L2" ∧ later.Untold 1 ∧
      (moments.map (·.actor?)).head? = some (some (.monitor 0)) ∧
      ∀ moment ∈ moments, moment.actor? = some (.monitor 0) → moment.call = none := by
  have ran : toldAsleep = some (toldAsleep.get (by decide)) := (Option.some_get _).symm
  let reached := toldAsleep.get (by decide)
  have followed : follow reached.2 lateTurn = some ((follow reached.2 lateTurn).get (by decide)) :=
    (Option.some_get _).symm
  have told : reached.2.Told 0 := ⟨.asleep 0 (.seconds 10), by decide⟩
  have rest := stopped_monitors_rest (lived_of_replay lived_opening ran) (ran_of_follow followed)
  exact ⟨_, _, _, _, ran, followed, told, by decide, ⟨.asleep 10000000009 (.seconds 10), by decide⟩,
    by decide, rest.2.1 0 told⟩

end Leasehold.Session
