import Leasehold.Proofs.Session.Overlap

/-! Sessions that are called on for nothing but to give up their lease. No step makes a lease for such a
session once it is destroyed, and `Upkeep` lists what a step does to the lease together with what it
asks of the manager: a lease is asked for, gained, renewed or surrendered, and nothing else. -/
namespace Leasehold.Session

/-- All calls on a session are for giving up its lease. -/
def OnlyDestroys (session : Session) : Prop := ∀ caller ∈ session.callers, caller.intent = .destroy

/-- What a step does to the lease, and the call to the manager that goes with it. -/
inductive Upkeep (session next : Session) (event : Event) : Option Manager.Call → Prop where
  /-- The lease stays, and at most a lease is asked for. -/
  | stays (id : next.lease.id = session.lease.id)
      (destroyed : session.lease.state = .destroyed → next.lease.state = .destroyed)
      (asks : ∀ made, call = some made → ∃ label span, made = .create label span) :
      Upkeep session next event call
  /-- A session without a lease gets one. -/
  | gains (without : session.lease.id = "") (live : session.lease.state ≠ .destroyed) :
      Upkeep session next event none
  /-- The lease is renewed. -/
  | renews (leased : session.lease.id ≠ "") (live : session.lease.state ≠ .destroyed)
      (lease : next.lease = session.lease) :
      Upkeep session next event (some (.renew session.lease.id))
  /-- A call gives up the lease in its turn. -/
  | surrenders (turn : event = .granted (.caller index)) (leased : session.lease.id ≠ "")
      (live : session.lease.state ≠ .destroyed) (id : next.lease.id = "")
      (destroyed : next.lease.state = .destroyed) :
      Upkeep session next event (some (.destroy session.lease.id))

variable {session next : Session} {event : Event} {call : Option Manager.Call} {now : Instant}
variable {index : Nat} {history : History} {phase : Caller.Phase} {task : Task}

/-- Every step of a session that is only called on to be given up is upkeep. -/
theorem upkeep_of_outcome (lived : Lived history session) (destroys : session.OnlyDestroys)
    (outcome : Transition now session event next call) : Upkeep session next event call := by
  have fitting := lived.fitting
  -- Who works for an active session does not work for a destroyed one.
  have active {index : Nat} {phase : Monitor.Phase} {made : Manager.Call}
      (found : session.monitors[index]? = some ⟨false, phase⟩)
      (works : session.monitorStanding phase = .working made) : session.lease.state ≠ .destroyed := by
    have standing := (standing_monitor found).trans works
    rw [(fitting.monitor index made standing).1]
    decide
  have silent (made : Manager.Call) (same : none = some made) :
      ∃ label span, made = .create label span := by
    cases same
  cases outcome
  case began | dropped =>
    refine .stays ?_ (fun destroyed => ?_) silent
    · simp [stopMonitor_eq, endMonitor, setMonitor, leave]
    · simpa [stopMonitor_eq, endMonitor, setMonitor, leave] using destroyed
  case asked => exact .stays rfl (fun destroyed => destroyed) fun _ same => ⟨_, _, (Option.some.inj same).symm⟩
  case renews active leased => exact .renews leased (by rw [active]; decide) rfl
  case found queued destroyed =>
    obtain rfl := destroys _ (List.mem_of_getElem? queued)
    refine .stays ?_ (fun _ => ?_) silent <;> simp [stopMonitor_eq, destroyed]
  case closed queued _ without =>
    obtain rfl := destroys _ (List.mem_of_getElem? queued)
    refine .stays ?_ (fun _ => ?_) silent <;> simp [fire, without]
  case surrendered live leased => exact .surrenders rfl leased live rfl rfl
  case armed waits =>
    have standing := standing_monitor waits
    rcases (fitting.monitor _ _ standing).2 with ⟨without, -⟩ | ⟨-, other⟩
    · exact .gains without (active waits rfl)
    · cases other
  case denied waits _ | expired waits _ _ | lost waits _ =>
    exact .stays rfl (fun destroyed => absurd destroyed (active waits rfl)) silent
  case released waits =>
    obtain rfl := destroys _ (List.mem_of_getElem? waits)
    exact .stays rfl (fun destroyed => destroyed) silent
  case recreated waits | refused waits =>
    have other := lived.intended _ _ waits
    cases other.symm.trans (destroys _ (List.mem_of_getElem? waits))
  all_goals exact .stays rfl (fun destroyed => destroyed) silent

/-- Such a session stays destroyed. -/
theorem destroyed_after (lived : Lived history session) (destroys : session.OnlyDestroys)
    (outcome : Transition now session event next call)
    (destroyed : session.lease.state = .destroyed) : next.lease.state = .destroyed := by
  cases upkeep_of_outcome lived destroys outcome with
  | stays _ kept _ => exact kept destroyed
  | gains _ live | renews _ live _ | surrenders _ _ live _ _ => exact absurd destroyed live

/-- Nobody calls on a session but by a call that begins. -/
theorem callers_nil_after (outcome : Transition now session event next call)
    (nobody : session.callers = []) (quiet : ∀ intent, event ≠ .began intent) : next.callers = [] := by
  apply List.eq_nil_iff_forall_not_mem.mpr
  intro caller member
  obtain ⟨index, after⟩ := List.getElem?_of_mem member
  cases caller_moved outcome after with
  | began => exact quiet _ rfl
  | same before | gives before | done before | asks before | answered before | forgone before =>
    rw [nobody] at before
    cases before

/-- The only call on a session goes on until it is finished, and then the session is destroyed. -/
theorem callers_sole_after (lived : Lived history session)
    (outcome : Transition now session event next call) (sole : session.callers = [⟨.destroy, phase⟩])
    (quiet : ∀ intent, event ≠ .began intent) (patient : ∀ index, event ≠ .forgone index) :
    ∃ later, next.callers = [⟨.destroy, later⟩] ∧
      (∀ problem, phase = .finished problem → later = phase) ∧
      ∀ problem, later = .finished problem → phase = later ∨ next.lease.state = .destroyed := by
  have beyond {index : Nat} {caller : Caller} (before : session.callers[index]? = some caller) :
      index = 0 ∧ caller = ⟨.destroy, phase⟩ := by
    rw [sole, List.getElem?_singleton] at before
    split at before
    · rename_i first
      exact ⟨first, (Option.some.inj before).symm⟩
    · cases before
  -- What becomes of the call, whatever its number after the step.
  have moves {index : Nat} {caller : Caller} (after : next.callers[index]? = some caller) :
      index = 0 ∧ ∃ later, caller = ⟨.destroy, later⟩ ∧
        (∀ problem, phase = .finished problem → later = phase) ∧
        ∀ problem, later = .finished problem → phase = later ∨ next.lease.state = .destroyed := by
    cases caller_moved outcome after with
    | began => exact absurd rfl (quiet _)
    | forgone => exact absurd rfl (patient _)
    | same before =>
      obtain ⟨rfl, rfl⟩ := beyond before
      exact ⟨rfl, phase, rfl, fun _ _ => rfl, fun _ _ => .inl rfl⟩
    | gives before =>
      obtain ⟨rfl, same⟩ := beyond before
      cases same
      exact ⟨rfl, _, rfl, nofun, nofun⟩
    | asks before => cases (beyond before).2
    | answered before =>
      cases lived.intended _ _ before
      cases (beyond before).2
    | done before pending about =>
      obtain ⟨rfl, same⟩ := beyond before
      cases same
      have turn : TurnOf 0 event := by
        cases event with
        | began intent => exact absurd rfl (quiet intent)
        | forgone index => exact absurd rfl (patient index)
        | granted task => exact .inl (by rw [Option.some.inj about])
        | answered task reply => exact .inr ⟨reply, by rw [Option.some.inj about]⟩
        | woke | noticed | dropped => simp [subject] at about
      refine ⟨rfl, _, rfl, ?_, fun _ _ => .inr ?_⟩
      · rintro problem rfl
        cases pending
      · rcases destroyed_after_turn lived outcome turn with destroyed | ⟨made, rfl⟩
        · exact destroyed
        · cases outcome with
          | recreated waits =>
            cases lived.intended _ _ waits
            cases (beyond waits).2
  have there : 0 < next.callers.length := by
    have kept := callers_length_after outcome
    rw [sole] at kept
    exact kept
  obtain ⟨-, later, same, finished⟩ := moves (List.getElem?_eq_getElem there)
  refine ⟨later, ?_, finished⟩
  apply List.ext_getElem?
  intro index
  cases index with
  | zero => rw [List.getElem?_eq_getElem there, same]; rfl
  | succ index =>
    cases after : next.callers[index + 1]? with
    | none => rfl
    | some caller => cases (moves after).1

end Leasehold.Session
