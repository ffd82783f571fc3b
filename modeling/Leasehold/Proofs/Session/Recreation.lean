import Leasehold.Proofs.Session.Outcomes
import Leasehold.Proofs.Session.Stopping

/-! The turn of a `recreate`, from whatever state the session has come to. The call keeps its turn until it
is over, so that nobody else works meanwhile: what it asks of the manager follows from the id that the
session had when the turn began (`Stage`), and its end finds the generation settled. -/
namespace Leasehold.Session

variable {session begun later next : Session} {event : Event} {call : Option Manager.Call}
variable {now : Instant} {index : Nat} {history : History} {moments : List Moment} {moment : Moment}
variable {calls : List Manager.Call} {caller : Caller}

/-! ## What a call asks of the manager -/

/-- The calls to the manager that a call of a session has made, the first one first. -/
def callsOf (index : Nat) : List Moment → List Manager.Call
  | [] => []
  | moment :: earlier =>
    callsOf index earlier ++
      (if moment.actor? = some (.caller index) then moment.call else none).toList

/-- What is asked of the manager for a lease that is given up: nothing if there is none. -/
def givingUp (id : String) : List Manager.Call := if id = "" then [] else [.destroy id]

/-- Who takes a turn or goes on is the one that the event is about. -/
theorem callsOf_other (other : session.subject event ≠ some (.caller index)) :
    callsOf index (⟨now, session, event, next, call⟩ :: moments) = callsOf index moments := by
  have idle : Moment.actor? ⟨now, session, event, next, call⟩ ≠ some (.caller index) := by
    intro acts
    cases event <;> first | exact other acts | cases acts
  rw [callsOf, if_neg idle, Option.toList_none, List.append_nil]

/-! ## While nobody else has a turn -/

/-- A call that an event is not about stays where it is. -/
theorem caller_stays (outcome : Transition now session event next call)
    (found : session.callers[index]? = some caller)
    (other : session.subject event ≠ some (.caller index)) : next.callers[index]? = some caller := by
  have known : index < next.callers.length :=
    Nat.lt_of_lt_of_le (List.getElem?_eq_some_iff.mp found).1 (callers_length_after outcome)
  obtain ⟨reached, after⟩ : ∃ reached, next.callers[index]? = some reached :=
    ⟨_, List.getElem?_eq_getElem known⟩
  cases caller_moved outcome after with
  | same before => rw [after, ← before, found]
  | began | gives | answered | forgone => exact absurd rfl other
  | done _ _ about | asks _ _ about => exact absurd about other

/-- A call that has had its turn goes on with an answer, or is dropped. -/
theorem answered_of_subject (outcome : Transition now session event next call)
    (about : session.subject event = some (.caller index))
    (found : session.callers[index]? = some caller) (started : caller.phase ≠ .queued)
    (kept : Moment.forgoes ⟨now, session, event, next, call⟩ = false) :
    ∃ reply, event = .answered (.caller index) reply := by
  cases event with
  | began =>
    cases about
    rw [List.getElem?_eq_none (Nat.le_refl _)] at found
    cases found
  | granted task =>
    cases about
    have waits := waiting_of_granted outcome
    rw [standing_caller found] at waits
    obtain ⟨_, phase⟩ := caller
    cases phase with
    | queued => exact absurd rfl started
    | destroying | creating | finished | abandoned => cases waits
  | answered => cases about; exact ⟨_, rfl⟩
  | forgone => cases kept
  | woke | noticed => cases about
  | dropped => simp [subject] at about

/-- While a call works, no generation begins. -/
theorem err_of_working (lived : Lived history session)
    (stepped : session.step now event = some (next, call)) {made : Manager.Call}
    (works : next.standing (.caller index) = .working made) : next.err = session.err := by
  rcases err_after (transition_of_step stepped) with same | ⟨_, active⟩
  · exact same
  · rw [(Lived.happened lived stepped).fitting.caller _ _ works] at active
    cases active

/-- How far a `recreate` has come whose turn began in a session, and what it has asked of the manager. -/
inductive Stage (session later : Session) (index : Nat) (calls : List Manager.Call) : Prop where
  /-- It gives up the lease that there was. -/
  | destroying (leased : session.lease.id ≠ "")
      (waits : later.callers[index]? = some ⟨.recreate, .destroying session.lease.id⟩)
      (generation : later.err = session.err) (asked : calls = [.destroy session.lease.id])
  /-- It asks for a new lease. -/
  | creating (waits : later.callers[index]? = some ⟨.recreate, .creating⟩)
      (generation : later.err = session.err)
      (asked : calls = givingUp session.lease.id ++ [.create session.name session.ttl])
  /-- It is over. -/
  | finished {problem : Option Error}
      (ended : later.callers[index]? = some ⟨.recreate, .finished problem⟩)
      (asked : calls = givingUp session.lease.id ++ [.create session.name session.ttl])

/-- The turn begins. -/
theorem stage_of_granted (lived : Lived history session)
    (queued : session.callers[index]? = some ⟨.recreate, .queued⟩)
    (granted : session.step now (.granted (.caller index)) = some (begun, call)) :
    Stage session begun index
      (callsOf index [⟨now, session, .granted (.caller index), begun, call⟩]) := by
  -- Without a lease the call asks for a new one at once.
  have asks (without : session.lease.id = "")
      (waits : begun.callers[index]? = some ⟨.recreate, .creating⟩)
      (asked : call = some (.create session.name session.ttl)) :
      Stage session begun index
        (callsOf index [⟨now, session, .granted (.caller index), begun, call⟩]) := by
    refine .creating waits (err_of_working lived granted (standing_caller waits)) ?_
    simp [callsOf, Moment.actor?, asked, givingUp, without]
  cases transition_of_step granted
  case found destroyed _ known =>
    cases known.symm.trans queued
    refine asks (lived.fitting.destroyed destroyed) ?_ ?_
    · simp [afterTeardown, setCaller, stopMonitor_eq, queued]
    · simp [afterTeardown, stopMonitor_eq]
  case closed without _ known =>
    cases known.symm.trans queued
    refine asks without ?_ ?_
    · simp [afterTeardown, setCaller, fire, stopMonitor_eq, queued]
    · simp [afterTeardown, fire, stopMonitor_eq]
  case surrendered leased _ known =>
    cases known.symm.trans queued
    refine .destroying leased ?_ ?_ (by simp [callsOf, Moment.actor?])
    · simp [setCaller, stopMonitor_eq, queued]
    · simp [err, setCaller, stopMonitor_eq]

theorem stage_preserved (stage : Stage session later index (callsOf index moments))
    (lived : Lived history later) (terms : later.name = session.name ∧ later.ttl = session.ttl)
    (stepped : later.step now event = some (next, call))
    (kept : Moment.forgoes ⟨now, later, event, next, call⟩ = false) :
    Stage session next index (callsOf index (⟨now, later, event, next, call⟩ :: moments)) := by
  have outcome := transition_of_step stepped
  by_cases about : later.subject event = some (.caller index)
  · cases stage with
    | destroying leased waits generation asked =>
      obtain ⟨reply, rfl⟩ := answered_of_subject outcome about waits (by rintro ⟨⟩) kept
      cases outcome
      case released known =>
        cases known.symm.trans waits
        have creating : ((later.fire none).afterTeardown index .recreate).1.callers[index]? =
            some ⟨.recreate, .creating⟩ := by
          simp [afterTeardown, setCaller, fire, waits]
        have same := err_of_working lived stepped (standing_caller creating)
        refine .creating creating (same.trans generation) ?_
        simp [callsOf, Moment.actor?, asked, givingUp, leased, afterTeardown, fire, terms]
      case recreated known | refused known => cases known.symm.trans waits
    | creating waits generation asked =>
      obtain ⟨reply, rfl⟩ := answered_of_subject outcome about waits (by rintro ⟨⟩) kept
      cases outcome
      case released known => cases known.symm.trans waits
      case recreated =>
        rw [recreated_eq]
        exact .finished (setCaller_get_self waits (.finished none)) (by simp [callsOf, asked])
      case refused error _ _ =>
        have ended : (later.finish index (some error)).callers[index]? =
            some ⟨.recreate, .finished (some error)⟩ := setCaller_get_self waits _
        exact .finished ended (by simp [callsOf, asked])
    | finished ended asked =>
      obtain ⟨reply, rfl⟩ := answered_of_subject outcome about ended (by rintro ⟨⟩) kept
      cases outcome
      case released known | recreated known | refused known => cases known.symm.trans ended
  · rw [callsOf_other about]
    cases stage with
    | destroying leased waits generation asked =>
      have stays := caller_stays outcome waits about
      have same := err_of_working lived stepped (standing_caller stays)
      exact .destroying leased stays (same.trans generation) asked
    | creating waits generation asked =>
      have stays := caller_stays outcome waits about
      have same := err_of_working lived stepped (standing_caller stays)
      exact .creating stays (same.trans generation) asked
    | finished ended asked => exact .finished (caller_stays outcome ended about) asked

/-! ## Ends -/

/-- A `recreate` has returned with a new lease. -/
structure Rearmed (session next : Session) (index : Nat) (loss : Option Error) (now : Instant)
    (id : String) : Prop where
  returned : next.callers[index]? = some ⟨.recreate, .finished none⟩
  /-- The lease counts as renewed at this moment, and no renewal of it has failed. -/
  lease : next.lease = ⟨id, .active, now, 0⟩
  /-- One monitor runs, that of the new generation. -/
  sole : ∀ monitor, next.Running monitor ↔ monitor = next.err.generation
  generation : next.err.generation = session.err.generation + 1
  pending : next.err.tryRecv next.signal = none ∧ next.err.recv next.signal = none
  /-- Observers of the old generation are told how it ended. -/
  settled : session.err.tryRecv next.signal = some loss ∧ session.err.recv next.signal = some loss

/-- A `recreate` has returned without a new lease. -/
structure Bereft (session next : Session) (index : Nat) (loss : Option Error) (error : Error) :
    Prop where
  returned : next.callers[index]? = some ⟨.recreate, .finished (some error)⟩
  destroyed : next.state = .destroyed
  without : next.id = ""
  unwatched : ∀ monitor, ¬ next.Running monitor
  /-- No generation has begun. -/
  generation : next.err = session.err
  /-- Observers of the generation are told how it ended. -/
  settled : session.err.tryRecv next.signal = some loss ∧ session.err.recv next.signal = some loss

theorem Lived.rearmed (lived : Lived history later) (patient : history.Patient)
    (waits : later.callers[index]? = some ⟨.recreate, .creating⟩) (generation : later.err = session.err)
    (now : Instant) (id : String) :
    ∃ next, later.step now (.answered (.caller index) (.created (.ok id))) = some (next, none) ∧
      Rearmed session next index (history.loss? session.err) now id := by
  have outcome : Transition now later (.answered (.caller index) (.created (.ok id))) _ _ :=
    .recreated waits
  refine ⟨_, step_of_transition outcome, ?_⟩
  have monitored := (Lived.happened lived (step_of_transition outcome)).monitored
  have onward := signal_onward outcome
  have shown := told_of_settled (lived.settled_of_creating patient waits)
  rw [generation] at shown
  rw [recreated_eq] at monitored onward ⊢
  have count := lived.monitored.count
  have new : later.signal.rearm.subscribe.generation = later.signal.past.length + 1 :=
    List.length_append ..
  refine ⟨setCaller_get_self waits _, rfl, fun monitor => ?_, ?_, told_of_pending rfl, ?_⟩
  · rw [monitored.running_iff rfl]
    change some later.monitors.length = some monitor ↔ monitor = later.signal.rearm.subscribe.generation
    rw [Option.some.injEq, count, new, eq_comm]
  · rw [← generation]
    exact new
  · exact ⟨Observer.tryRecv_stays onward shown.1, Observer.recv_stays onward shown.2⟩

theorem Lived.bereft (lived : Lived history later) (patient : history.Patient)
    (waits : later.callers[index]? = some ⟨.recreate, .creating⟩) (generation : later.err = session.err)
    (now : Instant) (error : Error) :
    ∃ next, later.step now (.answered (.caller index) (.created (.error error))) = some (next, none) ∧
      Bereft session next index (history.loss? session.err) error := by
  have outcome : Transition now later (.answered (.caller index) (.created (.error error))) _ _ :=
    .refused waits
  refine ⟨_, step_of_transition outcome, ?_⟩
  have monitored := (Lived.happened lived (step_of_transition outcome)).monitored
  have shown := told_of_settled (lived.settled_of_creating patient waits)
  rw [generation] at shown
  have destroyed := lived.fitting.caller _ _ (standing_caller waits)
  refine ⟨setCaller_get_self waits _, destroyed, lived.fitting.destroyed destroyed, fun monitor => ?_,
    generation, shown⟩
  refine monitored.not_running ?_
  rw [show (later.finish index (some error)).lease = later.lease from rfl, destroyed]
  nofun

/-! ## The course of a turn -/

/-- How far a `recreate` has come whose turn began in a session, what it has asked of the manager and how
it goes on when it is answered. -/
inductive Recreation (session later : Session) (index : Nat) (calls : List Manager.Call)
    (loss : Option Error) : Prop where
  /-- It waits until the lease that there was is given up, and then asks for a new one, whatever the
  answer is. -/
  | destroying (leased : session.id ≠ "")
      (waits : later.callers[index]? = some ⟨.recreate, .destroying session.id⟩)
      (asked : calls = [.destroy session.id])
      (onward : ∃ next, ∀ now result,
        later.step now (.answered (.caller index) (.destroyed result)) =
          some (next, some (.create session.name session.ttl)))
  /-- It waits for a new lease, and returns whatever the answer is. -/
  | creating (waits : later.callers[index]? = some ⟨.recreate, .creating⟩)
      (asked : calls = givingUp session.id ++ [.create session.name session.ttl])
      (success : ∀ now id, ∃ next,
        later.step now (.answered (.caller index) (.created (.ok id))) = some (next, none) ∧
          Rearmed session next index loss now id)
      (failure : ∀ now error, ∃ next,
        later.step now (.answered (.caller index) (.created (.error error))) = some (next, none) ∧
          Bereft session next index loss error)
  /-- It is over, and has asked for nothing more. -/
  | finished {problem : Option Error}
      (ended : later.callers[index]? = some ⟨.recreate, .finished problem⟩)
      (asked : calls = givingUp session.id ++ [.create session.name session.ttl])

/-- The call comes from stage to stage. -/
theorem Ran.stage (ran : Ran begun moments later) (lived : Lived history session)
    (queued : session.callers[index]? = some ⟨.recreate, .queued⟩)
    (granted : session.step now (.granted (.caller index)) = some (begun, call))
    (calm : ∀ moment ∈ moments, moment.forgoes = false) :
    Stage session later index
      (callsOf index (moments ++ [⟨now, session, .granted (.caller index), begun, call⟩])) := by
  have there := Lived.happened lived granted
  obtain ⟨name, ttl, -⟩ := terms_after (transition_of_step granted)
  induction ran with
  | still => exact stage_of_granted lived queued granted
  | moved ran stepped ih =>
    obtain ⟨kept, calm⟩ := List.forall_mem_cons.mp calm
    obtain ⟨sameName, sameTtl, -⟩ := ran.terms
    have terms := And.intro (sameName.trans name) (sameTtl.trans ttl)
    exact stage_preserved (ih calm) (ran.lived there) terms stepped kept

/-- **What a `recreate` does from any state.** Once it has its turn, a `recreate` asks the manager to
destroy the lease that the session has, if it has one, and then, however that ends, for one new lease. If it
gets one, the session is active with it, one monitor runs, and a new generation has begun. If it gets none,
it returns the error, and the session is destroyed and has neither a lease nor a monitor nor a new
generation. Either way, observers of the old generation are told the error with which its lease was lost, or
else that it ended in order. No call is dropped before it is over. -/
theorem recreate_course (lived : Lived history session) (patient : history.Patient)
    (queued : session.callers[index]? = some ⟨.recreate, .queued⟩)
    (granted : session.step now (.granted (.caller index)) = some (begun, call))
    (ran : Ran begun moments later) (calm : ∀ moment ∈ moments, moment.forgoes = false) :
    Recreation session later index
      (callsOf index (moments ++ [⟨now, session, .granted (.caller index), begun, call⟩]))
      (((history.add ⟨now, session, .granted (.caller index), begun, call⟩).extend moments).loss?
        session.err) := by
  have there := ran.lived (Lived.happened lived granted)
  have quiet : ((history.add ⟨now, session, .granted (.caller index), begun, call⟩).extend
      moments).Patient := by
    intro moment member
    rcases List.mem_append.mp member with new | old
    · exact calm moment new
    · rcases List.mem_cons.mp old with rfl | earlier
      · rfl
      · exact patient moment earlier
  obtain ⟨name, ttl, -⟩ := terms_after (transition_of_step granted)
  obtain ⟨sameName, sameTtl, -⟩ := ran.terms
  cases ran.stage lived queued granted calm with
  | destroying leased waits generation asked =>
    refine .destroying leased waits asked
      ⟨((later.fire none).afterTeardown index .recreate).1, fun time result => ?_⟩
    rw [step_of_transition (.released waits), ← name, ← ttl, ← sameName, ← sameTtl]
    rfl
  | creating waits generation asked =>
    exact .creating waits asked (there.rearmed quiet waits generation)
      (there.bereft quiet waits generation)
  | finished ended asked => exact .finished ended asked

/-- A session whose `recreate` begins while a renewal is in flight, which the monitor abandons. -/
def renewalAbandoned : Option (History × Session) :=
  replay opening [(10000000000, .woke 0), (10000000000, .granted (.monitor 0)),
    (11000000000, .began .recreate), (11000000000, .noticed 0)]

/-- The manager can neither destroy the old lease nor make a new one. -/
theorem recreate_without_manager : ∃ history session begun call moments later next,
    renewalAbandoned = some (history, session) ∧
      session.step 11000000000 (.granted (.caller 0)) = some (begun, call) ∧
      follow begun [(12000000000, .answered (.caller 0)
        (.destroyed (.error (.backendUnavailable "timed out"))))] = some (moments, later) ∧
      callsOf 0 (moments ++ [⟨11000000000, session, .granted (.caller 0), begun, call⟩]) =
        [.destroy "L1", .create "a-session" (.seconds 20)] ∧
      later.step 13000000000 (.answered (.caller 0) (.created (.error (.backendRejected 500 "full")))) =
        some (next, none) ∧
      Bereft session next 0 none (.backendRejected 500 "full") := by
  have reached : renewalAbandoned = some (renewalAbandoned.get (by decide)) := (Option.some_get _).symm
  have lived := lived_of_replay lived_opening reached
  let session := (renewalAbandoned.get (by decide)).2
  have granted : session.step 11000000000 (.granted (.caller 0)) =
      some ((session.step 11000000000 (.granted (.caller 0))).get (by decide)) :=
    (Option.some_get _).symm
  let first := (session.step 11000000000 (.granted (.caller 0))).get (by decide)
  let rest := follow first.1 [(12000000000, .answered (.caller 0)
    (.destroyed (.error (.backendUnavailable "timed out"))))]
  have followed : rest = some (rest.get (by decide)) := (Option.some_get _).symm
  have patient : (renewalAbandoned.get (by decide)).1.Patient := by
    unfold History.Patient
    decide
  have course := recreate_course lived patient (by decide) granted (ran_of_follow followed) (by decide)
  have stands : (rest.get (by decide)).2.callers[0]? = some ⟨.recreate, .creating⟩ := by decide
  cases course with
  | destroying _ waits => cases stands.symm.trans waits
  | finished ended => cases stands.symm.trans ended
  | creating _ asked _ failure =>
    obtain ⟨next, stepped, bereft⟩ := failure 13000000000 (.backendRejected 500 "full")
    refine ⟨_, session, first.1, first.2, _, _, next, reached, granted, followed, ?_, stepped, ?_⟩
    · exact asked
    · exact bereft

end Leasehold.Session
