import Leasehold.Proofs.Session.Monitoring
import Leasehold.Proofs.Session.Settlement

/-! Whether a monitor still looks after an active session. A call tells the monitor to stop before it
waits for its turn. If it is dropped while it waits, nobody starts the monitor again, and the lease
of the session is neither renewed nor found to be lost. -/
namespace Leasehold.Session

/-! ## Calls that were withdrawn -/

/-- Whether the call with this number began at this moment. -/
def Moment.begins (moment : Moment) (index : Nat) : Bool :=
  match moment.event with
  | .began _ => moment.before.callers.length = index
  | _ => false

/-- Whether the call with this number was dropped at this moment while it waited for its turn. -/
def Moment.withdraws (moment : Moment) (index : Nat) : Bool :=
  match moment.event with
  | .forgone dropped =>
    dropped = index &&
      match moment.before.callers[index]? with
      | some ⟨_, .queued⟩ => true
      | _ => false
  | _ => false

/-- Whether the call with this number began in the observed generation. -/
def History.began (history : History) (observer : Observer) (index : Nat) : Bool :=
  history.moments.any fun moment => moment.before.err = observer && moment.begins index

/-- Whether the call with this number was dropped while it waited for its turn. -/
def History.withdrew (history : History) (index : Nat) : Bool :=
  history.moments.any fun moment => moment.withdraws index

/-- A call that began in the observed generation was dropped while it waited for its turn. -/
def History.Withdrawn (history : History) (observer : Observer) : Prop :=
  ∃ index, history.began observer index = true ∧ history.withdrew index = true

/-! ## Sessions that are left to themselves -/

/-- The session is active, and the monitor of its generation runs. -/
def Watched (session : Session) : Prop :=
  session.state = .active ∧ session.Running session.err.generation

/-- What can become of a session from some time on while nobody calls or drops it, with the calls to
the manager that it makes meanwhile, the first one first. -/
inductive Undisturbed : Instant → Session → List Manager.Call → Session → Prop where
  | still : Undisturbed start session [] session
  | moved (order : start ≤ now) (stepped : session.step now event = some (next, call))
      (quiet : ∀ intent, event ≠ .began intent) (kept : event ≠ .dropped)
      (rest : Undisturbed now next calls later) :
      Undisturbed start session (call.toList ++ calls) later

/-- Whatever time it is, the session can come to make a call to the manager while nobody calls or drops
it. -/
def CanAsk (session : Session) : Prop :=
  ∀ start, ∃ calls later, Undisturbed start session calls later ∧ calls ≠ []

variable {session next : Session} {event : Event} {call : Option Manager.Call} {now : Instant}
variable {index : Nat} {history : History}

/-! ## One more moment -/

theorem began_add (history : History) (moment : Moment) (index : Nat) :
    (history.add moment).began moment.before.err index =
      (moment.begins index || history.began moment.before.err index) := by
  simp [History.began, History.add]

theorem withdrew_add (history : History) (moment : Moment) (index : Nat) :
    (history.add moment).withdrew index = (moment.withdraws index || history.withdrew index) := by
  simp [History.withdrew, History.add]

/-- No call has begun in a generation yet to come. -/
theorem Lived.began_next (lived : Lived history session)
    (new : observer.generation = session.err.generation + 1) (index : Nat) :
    history.began observer index = false := by
  rw [History.began, List.any_eq_false]
  intro moment member
  simp [lived.other_generation new moment member]

/-! ## Active sessions -/

/-- How an active session was told to stop its monitor: by the calls that began in its generation, all
of which wait for their turn or were dropped while they did. -/
structure Attended (history : History) (session : Session) : Prop where
  /-- If the monitor was told to stop, a call has begun. -/
  stopped : session.current = none → ∃ index, history.began session.err index = true
  /-- If a call has begun, the monitor was told to stop, and the call has not had its turn. -/
  began : ∀ index, history.began session.err index = true → session.current = none ∧
    ((∃ intent, session.callers[index]? = some ⟨intent, .queued⟩) ∨ history.withdrew index = true)

/-- Nothing has begun, and no call that waits has moved. -/
private theorem attended_of_same (attended : Attended history session)
    (err : next.err = session.err) (current : next.current = session.current)
    (quiet : ∀ index, Moment.begins ⟨now, session, event, next, call⟩ index = false)
    (waiting : ∀ (index : Nat) intent, session.callers[index]? = some ⟨intent, .queued⟩ →
      next.callers[index]? = some ⟨intent, .queued⟩ ∨
        Moment.withdraws ⟨now, session, event, next, call⟩ index = true) :
    Attended (history.add ⟨now, session, event, next, call⟩) next := by
  have same : ∀ index, (history.add ⟨now, session, event, next, call⟩).began next.err index =
      history.began session.err index := by
    intro index
    have added := began_add history ⟨now, session, event, next, call⟩ index
    rw [quiet, Bool.false_or] at added
    rw [err]
    exact added
  constructor
  · intro stopped
    obtain ⟨index, began⟩ := attended.stopped (current ▸ stopped)
    exact ⟨index, (same index).trans began⟩
  · intro index began
    obtain ⟨stopped, waits⟩ := attended.began index ((same index).symm.trans began)
    refine ⟨current ▸ stopped, ?_⟩
    rw [withdrew_add]
    rcases waits with ⟨intent, queued⟩ | withdrew
    · rcases waiting index intent queued with still | gone
      · exact .inl ⟨intent, still⟩
      · exact .inr (by rw [gone]; rfl)
    · exact .inr (by rw [withdrew, Bool.or_true])

/-- A call has begun. -/
private theorem attended_of_beginning (attended : Attended history session)
    (event_ : event = .began intent) (err : next.err = session.err) (current : next.current = none)
    (callers : next.callers = session.callers ++ [⟨intent, .queued⟩]) :
    Attended (history.add ⟨now, session, event, next, call⟩) next := by
  subst event_
  have began := began_add history ⟨now, session, .began intent, next, call⟩
  have withdrew := withdrew_add history ⟨now, session, .began intent, next, call⟩
  simp only [Moment.begins, Moment.withdraws, Bool.false_or] at began withdrew
  constructor
  · intro _
    exact ⟨session.callers.length, by rw [err, began]; simp⟩
  · intro index held
    refine ⟨current, ?_⟩
    rw [err, began, Bool.or_eq_true, decide_eq_true_iff] at held
    rw [callers, withdrew]
    rcases held with rfl | earlier
    · exact .inl ⟨intent, by simp⟩
    · rcases (attended.began index earlier).2 with ⟨aim, queued⟩ | gone
      · have old := (List.getElem?_eq_some_iff.mp queued).1
        exact .inl ⟨aim, by rw [List.getElem?_append_left old, queued]⟩
      · exact .inr gone

/-- In an active session only a `recreate` that waits for a new lease could begin a generation, so
that the calls of the current one have not had their turn. -/
theorem Lived.attended (lived : Lived history session) (alive : session.isDropped = false)
    (active : session.lease.state = .active) : Attended history session := by
  induction lived with
  | opened _ opened =>
    have fresh := (fresh_of_opened opened).1
    refine ⟨fun stopped => ?_, fun index began => by cases began⟩
    rw [fresh.current] at stopped
    cases stopped
  | @happened history session now event next call lived stepped ih =>
    have outcome := transition_of_step stepped
    -- Either the generation goes on, and no call of an active session works, or a new one begins.
    rcases active_before lived.fitting outcome active with before | ⟨-, new, started⟩
    · replace ih := ih (alive_before outcome alive) before
      have inactive {index call} (works : session.standing (.caller index) = .working call) : False := by
        have destroyed := lived.fitting.caller _ _ works
        rw [before] at destroyed
        cases destroyed
      clear stepped
      cases outcome
      case began =>
        refine attended_of_beginning ih rfl ?_ ?_ rfl <;> rw [stopMonitor_eq]
        rfl
      case woke | noticed | retired | asked | renews | ignored | armed | postponed | renewed |
          failed | denied | expired | lost =>
        exact attended_of_same ih rfl rfl (fun _ => rfl) fun _ _ waits => .inl waits
      case found destroyed => rw [before] at destroyed; cases destroyed
      case closed => simp [fire] at active
      case surrendered => cases active
      case released waits | recreated waits | refused waits =>
        exact (inactive (standing_caller waits)).elim
      case forgone index caller found pending =>
        obtain ⟨intent, phase⟩ := caller
        cases phase with
        | destroying | creating => exact (inactive (standing_caller found)).elim
        | finished | abandoned => cases pending
        | queued =>
          refine attended_of_same ih rfl rfl (fun _ => rfl) fun position aim waits => ?_
          by_cases same : index = position
          · right; subst same; simp [Moment.withdraws, found]
          · left
            have kept := setCaller_get found .abandoned position
            rw [if_neg same] at kept
            exact kept.trans waits
      case dropped | deserted => cases alive
    · have other : session.err ≠ next.err := by
        intro same
        rw [same] at new
        exact Nat.succ_ne_self _ new.symm
      refine ⟨fun stopped => absurd stopped started, fun index began => ?_⟩
      have same : (history.add ⟨now, session, event, next, call⟩).began next.err index =
          history.began next.err index := by
        simp [History.began, History.add, other]
      rw [same, lived.began_next new] at began
      cases began

/-! ## What becomes of a session that nobody calls -/

/-- An active session is watched while its monitor was not told to stop. -/
theorem Lived.watched_iff (lived : Lived history session) (active : session.lease.state = .active) :
    session.Watched ↔ session.current ≠ none := by
  have monitored := lived.monitored
  constructor
  · rintro ⟨_, running⟩ stopped
    rw [(monitored.running_iff active).mp running] at stopped
    cases stopped
  · intro held
    refine ⟨active, (monitored.running_iff active).mpr ?_⟩
    cases current : session.current with
    | none => exact absurd current held
    | some index => rw [(monitored.current index current).1]; rfl

/-- While nobody calls an idle session, everything that happens to it is about its monitors. -/
theorem Idle.not_about_caller (idle : session.Idle)
    (outcome : Transition now session event next call) (quiet : ∀ intent, event ≠ .began intent)
    (index : Nat) : session.subject event ≠ some (.caller index) := by
  intro about
  have absent := idle.standing index
  cases outcome
  all_goals simp only [subject, Option.some.injEq, Task.caller.injEq, reduceCtorEq] at about
  case began intent _ => exact quiet intent rfl
  case found queued _ | closed queued _ _ | surrendered queued _ _ =>
    subst about
    rw [standing_caller queued] at absent
    cases absent
  case released waits | recreated waits | refused waits =>
    subst about
    rw [standing_caller waits] at absent
    cases absent
  case forgone found pending =>
    rw [idle _ (List.mem_of_getElem? found)] at pending
    cases pending
  case dropped _ _ current => simp [current] at about
  case deserted _ _ current => simp [current] at about

/-- What an idle session keeps while nobody calls or drops it. -/
theorem idle_after (idle : session.Idle) (outcome : Transition now session event next call)
    (quiet : ∀ intent, event ≠ .began intent) (kept : event ≠ .dropped) :
    next.Idle ∧ next.current = session.current ∧ next.isDropped = session.isDropped := by
  have others := idle.not_about_caller outcome quiet
  cases outcome
  case began | found | closed | surrendered | released | recreated | refused | forgone =>
    exact absurd rfl (others _)
  case dropped | deserted => exact absurd rfl kept
  all_goals exact ⟨idle, rfl, rfl⟩

/-- An idle session whose monitor was told to stop neither calls the manager nor changes its lease
or its signal. -/
theorem unwatched_after (lived : Lived history session) (idle : session.Idle)
    (stopped : session.current = none) (outcome : Transition now session event next call)
    (quiet : ∀ intent, event ≠ .began intent) (kept : event ≠ .dropped) :
    call = none ∧ next.lease = session.lease ∧ next.signal = session.signal := by
  have others := idle.not_about_caller outcome quiet
  have told {index : Nat} {phase} (untold : session.monitors[index]? = some ⟨false, phase⟩) : False := by
    have held := lived.monitored.untold index phase untold
    rw [stopped] at held
    cases held
  cases outcome
  case woke | noticed | retired | ignored => exact ⟨rfl, rfl, rfl⟩
  case asked queued _ _ | renews queued _ _ => exact (told queued).elim
  case armed waits | postponed waits _ | denied waits _ | renewed waits | failed waits _ _ |
      expired waits _ _ | lost waits _ =>
    exact (told waits).elim
  case began | found | closed | surrendered | released | recreated | refused | forgone =>
    exact absurd rfl (others _)
  case dropped | deserted => exact absurd rfl kept

theorem undisturbed_keeps (run : Undisturbed start session calls later) (lived : Lived history session)
    (idle : session.Idle) : ∃ reached, Lived reached later ∧ later.Idle ∧
      later.current = session.current ∧ later.isDropped = session.isDropped := by
  induction run generalizing history with
  | still => exact ⟨history, lived, idle, rfl, rfl⟩
  | moved _ stepped quiet kept rest ih =>
    obtain ⟨still, current, dropped⟩ := idle_after idle (transition_of_step stepped) quiet kept
    obtain ⟨reached, there, idle, current', dropped'⟩ := ih (.happened lived stepped) still
    exact ⟨reached, there, idle, current'.trans current, dropped'.trans dropped⟩

theorem undisturbed_unwatched (run : Undisturbed start session calls later) (lived : Lived history session)
    (idle : session.Idle) (stopped : session.current = none) :
    calls = [] ∧ later.lease = session.lease ∧ later.signal = session.signal := by
  induction run generalizing history with
  | still => exact ⟨rfl, rfl, rfl⟩
  | moved _ stepped quiet kept rest ih =>
    have outcome := transition_of_step stepped
    obtain ⟨still, current, _⟩ := idle_after idle outcome quiet kept
    obtain ⟨rfl, lease, signal⟩ := unwatched_after lived idle stopped outcome quiet kept
    obtain ⟨rfl, lease', signal'⟩ := ih (.happened lived stepped) still (current.trans stopped)
    exact ⟨rfl, lease'.trans lease, signal'.trans signal⟩

/-! ## The next call of the monitor -/

/-- A monitor that was told to stop can end at the head of the queue, whatever it does there. -/
theorem told_can_end (now : Instant) (head : session.queue.head? = some (.monitor index))
    (told : session.monitors[index]? = some ⟨true, phase⟩)
    (present : session.standing (.monitor index) ≠ .absent) :
    ∃ event, (event = .granted (.monitor index) ∨ event = .noticed index) ∧
      session.step now event = some (session.endMonitor index, none) := by
  rw [standing_monitor told] at present
  cases phase with
  | asleep | ended => exact absurd rfl present
  | queued =>
    exact ⟨.granted (.monitor index), .inl rfl, step_of_transition (.retired head told (.inl rfl))⟩
  | creating | renewing =>
    exact ⟨.noticed index, .inr rfl, step_of_transition (.noticed told ⟨nofun, nofun⟩)⟩

/-- A monitor that has its turn asks for something. -/
private theorem head_asks (now : Instant) (head : session.queue.head? = some (.monitor index))
    (active : session.lease.state = .active)
    (queued : session.monitors[index]? = some ⟨false, .queued⟩) :
    ∃ next call, session.step now (.granted (.monitor index)) = some (next, some call) := by
  by_cases without : session.lease.id = "" <;>
    simp [step, grant, head, queued, monitorTurn, active, without]

/-- A monitor that waits for its turn can have it, because those ahead of it can end. -/
private theorem queued_asks (index : Nat) (lived : Lived history session) (idle : session.Idle)
    (active : session.lease.state = .active)
    (queued : session.monitors[index]? = some ⟨false, .queued⟩) :
    ∃ calls later, Undisturbed start session calls later ∧ calls ≠ [] := by
  induction length : session.queue.length generalizing history session with
  | zero =>
    have inside := (lived.orderly.mem_queue (.monitor index)).mpr
      (by rw [standing_monitor queued]; rintro ⟨⟩)
    rw [List.eq_nil_of_length_eq_zero length] at inside
    cases inside
  | succ rest ih =>
    obtain ⟨first, behind, order⟩ := List.exists_cons_of_length_eq_add_one length
    have head : session.queue.head? = some first := by rw [order]; rfl
    have present := (lived.orderly.mem_queue first).mp (List.mem_of_mem_head? head)
    cases first with
    | caller ahead => exact absurd (idle.standing ahead) present
    | monitor ahead =>
      by_cases turn : ahead = index
      · subst turn
        obtain ⟨next, call, stepped⟩ := head_asks start head active queued
        exact ⟨_, _, .moved (Nat.le_refl start) stepped (by rintro _ ⟨⟩) (by rintro ⟨⟩) .still,
          by rintro ⟨⟩⟩
      · obtain ⟨⟨cancelled, phase⟩, found⟩ : ∃ monitor, session.monitors[ahead]? = some monitor := by
          cases found : session.monitors[ahead]? with
          | none => simp [standing, found] at present
          | some monitor => exact ⟨monitor, rfl⟩
        -- Only the current monitor was not told to stop, so that one ahead of it can end.
        cases cancelled with
        | false =>
          have current := lived.monitored.untold ahead phase found
          rw [lived.monitored.untold index .queued queued] at current
          exact absurd (Option.some.inj current).symm turn
        | true =>
          obtain ⟨event, about, stepped⟩ := told_can_end start head found present
          have quiet : ∀ intent, event ≠ .began intent := by
            rcases about with rfl | rfl <;> rintro _ ⟨⟩
          have kept : event ≠ .dropped := by rcases about with rfl | rfl <;> rintro ⟨⟩
          obtain ⟨calls, later, run, asked⟩ := ih (.happened lived stepped) idle active
            (by simp [endMonitor, setMonitor, leave, turn, queued])
            (by simp [endMonitor, setMonitor, leave, order] at length ⊢; exact length)
          exact ⟨_, _, .moved (Nat.le_refl start) stepped quiet kept run, asked⟩

/-- The monitor of the current generation waits for an answer of the manager. -/
def Asking (session : Session) : Prop :=
  ∃ call, session.standing (.monitor session.err.generation) = .working call

/-- The monitor of a session that is left to itself waits for an answer or can ask again. -/
theorem Lived.asks_again (lived : Lived history session) (idle : session.Idle)
    (watched : session.Watched) : session.Asking ∨ session.CanAsk := by
  obtain ⟨active, phase, found, live⟩ := watched
  cases phase with
  | ended => exact absurd rfl live
  | creating | renewing => exact .inl ⟨_, standing_monitor found⟩
  | queued => exact .inr fun _ => queued_asks _ lived idle active found
  | asleep since wait =>
    refine .inr fun start => ?_
    have due : since + wait.nanos ≤ max start (since + wait.nanos) := Nat.le_max_right ..
    have stepped : session.step (max start (since + wait.nanos)) (.woke session.err.generation) =
        some ({ session.setMonitor session.err.generation .queued with
          queue := session.queue ++ [.monitor session.err.generation] }, none) := by
      simp only [step, found, if_pos due]
      rfl
    obtain ⟨calls, later, run, asked⟩ := queued_asks session.err.generation
      (.happened lived stepped) idle active (by simp [setMonitor, found])
    exact ⟨_, _, .moved (Nat.le_max_left ..) stepped (by rintro _ ⟨⟩) (by rintro ⟨⟩) run, asked⟩

/-- Nobody but a call that was withdrawn can have stopped the monitor of an idle active session. -/
theorem Lived.watched_iff_not_withdrawn (lived : Lived history session)
    (alive : session.isDropped = false) (active : session.lease.state = .active)
    (idle : session.Idle) : session.Watched ↔ ¬ history.Withdrawn session.err := by
  have attended := lived.attended alive active
  rw [lived.watched_iff active]
  constructor
  · rintro held ⟨index, began, _⟩
    exact held (attended.began index began).1
  · rintro kept stopped
    obtain ⟨index, began⟩ := attended.stopped stopped
    rcases (attended.began index began).2 with ⟨intent, queued⟩ | withdrew
    · cases idle _ (List.mem_of_getElem? queued)
    · exact kept ⟨index, began, withdrew⟩

/-- A watched session that is left to itself stays watched until the loss of its lease is reported. -/
theorem Lived.watched_or_told (lived : Lived history session) (alive : session.isDropped = false)
    (idle : session.Idle) (watched : session.Watched) (run : Undisturbed start session calls later) :
    later.Watched ∧ (later.Asking ∨ later.CanAsk) ∨
      later.state = .invalidated ∧ ∃ error, later.err.tryRecv later.signal = some (some error) := by
  have held := (lived.watched_iff watched.1).mp watched
  obtain ⟨reached, there, idle, current, dropped⟩ := undisturbed_keeps run lived idle
  cases state : later.lease.state with
  | active =>
    have watched := (there.watched_iff state).mpr (current ▸ held)
    exact .inl ⟨watched, there.asks_again idle watched⟩
  | destroyed => exact absurd (current ▸ there.monitored.destroyed state) held
  | invalidated =>
    cases there.settlement (dropped.trans alive) with
    | lost _ _ shown => exact .inr ⟨state, _, (told_of_settled shown).1⟩
    | active other | releasing other | released other | interrupted other =>
      rw [state] at other; cases other

/-- **An active session is watched, unless a call was withdrawn.** While no call is in progress, the
monitor of an active session runs if and only if no call that began in its generation was dropped
while it waited for its turn. A session that is watched stays so while nobody calls, and waits for an
answer of the manager or can ask it again, until it reports the loss of its lease; one that is not
watched never does either. -/
theorem watched_unless_withdrawn (lived : Lived history session) (alive : session.isDropped = false)
    (active : session.state = .active) (idle : session.Idle) :
    (session.Watched ↔ ¬ history.Withdrawn session.err) ∧
      ∀ start calls later, Undisturbed start session calls later →
        (session.Watched →
          later.Watched ∧ (later.Asking ∨ later.CanAsk) ∨
            later.state = .invalidated ∧
              ∃ error, later.err.tryRecv later.signal = some (some error)) ∧
        (¬ session.Watched →
          calls = [] ∧ later.lease = session.lease ∧ later.signal = session.signal) := by
  refine ⟨lived.watched_iff_not_withdrawn alive active idle, fun start calls later run => ⟨?_, ?_⟩⟩
  · intro watched
    exact lived.watched_or_told alive idle watched run
  · intro unwatched
    have stopped : session.current = none := by
      rw [lived.watched_iff active, ne_eq, Classical.not_not] at unwatched
      exact unwatched
    exact undisturbed_unwatched run lived idle stopped

/-- A session whose monitor waits for a renewal while a call of `destroy` begins and is dropped before
it has its turn. -/
def withdrawnDestroy : Option (History × Session) :=
  replay opening
    [(10000000000, .woke 0), (10000000000, .granted (.monitor 0)), (10000000000, .began .destroy),
      (10000000000, .forgone 0), (10000000000, .noticed 0)]

/-- The session is active and idle, and its lease is never renewed or found to be lost. -/
theorem withdrawn_destroy_unwatched : ∃ history session,
    withdrawnDestroy = some (history, session) ∧ session.isDropped = false ∧
      session.state = .active ∧ session.Idle ∧ history.Withdrawn session.err ∧ ¬ session.Watched ∧
      ∀ start calls later, Undisturbed start session calls later →
        calls = [] ∧ later.lease = session.lease ∧ later.err.tryRecv later.signal = none := by
  have ran : withdrawnDestroy = some (withdrawnDestroy.get (by decide)) := (Option.some_get _).symm
  let reached := withdrawnDestroy.get (by decide)
  have alive : reached.2.isDropped = false := by decide
  have active : reached.2.state = .active := by decide
  have idle : reached.2.Idle := by unfold Idle; decide
  have withdrawn : reached.1.Withdrawn reached.2.err := ⟨0, by decide, by decide⟩
  obtain ⟨iff, after⟩ := watched_unless_withdrawn (lived_of_replay lived_opening ran) alive active idle
  have unwatched : ¬ reached.2.Watched := fun watched => iff.mp watched withdrawn
  refine ⟨_, _, ran, alive, active, idle, withdrawn, unwatched, fun start calls later run => ?_⟩
  obtain ⟨none, lease, signal⟩ := (after start calls later run).2 unwatched
  refine ⟨none, lease, (told_of_pending ?_).1⟩
  rw [signal]
  decide

end Leasehold.Session
