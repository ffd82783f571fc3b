import Mathlib.Logic.Relation
import Leasehold.Proofs.Session.Overlap

/-! Calls get their turn. A call tells the monitor to stop before it queues up, so that every monitor
ahead of a call was told (`Lived.yields`). Such a monitor leaves the queue by itself, even if its own
call to the manager is never answered. So a call waits only for the calls ahead of it, and once none of
those has the turn, the first of the waiting calls comes to its turn whatever the tasks do.

Tasks wait for one another in the queue and nowhere else: its head takes its turn or is answered by the
manager, whoever stands behind it. -/
namespace Leasehold.Session

/-! ## Waiting -/

/-- Whether an event takes neither time nor an answer nor a caller. -/
def Event.isUnaided : Event → Bool
  | .noticed _ | .granted _ => true
  | .began _ | .woke _ | .answered _ _ | .forgone _ | .dropped => false

/-- One task stands ahead of another in the queue. -/
def Ahead (session : Session) (first second : Task) : Prop := [first, second].Sublist session.queue

/-- A task waits for another: it has yet to get its turn, and the other stands ahead of it. -/
def WaitsFor (session : Session) (task other : Task) : Prop :=
  session.standing task = .waiting ∧ session.Ahead other task

/-- The call that stands first among the calls in the queue. -/
def firstCall? (session : Session) : Option Nat := (session.queue.filterMap Task.call?).head?

/-- Without time going by and without any answer, a call comes to take its turn, whatever the tasks of
the session do until then: there is something that they can do, and all that they can do leads there.

That a call takes its turn is the end of its wait. Only the head of the queue can, which is to say that the
call has been handed the lock by then; what it does first with the lock is the same event
(`standing_of_granted`). -/
inductive SureOfTurn (now : Instant) (index : Nat) : Session → Prop where
  | onward
      (possible : ∃ event, Event.isUnaided event = true ∧ (session.step now event).isSome)
      (each : ∀ event next call, Event.isUnaided event = true →
        session.step now event = some (next, call) → event ≠ .granted (.caller index) →
        SureOfTurn now index next) :
      SureOfTurn now index session

/-- A task goes on without any other: it can take its turn, or has it and needs only an answer of the
manager, whichever that is. -/
def GoesOn (session : Session) (task : Task) : Prop :=
  (∀ now, (session.step now (.granted task)).isSome) ∨
    ∃ made, session.standing task = .working made ∧ ∀ now (result : made.request.Outcome),
      (session.step now (.answered task (made.reply result))).isSome

variable {session next : Session} {event : Event} {call : Option Manager.Call} {now : Instant}
variable {index position : Nat} {history : History} {task first second : Task}

/-! ## Monitors ahead of calls -/

/-- Every monitor ahead of a call was told to stop. -/
def Yields (session : Session) : Prop :=
  ∀ position index, session.Ahead (.monitor position) (.caller index) → session.Told position

/-- A monitor that is in the queue when no monitor can be told any more was told. -/
theorem told_of_queued (orderly : session.Orderly) (monitored : session.Monitored)
    (current : session.current = none) (queued : .monitor position ∈ session.queue) :
    session.Told position := by
  have present := (orderly.mem_queue _).mp queued
  cases found : session.monitors[position]? with
  | none => simp [standing, found] at present
  | some monitor =>
    obtain ⟨cancelled, phase⟩ := monitor
    cases cancelled with
    | true => exact ⟨phase, found⟩
    | false =>
      have held := monitored.untold position phase found
      rw [current] at held
      cases held

/-- Whoever is ahead of a task after a step was ahead of it before, or the task has just joined. -/
theorem ahead_before (outcome : Transition now session event next call)
    (ahead : next.Ahead first second) :
    session.Ahead first second ∨
      session.standing second = .absent ∧ next.standing second = .waiting ∧
        first ∈ session.queue := by
  unfold Ahead at ahead ⊢
  cases about : session.subject event with
  | none =>
    have queue : next.queue = session.queue := by
      cases outcome <;> simp_all [subject]
    exact .inl (queue ▸ ahead)
  | some task =>
    cases moved_of_subject outcome about with
    | joined before after queue =>
      rw [queue, List.sublist_append_iff] at ahead
      obtain ⟨front, back, same, inside, last⟩ := ahead
      rcases front with _ | ⟨one, _ | ⟨two, _ | ⟨three, front⟩⟩⟩
      · -- Two tasks do not both join at once.
        have short := last.length_le
        rw [List.nil_append] at same
        simp [← same] at short
      · obtain ⟨rfl, rfl⟩ : first = one ∧ [second] = back := by simpa using same
        obtain rfl : second = task := by simpa using last
        exact .inr ⟨before, after, List.singleton_sublist.mp inside⟩
      · obtain ⟨rfl, rfl, rfl⟩ : first = one ∧ second = two ∧ [] = back := by simpa using same
        exact .inl inside
      · simp at same
    | called _ _ queue => exact .inl (queue ▸ ahead)
    | left _ queue =>
      rw [queue] at ahead
      exact .inl (ahead.trans List.erase_sublist)

/-- A call that waits for a turn for which it did not wait before has just begun. -/
theorem began_of_joined (outcome : Transition now session event next call)
    (before : session.standing (.caller index) = .absent)
    (after : next.standing (.caller index) = .waiting) : ∃ intent, event = .began intent := by
  cases found : next.callers[index]? with
  | none => simp [standing, found] at after
  | some caller =>
    rw [standing_caller found] at after
    cases caller_moved outcome found with
    | same earlier =>
      obtain ⟨intent, phase⟩ := caller
      rw [standing_caller earlier] at before
      cases phase <;> cases after
      cases before
    | began => exact ⟨_, rfl⟩
    | gives | done | asks | answered | forgone => cases after

/-- Monitors ahead of calls stay told, and a call that begins has told all that are ahead of it. -/
theorem yields_preserved (yields : session.Yields) (lived : Lived history session)
    (stepped : session.step now event = some (next, call)) : next.Yields := by
  have outcome := transition_of_step stepped
  intro position index ahead
  rcases ahead_before outcome ahead with before | ⟨absent, waiting, queued⟩
  · exact (yields position index before).after outcome
  · obtain ⟨intent, rfl⟩ := began_of_joined outcome absent waiting
    have later := Lived.happened lived stepped
    refine told_of_queued later.orderly later.monitored ?_ ?_ <;> cases outcome
    case refine_1.began => rw [stopMonitor_eq]
    case refine_2.began => exact List.mem_append_left _ queued

/-- Every monitor ahead of a call was told to stop, at every time. -/
theorem Lived.yields (lived : Lived history session) : session.Yields := by
  induction lived with
  | opened _ opened =>
    intro position index ahead
    have fresh := (fresh_of_opened opened).1
    rw [Ahead, fresh.queue] at ahead
    cases ahead
  | happened lived stepped ih => exact yields_preserved ih lived stepped

/-! ## The head of the queue -/

/-- The head of the queue takes its turn, if it waits for one. -/
theorem step_of_head (head : session.queue.head? = some task)
    (waits : session.standing task = .waiting) (now : Instant) :
    (session.step now (.granted task)).isSome := by
  cases task with
  | monitor position =>
    cases found : session.monitors[position]? with
    | none => simp [standing, found] at waits
    | some monitor =>
      obtain ⟨cancelled, phase⟩ := monitor
      rw [standing_monitor found] at waits
      cases phase <;> cases waits
      simp [step, grant, head, found]
  | caller index =>
    cases found : session.callers[index]? with
    | none => simp [standing, found] at waits
    | some caller =>
      obtain ⟨intent, phase⟩ := caller
      rw [standing_caller found] at waits
      cases phase <;> cases waits
      simp [step, grant, head, found]

/-- A task that works goes on with whatever the manager answers. -/
theorem step_of_working (works : session.standing task = .working made)
    (result : made.request.Outcome) (now : Instant) :
    (session.step now (.answered task (made.reply result))).isSome := by
  cases task with
  | monitor position =>
    cases found : session.monitors[position]? with
    | none => simp [standing, found] at works
    | some monitor =>
      obtain ⟨cancelled, phase⟩ := monitor
      rw [standing_monitor found] at works
      cases cancelled <;> cases phase <;> cases works <;>
        simp [step, answer, found, Manager.Call.reply]
  | caller index =>
    cases found : session.callers[index]? with
    | none => simp [standing, found] at works
    | some caller =>
      obtain ⟨intent, phase⟩ := caller
      rw [standing_caller found] at works
      cases phase <;> cases works <;> simp [step, answer, found, Manager.Call.reply]

/-- The head of the queue needs no other task to go on. -/
theorem Orderly.head_goesOn (orderly : session.Orderly) (head : session.queue.head? = some task) :
    session.GoesOn task := by
  have present := (orderly.mem_queue task).mp (List.mem_of_mem_head? head)
  cases stands : session.standing task with
  | absent => exact absurd stands present
  | waiting => exact .inl (step_of_head head stands)
  | working made => exact .inr ⟨made, stands, fun now result => step_of_working stands result now⟩

/-- Whoever stands in the queue and waits for nobody goes on. -/
theorem Orderly.goesOn (orderly : session.Orderly) (queued : task ∈ session.queue)
    (free : ∀ other, ¬ session.WaitsFor task other) : session.GoesOn task := by
  cases stands : session.standing task with
  | absent => exact absurd stands ((orderly.mem_queue task).mp queued)
  | working made => exact orderly.head_goesOn (orderly.first task made stands)
  | waiting =>
    obtain ⟨front, rest, queue⟩ := List.append_of_mem queued
    cases front with
    | nil => exact orderly.head_goesOn (by rw [queue]; rfl)
    | cons other front =>
      refine absurd ⟨stands, ?_⟩ (free other)
      rw [Ahead, queue, List.cons_append, List.cons_sublist_cons]
      exact List.singleton_sublist.mpr (List.mem_append_right _ List.mem_cons_self)

/-- A call that is done with the old lease works on the next one, or is over. -/
theorem standing_afterTeardown {ready : Session}
    (present : ready.callers[index]? = some ⟨intent, phase⟩) :
    (∃ made, (ready.afterTeardown index intent).1.standing (.caller index) = .working made) ∨
      (ready.afterTeardown index intent).1.callers[index]? = some ⟨.destroy, .finished none⟩ := by
  cases intent with
  | destroy => exact .inr (setCaller_get_self present _)
  | recreate => exact .inl ⟨_, standing_setCaller_self present _⟩

/-- A call that takes its turn is the head of the queue. Afterwards it works, or is over because there was
nothing to give up. -/
theorem standing_of_granted (stepped : session.step now (.granted (.caller index)) = some (next, call)) :
    session.queue.head? = some (.caller index) ∧
      ((∃ made, next.standing (.caller index) = .working made) ∨
        next.callers[index]? = some ⟨.destroy, .finished none⟩) := by
  have present {intent} (queued : session.callers[index]? = some ⟨intent, .queued⟩) :
      session.stopMonitor.callers[index]? = some ⟨intent, .queued⟩ := by
    rw [stopMonitor_eq]
    exact queued
  cases transition_of_step stepped with
  | found first queued => exact ⟨first, standing_afterTeardown (present queued)⟩
  | closed first queued => exact ⟨first, standing_afterTeardown (present queued)⟩
  | surrendered first queued => exact ⟨first, .inl ⟨_, standing_setCaller_self (present queued) _⟩⟩

/-! ## No circles -/

/-- Tasks that stand in the queue once each stand in it one after the other. -/
theorem Orderly.position_lt (orderly : session.Orderly) (ahead : session.Ahead first second) :
    session.queue.idxOf first < session.queue.idxOf second := by
  have nodup := orderly.nodup
  unfold Ahead at ahead
  generalize session.queue = queue at nodup ahead
  induction queue with
  | nil => cases ahead
  | cons task queue ih =>
    obtain ⟨absent, nodup⟩ := List.nodup_cons.mp nodup
    -- Neither task is the head, or the first is and the second stands behind it.
    cases ahead with
    | cons _ later =>
      have firstly : task ≠ first := by rintro rfl; exact absent (later.subset (by simp))
      have secondly : task ≠ second := by rintro rfl; exact absent (later.subset (by simp))
      simpa [List.idxOf_cons, beq_false_of_ne firstly, beq_false_of_ne secondly] using ih nodup later
    | cons_cons _ later =>
      have other : first ≠ second := by rintro rfl; exact absent (later.subset (by simp))
      simp [List.idxOf_cons, beq_false_of_ne other]

/-- Nobody waits for a task that waits for another that waits, and so on, for the first one. -/
theorem Orderly.not_circular (orderly : session.Orderly) :
    ¬ Relation.TransGen session.WaitsFor task task := by
  have earlier {one other} (chain : Relation.TransGen session.WaitsFor one other) :
      session.queue.idxOf other < session.queue.idxOf one := by
    induction chain with
    | single waits => exact orderly.position_lt waits.2
    | tail _ waits ih => exact Nat.lt_trans (orderly.position_lt waits.2) ih
  exact fun chain => Nat.lt_irrefl _ (earlier chain)

/-! ## The first call -/

/-- How many monitors have not ended. -/
def lively (session : Session) : Nat := session.monitors.countP fun monitor => monitor.phase ≠ .ended

/-- When a monitor ends there is one less. -/
theorem lively_endMonitor (found : session.monitors[position]? = some ⟨cancelled, phase⟩)
    (live : phase ≠ .ended) : (session.endMonitor position).lively < session.lively := by
  unfold lively endMonitor leave setMonitor
  generalize session.monitors = monitors at found
  dsimp only
  induction monitors generalizing position with
  | nil => cases found
  | cons monitor monitors ih =>
    cases position with
    | zero =>
      cases found
      simp [live]
    | succ position =>
      rw [List.modify_succ_cons, List.countP_cons, List.countP_cons]
      exact Nat.add_lt_add_right (ih found) _

/-- What stands around the first call in the queue. -/
theorem firstCall?_eq_some_iff : session.firstCall? = some index ↔
    ∃ front rest, session.queue = front ++ .caller index :: rest ∧
      front.filterMap Task.call? = [] := by
  rw [firstCall?]
  constructor
  · intro first
    obtain ⟨others, calls⟩ := List.head?_eq_some_iff.mp first
    obtain ⟨front, task, rest, queue, before, same, _⟩ := List.filterMap_eq_cons_iff.mp calls
    cases task with
    | monitor => cases same
    | caller => cases same; exact ⟨front, rest, queue, List.filterMap_eq_nil_iff.mpr before⟩
  · rintro ⟨front, rest, queue, monitors⟩
    rw [queue, List.filterMap_append, monitors]
    rfl

/-- The head of the queue is the first call, or a monitor that was told to stop. -/
theorem Yields.head (yields : session.Yields) (first : session.firstCall? = some index)
    (head : session.queue.head? = some task) :
    task = .caller index ∨ ∃ position, task = .monitor position ∧ session.Told position := by
  obtain ⟨front, rest, queue, monitors⟩ := firstCall?_eq_some_iff.mp first
  cases front with
  | nil =>
    rw [queue] at head
    exact .inl (Option.some.inj head).symm
  | cons ahead front =>
    rw [queue] at head
    cases head
    cases task with
    | caller => cases List.filterMap_eq_nil_iff.mp monitors _ List.mem_cons_self
    | monitor position =>
      refine .inr ⟨position, rfl, yields position index ?_⟩
      rw [Ahead, queue, List.cons_append, List.cons_sublist_cons]
      exact List.singleton_sublist.mpr (List.mem_append_right _ List.mem_cons_self)

/-- A monitor that was told to stop and has not ended does so, by itself or in its turn. -/
theorem unaided_of_told (orderly : session.Orderly) (told : session.Told position)
    (head : session.queue.head? = some (.monitor position)) (now : Instant) :
    ∃ event, Event.isUnaided event = true ∧ (session.step now event).isSome := by
  obtain ⟨phase, found⟩ := told
  have present := (orderly.mem_queue _).mp (List.mem_of_mem_head? head)
  rw [standing_monitor found] at present
  cases phase with
  | asleep | ended => exact absurd rfl present
  | queued => exact ⟨_, rfl, step_of_head head (standing_monitor found) now⟩
  | creating | renewing => exact ⟨.noticed position, rfl, by simp [step, found]⟩

/-- Until the first call has its turn, all that happens unaided is that monitors end. -/
theorem Yields.unaided (yields : session.Yields) (first : session.firstCall? = some index)
    (outcome : Transition now session event next call) (unaided : event.isUnaided = true)
    (other : event ≠ .granted (.caller index)) :
    ∃ position cancelled phase, session.monitors[position]? = some ⟨cancelled, phase⟩ ∧
      phase ≠ .ended ∧ next = session.endMonitor position := by
  have told {position} (head : session.queue.head? = some (.monitor position)) :
      session.Told position := by
    rcases yields.head first head with same | ⟨_, same, told⟩ <;> cases same
    exact told
  have same {position} (head : session.queue.head? = some (.caller position)) :
      position = index := by
    rcases yields.head first head with same | ⟨_, same, _⟩ <;> cases same
    rfl
  cases outcome
  case noticed told listens => exact ⟨_, _, _, told, listens.2, rfl⟩
  case retired queued _ => exact ⟨_, _, _, queued, nofun, rfl⟩
  case asked head queued _ _ | renews head queued _ _ => exact absurd queued (told head).not_untold
  case found head _ _ | closed head _ _ _ | surrendered head _ _ _ =>
    exact absurd (by rw [same head]) other
  all_goals cases unaided

/-- A first call that waits is sure of its turn: until then monitors end, of which there are only so
many. -/
theorem sure_of_turn (lived : Lived history session) (first : session.firstCall? = some index)
    (waits : session.standing (.caller index) = .waiting) (now : Instant) :
    SureOfTurn now index session := by
  induction count : session.lively using Nat.strongRecOn generalizing history session with
  | _ bound ih =>
    refine .onward ?_ ?_
    · obtain ⟨task, head⟩ : ∃ task, session.queue.head? = some task := by
        obtain ⟨front, rest, queue, _⟩ := firstCall?_eq_some_iff.mp first
        cases front <;> exact ⟨_, by rw [queue]; rfl⟩
      rcases lived.yields.head first head with rfl | ⟨position, rfl, told⟩
      · exact ⟨_, rfl, step_of_head head waits now⟩
      · exact unaided_of_told lived.orderly told head now
    · intro event next call unaided stepped other
      obtain ⟨position, cancelled, phase, found, live, rfl⟩ :=
        lived.yields.unaided first (transition_of_step stepped) unaided other
      have fewer : (session.endMonitor position).lively < bound :=
        count ▸ lively_endMonitor found live
      refine ih _ fewer (.happened lived stepped) ?_ waits rfl
      rw [firstCall?, endMonitor, leave, calls_erase_monitor]
      exact first

/-- The first of the calls in the queue waits, unless a call has the turn. -/
theorem Orderly.first_waits (orderly : session.Orderly)
    (some : ∃ index, session.standing (.caller index) = .waiting)
    (free : ∀ index made, session.standing (.caller index) ≠ .working made) :
    ∃ index, session.firstCall? = .some index ∧ session.standing (.caller index) = .waiting := by
  obtain ⟨waiting, waits⟩ := some
  have queued : Task.caller waiting ∈ session.queue :=
    (orderly.mem_queue _).mpr (by rw [waits]; nofun)
  cases first : session.firstCall? with
  | none =>
    rw [firstCall?, List.head?_eq_none_iff, List.filterMap_eq_nil_iff] at first
    cases first _ queued
  | some index =>
    obtain ⟨front, rest, queue, _⟩ := firstCall?_eq_some_iff.mp first
    have present := (orderly.mem_queue (.caller index)).mp (by rw [queue]; simp)
    refine ⟨index, rfl, ?_⟩
    cases stands : session.standing (.caller index) with
    | absent => exact absurd stands present
    | waiting => rfl
    | working made => exact absurd stands (free index made)

/-- **Calls never wait for the monitor.** While a call waits for its turn and no call has it, the first
of the waiting calls is sure of its turn, without time going by and without any answer, also to a
call of the monitor that is in flight. Tasks do not wait for one another in a circle, so no monitor and
no call do; and whoever is in the queue and waits for nobody goes on, at most with an answer of the
manager. -/
theorem waiting_calls_proceed (lived : Lived history session) :
    ((∃ index, session.standing (.caller index) = .waiting) →
      (∀ index made, session.standing (.caller index) ≠ .working made) →
      ∃ index, session.firstCall? = some index ∧
        session.standing (.caller index) = .waiting ∧ ∀ now, SureOfTurn now index session) ∧
      (∀ task, ¬ Relation.TransGen session.WaitsFor task task) ∧
      ∀ task ∈ session.queue, (∀ other, ¬ session.WaitsFor task other) → session.GoesOn task := by
  have orderly := lived.orderly
  refine ⟨fun waiting free => ?_, fun _ => orderly.not_circular, fun _ => orderly.goesOn⟩
  obtain ⟨index, first, waits⟩ := orderly.first_waits waiting free
  exact ⟨index, first, waits, sure_of_turn lived first waits⟩

/-- A session with two calls that wait behind a monitor, whose renewal of the lease is not answered. -/
def stalledRenewal : Option (History × Session) :=
  replay opening
    [(10000000000, .woke 0), (10000000000, .granted (.monitor 0)), (11000000000, .began .recreate),
      (12000000000, .began .destroy)]

theorem stalled_renewal_gives_way : ∃ history session,
    stalledRenewal = some (history, session) ∧
      session.queue = [.monitor 0, .caller 0, .caller 1] ∧
      session.standing (.monitor 0) = .working (.renew "L1") ∧
      session.standing (.caller 0) = .waiting ∧
      (∀ index made, session.standing (.caller index) ≠ .working made) ∧
      ∀ now, SureOfTurn now 0 session := by
  have ran : stalledRenewal = some (stalledRenewal.get (by decide)) := (Option.some_get _).symm
  let reached := stalledRenewal.get (by decide)
  have free : ∀ index made, reached.2.standing (.caller index) ≠ .working made := by
    rintro (_ | _ | index) made <;> nofun
  obtain ⟨index, first, _, sure⟩ :=
    (waiting_calls_proceed (lived_of_replay lived_opening ran)).1 ⟨0, rfl⟩ free
  obtain rfl : 0 = index := Option.some.inj first
  exact ⟨_, _, ran, rfl, rfl, rfl, free, sure⟩

end Leasehold.Session
