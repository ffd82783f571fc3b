import Leasehold.Proofs.Session.Stopping

/-! Calls that overlap. The calls in progress stand in the queue in the order in which they began, and
ahead of the first of them there are only monitors that were told to stop (`Lined`). So as long as a
call is in progress, no monitor calls the manager or has a say about the lease, and all that happens to
the lease is done by the first call in its turn. -/
namespace Leasehold.Session

/-- Calls that overlap, from the first one on: whatever happens after it has begun happens while a call
is in progress, and no call is dropped. -/
inductive Overlapping (start : Session) : List Moment → Session → Prop where
  | began (idle : start.Idle) (stepped : start.step now (.began intent) = some (next, call)) :
      Overlapping start [⟨now, start, .began intent, next, call⟩] next
  | moved (run : Overlapping start moments session) (busy : ¬ session.Idle)
      (kept : ∀ caller, event ≠ .forgone caller)
      (stepped : session.step now event = some (next, call)) :
      Overlapping start (⟨now, session, event, next, call⟩ :: moments) next

variable {session next : Session} {event : Event} {call : Option Manager.Call} {now : Instant}
variable {index : Nat} {history : History} {front rest tasks : List Task} {task : Task}
variable {start : Session} {moments : List Moment}

/-- The number of the call that a task is, if it is one. -/
def Task.call? : Task → Option Nat
  | .caller index => some index
  | .monitor _ => none

/-- Monitors that were told to stop. -/
def Spent (session : Session) (tasks : List Task) : Prop :=
  ∀ task ∈ tasks, ∃ index, task = .monitor index ∧ session.Told index

/-- The calls in progress are those from this number on. They wait in the order in which they began,
and only monitors that were told to stop are ahead of the first. -/
structure Lined (session : Session) (index : Nat) (front rest : List Task) : Prop where
  queue : session.queue = front ++ .caller index :: rest
  spent : session.Spent front
  order : rest.filterMap Task.call? = List.range' (index + 1) (session.callers.length - (index + 1))

/-! ## Monitors that were told -/

/-- A monitor that was told to stop stays told. -/
theorem Told.after (told : session.Told index) (outcome : Transition now session event next call) :
    next.Told index := by
  obtain ⟨phase, found⟩ := told
  have known := (List.getElem?_eq_some_iff.mp found).1
  have there := Nat.lt_of_lt_of_le known (monitors_length_after outcome)
  obtain ⟨⟨cancelled, later⟩, after⟩ : ∃ monitor, next.monitors[index]? = some monitor :=
    ⟨_, List.getElem?_eq_getElem there⟩
  rcases monitor_before outcome after with new | ⟨old, before, becomes⟩
  · exact absurd known (Nat.not_lt_of_le new)
  · rw [found] at before
    cases before
    obtain rfl : cancelled = true := becomes.told rfl
    exact ⟨later, after⟩

theorem Spent.after (spent : session.Spent tasks) (outcome : Transition now session event next call) :
    next.Spent tasks := by
  intro task member
  obtain ⟨index, same, told⟩ := spent task member
  exact ⟨index, same, told.after outcome⟩

theorem Told.not_untold (told : session.Told index) :
    session.monitors[index]? ≠ some ⟨false, phase⟩ := by
  obtain ⟨earlier, found⟩ := told
  rw [found]
  nofun

/-- The monitors in the queue were told to stop, if those that were not are elsewhere. -/
theorem spent_of_queued (orderly : session.Orderly) (queued : ∀ task ∈ tasks, task ∈ session.queue)
    (monitors : tasks.filterMap Task.call? = [])
    (elsewhere : ∀ (position : Nat) phase, session.monitors[position]? = some ⟨false, phase⟩ →
      session.standing (.monitor position) = .absent) : session.Spent tasks := by
  intro task member
  cases task with
  | caller index => cases List.filterMap_eq_nil_iff.mp monitors _ member
  | monitor position =>
    have present := (orderly.mem_queue _).mp (queued _ member)
    cases found : session.monitors[position]? with
    | none => simp [standing, found] at present
    | some monitor =>
      obtain ⟨cancelled, phase⟩ := monitor
      cases cancelled with
      | true => exact ⟨position, rfl, phase, found⟩
      | false => exact absurd (elsewhere position phase found) present

/-! ## The first call in progress -/

theorem Lined.found (lined : Lined session index front rest) (orderly : session.Orderly) :
    ∃ caller, session.callers[index]? = some caller ∧ caller.inProgress = true := by
  have inside : Task.caller index ∈ session.queue := by
    rw [lined.queue]
    exact List.mem_append_right _ List.mem_cons_self
  have present := (orderly.mem_queue _).mp inside
  cases found : session.callers[index]? with
  | none => simp [standing, found] at present
  | some caller =>
    rw [ne_eq, standing_absent_iff found, Bool.not_eq_false] at present
    exact ⟨caller, rfl, present⟩

theorem Lined.not_idle (lined : Lined session index front rest) (orderly : session.Orderly) :
    ¬ session.Idle := by
  obtain ⟨caller, found, pending⟩ := lined.found orderly
  intro idle
  rw [idle caller (List.mem_of_getElem? found)] at pending
  cases pending

/-- The head of the queue is the first call in progress, or a monitor that was told to stop. -/
theorem Lined.head (lined : Lined session index front rest) (first : session.queue.head? = some task) :
    front = [] ∧ task = .caller index ∨
      ∃ position, task = .monitor position ∧ session.Told position := by
  rw [lined.queue] at first
  cases front with
  | nil => exact .inl ⟨rfl, (Option.some.inj first).symm⟩
  | cons ahead front =>
    cases first
    exact .inr (lined.spent _ List.mem_cons_self)

/-- A monitor that has its turn was told to stop. -/
theorem Lined.told_of_head (lined : Lined session index front rest)
    (first : session.queue.head? = some (.monitor position)) : session.Told position := by
  rcases lined.head first with ⟨_, other⟩ | ⟨same, monitor, told⟩
  · cases other
  · cases monitor
    exact told

theorem Lined.told_of_working (lined : Lined session index front rest) (orderly : session.Orderly)
    (works : session.standing (.monitor position) = .working made) : session.Told position :=
  lined.told_of_head (orderly.first _ _ works)

/-- A call that has its turn is the first in progress. -/
theorem Lined.first_of_head (lined : Lined session index front rest)
    (first : session.queue.head? = some (.caller position)) : front = [] ∧ position = index := by
  rcases lined.head first with ⟨nobody, same⟩ | ⟨monitor, other, _⟩
  · cases same
    exact ⟨nobody, rfl⟩
  · cases other

/-! ## While calls are in progress -/

/-- An event of the turn of a call. -/
def TurnOf (index : Nat) (event : Event) : Prop :=
  event = .granted (.caller index) ∨ ∃ reply, event = .answered (.caller index) reply

/-- What happens aside from the turns of calls: it leaves the lease and the signal alone and makes no
call to the manager. At most a call begins. -/
structure Aside (session : Session) (event : Event) (next : Session) (call : Option Manager.Call) :
    Prop where
  lease : next.lease = session.lease
  signal : next.signal = session.signal
  name : next.name = session.name
  ttl : next.ttl = session.ttl
  callers : ∃ more, next.callers = session.callers ++ more
  call : call = none
  event : ∀ index, ¬ TurnOf index event

private theorem order_of_joined {length : Nat} (within : index < length)
    (order : rest.filterMap Task.call? = List.range' (index + 1) (length - (index + 1))) :
    (rest ++ [Task.caller length]).filterMap Task.call? =
      List.range' (index + 1) (length + 1 - (index + 1)) := by
  have count : length + 1 - (index + 1) = length - (index + 1) + 1 := by omega
  have last : index + 1 + (length - (index + 1)) = length := by omega
  rw [List.filterMap_append, order, count, List.range'_concat, Nat.one_mul, last]
  rfl

theorem calls_erase_monitor (tasks : List Task) (position : Nat) :
    (tasks.erase (.monitor position)).filterMap Task.call? = tasks.filterMap Task.call? := by
  induction tasks with
  | nil => rfl
  | cons task tasks ih =>
    rw [List.erase_cons]
    split
    · rename_i same
      rw [eq_of_beq same]
      rfl
    · simp only [List.filterMap_cons, ih]

/-- A monitor that leaves the queue does not disturb the calls. -/
private theorem Lined.without (lined : Lined session index front rest) (spent : next.Spent front)
    (queue : next.queue = session.queue.erase (.monitor position))
    (callers : next.callers = session.callers) : ∃ front rest, Lined next index front rest := by
  rw [lined.queue, List.erase_append] at queue
  split at queue
  · refine ⟨_, rest, queue, fun task member => spent task (List.mem_of_mem_erase member), ?_⟩
    rw [callers, lined.order]
  · rw [List.erase_cons_tail (by simp)] at queue
    refine ⟨front, _, queue, spent, ?_⟩
    rw [callers, calls_erase_monitor, lined.order]

/-- While calls are in progress, all that happens is aside from them or in the turn of the first. -/
theorem Lined.step (lined : Lined session index front rest) (lived : Lived history session)
    (outcome : Transition now session event next call) (kept : ∀ caller, event ≠ .forgone caller) :
    (∃ front rest, Lined next index front rest) ∧ Aside session event next call ∨
      front = [] ∧ TurnOf index event := by
  have orderly := lived.orderly
  have step := outcome
  have spent : next.Spent front := lined.spent.after outcome
  obtain ⟨caller, present, pending⟩ := lined.found orderly
  have busy : session.callers.any Caller.inProgress ≠ false := by
    intro idle
    have still := List.any_eq_false.mp idle caller (List.mem_of_getElem? present)
    exact still pending
  cases outcome
  case began =>
    left
    rw [stopMonitor_eq] at spent ⊢
    refine ⟨⟨front, rest ++ [.caller session.callers.length], ?_, spent, ?_⟩,
      ⟨rfl, rfl, rfl, rfl, ⟨_, rfl⟩, rfl, ?_⟩⟩
    · simp [lined.queue]
    · rw [List.length_append]
      exact order_of_joined (List.getElem?_eq_some_iff.mp present).1 lined.order
    · rintro _ (turn | ⟨_, turn⟩) <;> cases turn
  case woke position _ _ _ _ _ =>
    left
    refine ⟨⟨front, rest ++ [.monitor position], ?_, spent, ?_⟩,
      ⟨rfl, rfl, rfl, rfl, ⟨[], by simp [setMonitor]⟩, rfl, ?_⟩⟩
    · simp [lined.queue]
    · rw [List.filterMap_append, lined.order]
      simp [Task.call?, setMonitor]
    · rintro _ (turn | ⟨_, turn⟩) <;> cases turn
  case noticed | retired | ignored =>
    refine .inl ⟨lined.without spent rfl rfl,
      ⟨rfl, rfl, rfl, rfl, ⟨[], (List.append_nil _).symm⟩, rfl, ?_⟩⟩
    rintro _ (turn | ⟨_, turn⟩) <;> cases turn
  case asked first queued _ _ | renews first queued _ _ =>
    exact absurd queued (lined.told_of_head first).not_untold
  case armed waits | postponed waits _ | denied waits _ | renewed waits | failed waits _ _ |
      expired waits _ _ | lost waits _ =>
    exact absurd waits (lined.told_of_working orderly (standing_monitor waits)).not_untold
  case found first _ _ | closed first _ _ _ | surrendered first _ _ _ =>
    obtain ⟨nobody, rfl⟩ := lined.first_of_head first
    exact .inr ⟨nobody, .inl rfl⟩
  case released waits | recreated waits | refused waits =>
    obtain ⟨nobody, rfl⟩ := lined.first_of_head (orderly.first _ _ (standing_caller waits))
    exact .inr ⟨nobody, .inr ⟨_, rfl⟩⟩
  case forgone position _ _ _ => exact absurd rfl (kept position)
  case dropped idle _ | deserted idle _ => exact absurd idle busy

/-! ## After a turn -/

/-- After a turn the lease was given up, or the call has made a new one. -/
theorem destroyed_after_turn (lived : Lived history session)
    (outcome : Transition now session event next call) (turn : TurnOf index event) :
    next.lease.state = .destroyed ∨
      ∃ made, event = .answered (.caller index) (.created (.ok made)) := by
  have fitting := lived.fitting
  cases outcome
  case found destroyed => exact .inl (by simpa [stopMonitor_eq] using destroyed)
  case closed | surrendered => left; simp [stopMonitor_eq, setCaller, fire]
  case released waits =>
    left
    have destroyed := fitting.caller _ _ (standing_caller waits)
    simpa [fire] using destroyed
  case refused waits => exact .inl (fitting.caller _ _ (standing_caller waits))
  case recreated =>
    right
    rcases turn with other | ⟨reply, same⟩
    · cases other
    · cases same
      exact ⟨_, rfl⟩
  all_goals rcases turn with other | ⟨reply, other⟩ <;> cases other

/-- After a turn, a monitor that was not told to stop sleeps. -/
theorem untold_absent_after_turn (lived : Lived history session)
    (stepped : session.step now event = some (next, call)) (turn : TurnOf index event)
    (untold : next.monitors[position]? = some ⟨false, phase⟩) :
    next.standing (.monitor position) = .absent := by
  have outcome := transition_of_step stepped
  have monitored := (Lived.happened lived stepped).monitored
  have held := monitored.untold position phase untold
  rcases destroyed_after_turn lived outcome turn with destroyed | ⟨made, rfl⟩
  · rw [monitored.destroyed destroyed] at held
    cases held
  · cases outcome
    case recreated =>
      rw [standing_monitor untold]
      rw [recreated_eq] at held untold
      obtain rfl : session.monitors.length = position := Option.some.inj held
      have asleep : Monitor.Phase.asleep now (session.arm now made).nextDelay = phase := by
        simpa [finish, leave, setCaller] using untold
      rw [← asleep]
      rfl

/-- The calls in progress are those in the queue. -/
theorem idle_iff (orderly : session.Orderly) :
    session.Idle ↔ session.queue.filterMap Task.call? = [] := by
  rw [List.filterMap_eq_nil_iff]
  constructor
  · rintro idle (position | position) member
    · rfl
    · exact absurd (idle.standing position) ((orderly.mem_queue _).mp member)
  · intro calls caller member
    obtain ⟨position, found⟩ := List.getElem?_of_mem member
    rw [← standing_absent_iff found]
    by_cases inside : Task.caller position ∈ session.queue
    · cases calls _ inside
    · exact Classical.not_not.mp fun present => inside ((orderly.mem_queue _).mpr present)

private theorem callers_length_of_turn (outcome : Transition now session event next call)
    (turn : TurnOf index event) : next.callers.length = session.callers.length := by
  cases outcome
  case found intent _ _ _ | closed intent _ _ _ _ | released intent _ _ =>
    cases intent <;> simp [afterTeardown, stopMonitor_eq, fire, setCaller, finish, leave]
  case surrendered | refused => simp [stopMonitor_eq, setCaller, finish, leave]
  case recreated =>
    rw [recreated_eq]
    simp [finish, leave, setCaller]
  all_goals rcases turn with other | ⟨_, other⟩ <;> cases other

/-- A call that has asked the manager for something keeps its turn. After a call that has not it is the
turn of the next one, which still waits, or no call is in progress any more. -/
theorem Lined.turn (lined : Lined session index [] rest) (lived : Lived history session)
    (stepped : session.step now event = some (next, call)) (turn : TurnOf index event) :
    (∃ made, call = some made) ∧ Lined next index [] rest ∨
      call = none ∧ next.queue = rest ∧ (next.Idle ∧ next.callers.length = index + 1 ∨
        next.standing (.caller (index + 1)) = .waiting ∧
          ∃ front rest, Lined next (index + 1) front rest) := by
  have outcome := transition_of_step stepped
  have orderly : next.Orderly := (Lived.happened lived stepped).orderly
  have about : session.subject event = some (.caller index) := by
    rcases turn with rfl | ⟨reply, rfl⟩ <;> rfl
  have count := callers_length_of_turn outcome turn
  have queue : session.queue = .caller index :: rest := lined.queue
  obtain ⟨caller, present, _⟩ := lined.found lived.orderly
  have known : index < session.callers.length := (List.getElem?_eq_some_iff.mp present).1
  have order := lined.order
  cases moved_of_subject outcome about with
  | joined before _ _ =>
    have inside : Task.caller index ∈ session.queue := by rw [queue]; exact List.mem_cons_self
    exact absurd before ((lived.orderly.mem_queue _).mp inside)
  | called _ _ same =>
    exact .inl ⟨⟨_, rfl⟩, ⟨same.trans lined.queue, nofun, by rw [count, order]⟩⟩
  | left _ left =>
    rw [queue, List.erase_cons_head] at left
    refine .inr ⟨rfl, left, ?_⟩
    cases calls : rest.filterMap Task.call? with
    | nil =>
      rw [calls, eq_comm, List.range'_eq_nil_iff] at order
      exact .inl ⟨(idle_iff orderly).mpr (left ▸ calls), by omega⟩
    | cons first others =>
      right
      rw [calls, eq_comm, List.range'_eq_cons_iff] at order
      obtain ⟨rfl, _, others⟩ := order
      obtain ⟨front, task, behind, rfl, before, same, after⟩ := List.filterMap_eq_cons_iff.mp calls
      obtain rfl : task = .caller (index + 1) := by
        cases task with
        | monitor => cases same
        | caller => cases same; rfl
      refine ⟨?_, front, behind, left, ?_, ?_⟩
      · have inside : Task.caller (index + 1) ∈ session.queue := by simp [queue]
        have present := (lived.orderly.mem_queue _).mp inside
        rw [standing_of_other outcome (by rw [about]; simp)]
        cases stands : session.standing (.caller (index + 1)) with
        | absent => exact absurd stands present
        | waiting => rfl
        | working made =>
          have head := lived.orderly.first _ _ stands
          simp [queue] at head
      · refine spent_of_queued orderly (fun task member => ?_) (List.filterMap_eq_nil_iff.mpr before)
          fun position phase => untold_absent_after_turn lived stepped turn
        rw [left]
        exact List.mem_append_left _ member
      · rw [after, others, count, Nat.sub_sub]

/-! ## Runs of calls that overlap -/

theorem Overlapping.ran (run : Overlapping start moments session) : Ran start moments session := by
  induction run with
  | began _ stepped => exact .moved .still stepped
  | moved _ _ _ stepped ih => exact .moved ih stepped

/-- A run goes on like this as long as a call is in progress and none is dropped. -/
theorem Overlapping.extend (run : Overlapping start moments session) (ran : Ran session later reached)
    (busy : ∀ moment ∈ later, ¬ moment.before.Idle ∧ moment.forgoes = false) :
    Overlapping start (later ++ moments) reached := by
  induction ran with
  | still => exact run
  | moved ran stepped ih =>
    obtain ⟨busy, keeps⟩ := List.forall_mem_cons.mp busy |>.imp_right ih
    refine .moved keeps busy.1 ?_ stepped
    rintro caller rfl
    cases busy.2

/-- The first call stands behind monitors that it has told to stop. -/
theorem lined_of_began (lived : Lived history session) (idle : session.Idle)
    (stepped : session.step now (.began intent) = some (next, call)) :
    Lined next session.callers.length session.queue [] ∧
      Aside session (.began intent) next call := by
  have orderly : next.Orderly := (Lived.happened lived stepped).orderly
  have monitored : next.Monitored := (Lived.happened lived stepped).monitored
  cases transition_of_step stepped
  case began =>
    rw [stopMonitor_eq] at orderly monitored ⊢
    refine ⟨⟨rfl, ?_, by simp⟩, ⟨rfl, rfl, rfl, rfl, ⟨_, rfl⟩, rfl, ?_⟩⟩
    case refine_2 => rintro _ (turn | ⟨_, turn⟩) <;> cases turn
    refine spent_of_queued orderly (fun task => List.mem_append_left _)
      ((idle_iff lived.orderly).mp idle) fun position phase untold => ?_
    have held := monitored.untold position phase untold
    cases held

/-- The calls of such a run are always in line, until all are over. -/
theorem Overlapping.lined (run : Overlapping start moments session) (lived : Lived history start) :
    session.Idle ∨ ∃ index front rest, Lined session index front rest := by
  induction run with
  | began idle stepped => exact .inr ⟨_, _, _, (lined_of_began lived idle stepped).1⟩
  | moved run busy kept stepped ih =>
    have there := run.ran.lived lived
    rcases ih with idle | ⟨index, front, rest, lined⟩
    · exact absurd idle busy
    · rcases lined.step there (transition_of_step stepped) kept with ⟨onward, _⟩ | ⟨rfl, turn⟩
      · exact .inr ⟨index, onward⟩
      · rcases lined.turn there stepped turn with ⟨_, onward⟩ | ⟨_, _, ⟨idle, _⟩ | ⟨_, onward⟩⟩
        · exact .inr ⟨_, _, _, onward⟩
        · exact .inl idle
        · exact .inr ⟨_, onward⟩

end Leasehold.Session
