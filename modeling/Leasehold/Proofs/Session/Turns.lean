import Leasehold.Proofs.Session.Transition

/-! The monitors and the calls of a session take turns. `Standing` says how a task stands to the
turns; a step changes the standing of at most one task (`standing_of_other`, `moved_of_subject`), and
a session stays `Orderly`: whoever waits or works is in the queue, and only its head works. -/
namespace Leasehold.Session

/-- How a task stands to the turns of a session. -/
inductive Standing where
  /-- It neither has a turn nor waits for one. -/
  | absent
  /-- It waits for its turn. -/
  | waiting
  /-- It has its turn, and waits for the answer to this call. -/
  | working (call : Manager.Call)

/-- How a monitor in this phase stands. -/
def monitorStanding (session : Session) : Monitor.Phase → Standing
  | .asleep _ _ | .ended => .absent
  | .queued => .waiting
  | .creating => .working (.create session.name session.ttl)
  | .renewing id => .working (.renew id)

/-- How a call in this phase stands. -/
def callerStanding (session : Session) : Caller.Phase → Standing
  | .finished _ | .abandoned => .absent
  | .queued => .waiting
  | .destroying id => .working (.destroy id)
  | .creating => .working (.create session.name session.ttl)

/-- How a task stands. One that was never there is absent. -/
def standing (session : Session) : Task → Standing
  | .monitor index => (session.monitors[index]?).elim .absent fun monitor =>
    session.monitorStanding monitor.phase
  | .caller index => (session.callers[index]?).elim .absent fun caller =>
    session.callerStanding caller.phase

/-- The task that an event is about. -/
def subject (session : Session) : Event → Option Task
  | .began _ => some (.caller session.callers.length)
  | .woke index | .noticed index => some (.monitor index)
  | .granted task | .answered task _ => some task
  | .forgone index => some (.caller index)
  | .dropped => session.current.map .monitor

variable {session next : Session} {event : Event} {call : Option Manager.Call} {now : Instant}
variable {index : Nat} {task : Task}

/-! ## Standing after an update -/

theorem standing_monitor (found : session.monitors[index]? = some monitor) :
    session.standing (.monitor index) = session.monitorStanding monitor.phase := by
  simp [standing, found]

theorem standing_caller (found : session.callers[index]? = some caller) :
    session.standing (.caller index) = session.callerStanding caller.phase := by
  simp [standing, found]

/-- Who takes a turn has waited for it. -/
theorem waiting_of_granted (outcome : Transition now session (.granted task) next call) :
    session.standing task = .waiting := by
  cases outcome with
  | retired _ queued | asked _ queued | renews _ queued => exact standing_monitor queued
  | found _ queued | closed _ queued | surrendered _ queued => exact standing_caller queued

theorem standing_setMonitor_self (found : session.monitors[index]? = some monitor)
    (phase : Monitor.Phase) :
    (session.setMonitor index phase).standing (.monitor index) = session.monitorStanding phase := by
  simp [standing, setMonitor, found, monitorStanding]

theorem standing_setMonitor_other (other : task ≠ .monitor index) (phase : Monitor.Phase) :
    (session.setMonitor index phase).standing task = session.standing task := by
  cases task with
  | caller _ => rfl
  | monitor position =>
    have apart : index ≠ position := fun same => other (by rw [same])
    simp [standing, setMonitor, apart, monitorStanding]

/-- A monitor that has ended is absent, and so is one that was never there. -/
theorem standing_ended : (session.setMonitor index .ended).standing (.monitor index) = .absent := by
  cases found : session.monitors[index]? with
  | some monitor => exact standing_setMonitor_self found _
  | none => simp [standing, setMonitor, found]

theorem standing_setCaller_self (found : session.callers[index]? = some caller)
    (phase : Caller.Phase) :
    (session.setCaller index phase).standing (.caller index) = session.callerStanding phase := by
  simp [standing, setCaller, found, callerStanding]

theorem standing_setCaller_other (other : task ≠ .caller index) (phase : Caller.Phase) :
    (session.setCaller index phase).standing task = session.standing task := by
  cases task with
  | monitor _ => rfl
  | caller position =>
    have apart : index ≠ position := fun same => other (by rw [same])
    simp [standing, setCaller, apart, callerStanding]

/-- To be told to stop changes nobody's standing. -/
theorem standing_stopMonitor : session.stopMonitor.standing task = session.standing task := by
  rw [stopMonitor_eq]
  cases task with
  | caller _ => rfl
  | monitor position => simp [standing, monitorStanding, Function.comp_def]

/-- A new monitor sleeps first. -/
theorem standing_startMonitor : (session.startMonitor now).standing task = session.standing task := by
  rw [startMonitor_eq]
  cases task with
  | caller _ => rfl
  | monitor position =>
    simp only [standing, monitorStanding, List.getElem?_append, toldMonitors_length]
    split
    · cases found : session.monitors[position]? <;> simp [found]
    · rename_i beyond
      rw [List.getElem?_eq_none (Nat.le_of_not_lt beyond)]
      cases found : [Monitor.mk false (.asleep now session.nextDelay)][
        position - session.monitors.length]? with
      | none => rfl
      | some monitor =>
        obtain rfl := List.mem_singleton.mp (List.mem_of_getElem? found)
        rfl

/-- A call that begins waits for its turn. -/
theorem standing_began (intent : Intent) :
    standing { session.stopMonitor with
      callers := session.callers ++ [⟨intent, .queued⟩]
      queue := session.queue ++ [.caller session.callers.length] } task =
      if task = .caller session.callers.length then .waiting else session.standing task := by
  cases task with
  | monitor position =>
    rw [if_neg nofun, stopMonitor_eq]
    simp [standing, monitorStanding, Function.comp_def]
  | caller position =>
    rcases Nat.lt_trichotomy position session.callers.length with old | new | beyond
    · have apart : position ≠ session.callers.length := Nat.ne_of_lt old
      simp [standing, callerStanding, List.getElem?_append, stopMonitor_eq, old, apart]
    · simp [standing, callerStanding, new]
    · have apart : position ≠ session.callers.length := Nat.ne_of_gt beyond
      have absent : session.callers[position]? = none := List.getElem?_eq_none (Nat.le_of_lt beyond)
      have none : (session.callers ++ [⟨intent, .queued⟩])[position]? = none :=
        List.getElem?_eq_none (by rw [List.length_append]; exact beyond)
      simp only [standing, none, absent, Task.caller.injEq, apart, if_false, Option.elim_none]

/-! ## Standing after a step -/

/-- A step changes nobody's standing but that of its subject. -/
theorem standing_of_other (outcome : Transition now session event next call)
    (other : session.subject event ≠ some task) : next.standing task = session.standing task := by
  have apart : ∀ subject, session.subject event = some subject → task ≠ subject :=
    fun subject found same => other (same ▸ found)
  cases outcome
  case began intent _ => rw [standing_began, if_neg (apart _ rfl)]
  case woke | asked | renews => exact standing_setMonitor_other (apart _ rfl) _
  case noticed | retired | ignored | armed | postponed | denied | renewed | failed | expired | lost =>
    exact standing_setMonitor_other (apart _ rfl) _
  case found index intent _ _ _ =>
    cases intent <;>
      exact (standing_setCaller_other (apart _ rfl) _).trans standing_stopMonitor
  case closed index intent _ _ _ _ =>
    cases intent <;>
      exact (standing_setCaller_other (apart _ rfl) _).trans standing_stopMonitor
  case surrendered =>
    exact (standing_setCaller_other (apart _ rfl) _).trans standing_stopMonitor
  case released index outcome intent _ _ =>
    cases intent
    · exact @standing_setCaller_other session index task (apart _ rfl) (.finished none)
    · exact @standing_setCaller_other session index task (apart _ rfl) .creating
  case recreated =>
    exact (standing_setCaller_other (apart _ rfl) _).trans standing_startMonitor
  case refused index error _ _ =>
    exact @standing_setCaller_other session index task (apart _ rfl) (.finished (some error))
  case forgone index _ _ _ =>
    exact @standing_setCaller_other session index task (apart _ rfl) .abandoned
  case dropped index _ _ current =>
    exact (standing_setMonitor_other (apart _ (by simp [subject, current])) _).trans
      standing_stopMonitor
  case deserted => rfl

/-- What a step does to its subject, to the queue and to the manager. -/
inductive Moved (session next : Session) (task : Task) : Option Manager.Call → Prop where
  /-- The task joins the queue. -/
  | joined (before : session.standing task = .absent) (after : next.standing task = .waiting)
      (queue : next.queue = session.queue ++ [task]) : Moved session next task none
  /-- The task, whose turn it is, makes a call. -/
  | called (before : session.queue.head? = some task ∧ session.standing task = .waiting ∨
        ∃ call, session.standing task = .working call)
      (after : next.standing task = .working made) (queue : next.queue = session.queue) :
      Moved session next task (some made)
  /-- The task leaves the queue, if it stands there. -/
  | left (after : next.standing task = .absent) (queue : next.queue = session.queue.erase task) :
      Moved session next task none

private theorem moved_caller_ahead {ready : Session} (intent : Intent)
    (before : session.queue.head? = some (.caller index) ∧ session.standing (.caller index) = .waiting ∨
        ∃ call, session.standing (.caller index) = .working call)
    (queue : ready.queue = session.queue) (present : ready.callers[index]? = some caller) :
    Moved session (ready.afterTeardown index intent).1 (.caller index)
      (ready.afterTeardown index intent).2 := by
  cases intent with
  | destroy => exact .left (standing_setCaller_self present _) (by rw [← queue]; rfl)
  | recreate => exact .called before (standing_setCaller_self present _) queue

/-- A step lets its subject join the queue, make a call in its turn, or leave. -/
theorem moved_of_subject (outcome : Transition now session event next call)
    (about : session.subject event = some task) : Moved session next task call := by
  cases outcome
  all_goals
    simp only [subject, Option.some.injEq] at about
    try subst about
  case began intent alive =>
    exact .joined (by simp [standing]) ((standing_began intent).trans (if_pos rfl)) rfl
  case woke asleep _ =>
    exact .joined (standing_monitor asleep) (standing_setMonitor_self asleep _) rfl
  case noticed told _ => exact .left (standing_setMonitor_self told _) rfl
  case retired queued _ => exact .left (standing_setMonitor_self queued _) rfl
  case asked first queued _ _ =>
    exact .called (.inl ⟨first, standing_monitor queued⟩) (standing_setMonitor_self queued _) rfl
  case renews first queued _ _ =>
    exact .called (.inl ⟨first, standing_monitor queued⟩) (standing_setMonitor_self queued _) rfl
  case found first queued _ =>
    exact moved_caller_ahead _ (.inl ⟨first, standing_caller queued⟩) (by rw [stopMonitor_eq])
      (by rw [stopMonitor_eq]; exact queued)
  case closed first queued _ _ =>
    exact moved_caller_ahead _ (.inl ⟨first, standing_caller queued⟩)
      (by rw [stopMonitor_eq]; rfl) (by rw [stopMonitor_eq]; exact queued)
  case surrendered first queued _ _ =>
    refine .called (.inl ⟨first, standing_caller queued⟩) ?_ (by rw [stopMonitor_eq]; rfl)
    rw [stopMonitor_eq]
    exact standing_setCaller_self queued _
  case ignored told _ => exact .left (standing_setMonitor_self told _) rfl
  case armed waits => exact .left (standing_setMonitor_self waits _) rfl
  case postponed waits _ => exact .left (standing_setMonitor_self waits _) rfl
  case denied waits _ => exact .left (standing_setMonitor_self waits _) rfl
  case renewed waits => exact .left (standing_setMonitor_self waits _) rfl
  case failed waits _ _ => exact .left (standing_setMonitor_self waits _) rfl
  case expired waits _ _ => exact .left (standing_setMonitor_self waits _) rfl
  case lost waits _ => exact .left (standing_setMonitor_self waits _) rfl
  case released waits =>
    exact moved_caller_ahead _ (.inr ⟨_, standing_caller waits⟩) rfl waits
  case recreated waits =>
    rw [startMonitor_eq]
    exact .left (standing_setCaller_self waits _) rfl
  case refused waits => exact .left (standing_setCaller_self waits _) rfl
  case forgone found _ => exact .left (standing_setCaller_self found _) rfl
  case dropped index _ _ current =>
    obtain rfl : Task.monitor index = task := by simpa [current] using about
    rw [stopMonitor_eq]
    exact .left standing_ended rfl
  case deserted _ _ current => simp [current] at about

/-! ## Order -/

/-- The queue holds exactly the tasks that wait or work, each once, and only its head works. -/
structure Orderly (session : Session) : Prop where
  /-- Nobody stands in the queue twice. -/
  nodup : session.queue.Nodup
  /-- Whoever waits or works stands in the queue, and nobody else does. -/
  mem_queue : ∀ task, task ∈ session.queue ↔ session.standing task ≠ .absent
  /-- Whoever works is the head of the queue. -/
  first : ∀ task call, session.standing task = .working call → session.queue.head? = some task

private theorem head?_erase_of_ne {queue : List Task} {first task : Task}
    (head : queue.head? = some first) (other : first ≠ task) : (queue.erase task).head? = some first := by
  cases queue with
  | nil => cases head
  | cons _ rest =>
    cases head
    simp [other]

private theorem orderly_of_moved (orderly : session.Orderly) (moved : Moved session next task call)
    (others : ∀ other, other ≠ task → next.standing other = session.standing other) :
    next.Orderly := by
  cases moved with
  | joined before after queue =>
    have outside : task ∉ session.queue := fun inside => (orderly.mem_queue task).mp inside before
    refine ⟨?_, ?_, ?_⟩
    · rw [queue]
      exact List.nodup_append.mpr ⟨orderly.nodup, by simp, by
        rintro one inside _ (_ | ⟨_, ⟨⟩⟩) rfl; exact outside inside⟩
    · intro other
      by_cases same : other = task
      · simp [queue, same, after]
      · simp [queue, same, others other same, orderly.mem_queue other]
    · intro other call works
      by_cases same : other = task
      · rw [same, after] at works; cases works
      · rw [others other same] at works
        rw [queue, List.head?_append, orderly.first other call works]; rfl
  | called before after queue =>
    have head : session.queue.head? = some task := by
      rcases before with ⟨head, _⟩ | ⟨earlier, works⟩
      · exact head
      · exact orderly.first task earlier works
    refine ⟨queue ▸ orderly.nodup, ?_, ?_⟩
    · intro other
      by_cases same : other = task
      · simp [queue, same, after, List.mem_of_mem_head? head]
      · rw [queue, others other same, orderly.mem_queue other]
    · intro other call works
      by_cases same : other = task
      · rw [queue, same, head]
      · rw [others other same] at works
        rw [queue, orderly.first other call works]
  | left after queue =>
    refine ⟨queue ▸ orderly.nodup.erase task, ?_, ?_⟩
    · intro other
      rw [queue, orderly.nodup.mem_erase_iff]
      by_cases same : other = task
      · simp [same, after]
      · simp [same, others other same, orderly.mem_queue other]
    · intro other call works
      by_cases same : other = task
      · rw [same, after] at works; cases works
      · rw [others other same] at works
        rw [queue]
        exact head?_erase_of_ne (orderly.first other call works) same

/-- A session stays orderly. -/
theorem orderly_preserved (orderly : session.Orderly)
    (outcome : Transition now session event next call) : next.Orderly := by
  cases about : session.subject event with
  | some task =>
    exact orderly_of_moved orderly (moved_of_subject outcome about) fun other apart =>
      standing_of_other outcome (by rw [about]; exact fun same => apart (Option.some.inj same).symm)
  | none =>
    have others : ∀ other, next.standing other = session.standing other := fun other =>
      standing_of_other outcome (by rw [about]; nofun)
    have queue : next.queue = session.queue := by
      cases outcome <;> simp_all [subject]
    refine ⟨queue ▸ orderly.nodup, ?_, ?_⟩
    · intro other; rw [queue, others, orderly.mem_queue]
    · intro other call works; rw [queue]; exact orderly.first other call (others other ▸ works)

/-- A session begins with nobody who waits or works. -/
theorem orderly_fresh (fresh : session.Fresh now) : session.Orderly := by
  have absent : ∀ task, session.standing task = .absent := by
    intro task
    cases task with
    | caller index => simp [standing, fresh.callers]
    | monitor index => cases index <;> simp [standing, fresh.monitors, monitorStanding]
  refine ⟨by simp [fresh.queue], fun task => by simp [fresh.queue, absent], ?_⟩
  intro task call works
  rw [absent] at works
  cases works

end Leasehold.Session
