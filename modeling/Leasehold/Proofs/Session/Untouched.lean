import Leasehold.Proofs.Session.Failures
import Leasehold.Proofs.Session.Progress

/-! A session before it is torn down. Until a call has its turn, the session is in its first generation and
its calls wait (`Untouched`); nobody but the first monitor works, and until a call begins that monitor was
not told to stop. -/
namespace Leasehold.Session

open Tolerance (Workable)

/-- Whether an event tears a session down, or drops a call that was to do so and has told the monitor to
stop. -/
def Event.touches : Event → Bool
  | .granted (.caller _) | .forgone _ | .dropped => true
  | .began _ | .woke _ | .noticed _ | .granted (.monitor _) | .answered _ _ => false

/-- A session is in its first generation, and its calls wait for their turns. -/
structure Untouched (session : Session) : Prop where
  /-- No generation is over. -/
  first : session.signal.past = []
  /-- All calls wait. -/
  callers : ∀ caller ∈ session.callers, caller.phase = .queued
  /-- Until there is a call, the monitor can be told to stop. -/
  current : session.callers = [] → session.current = some 0

/-- The call to the manager that is made at this moment, with the task that makes it. -/
def Moment.asks? (moment : Moment) : Option (Task × Manager.Call) :=
  match moment.actor?, moment.call with
  | some task, some call => some (task, call)
  | _, _ => none

variable {session next : Session} {event : Event} {call : Option Manager.Call} {now since : Instant}
variable {index : Nat} {task : Task} {made : Manager.Call} {wait : Duration} {history : History}

theorem untouched_fresh (fresh : session.Fresh now) : session.Untouched := by
  refine ⟨by rw [fresh.signal], ?_, fun _ => fresh.current⟩
  rw [fresh.callers]
  rintro _ ⟨⟩

theorem untouched_preserved (untouched : session.Untouched)
    (outcome : Transition now session event next call) (quiet : event.touches = false) :
    next.Untouched := by
  have idle (index : Nat) (intent : Intent) (phase : Caller.Phase)
      (found : session.callers[index]? = some ⟨intent, phase⟩) : phase = .queued :=
    untouched.callers _ (List.mem_of_getElem? found)
  cases outcome
  case began =>
    rw [stopMonitor_eq]
    refine ⟨untouched.first, ?_, by simp⟩
    intro caller member
    rcases List.mem_append.mp member with old | new
    · exact untouched.callers caller old
    · cases List.mem_singleton.mp new
      rfl
  case found | closed | surrendered | forgone | dropped | deserted => cases quiet
  case released waits | recreated waits | refused waits => cases idle _ _ _ waits
  all_goals exact ⟨untouched.first, untouched.callers, untouched.current⟩

/-- No call works. -/
theorem Untouched.caller_rests (untouched : session.Untouched) :
    session.standing (.caller index) ≠ .working made := by
  cases found : session.callers[index]? with
  | none => simp [standing, found]
  | some caller =>
    rw [standing_caller found, untouched.callers caller (List.mem_of_getElem? found)]
    rintro ⟨⟩

/-- Until a call begins there is one monitor, which was not told to stop. -/
theorem Untouched.attended (untouched : session.Untouched) (monitored : session.Monitored)
    (nobody : session.callers = []) : ∃ phase, session.monitors = [⟨false, phase⟩] := by
  have count := monitored.count
  rw [untouched.first, List.length_nil, Nat.zero_add, List.length_eq_one_iff] at count
  obtain ⟨monitor, only⟩ := count
  obtain ⟨-, phase, found⟩ := monitored.current 0 (untouched.current nobody)
  rw [only, List.getElem?_cons_zero, Option.some.injEq] at found
  exact ⟨phase, by rw [only, found]⟩

/-! ## Steps -/

/-- A monitor that makes a call was not told to stop. -/
theorem untold_of_asks? (outcome : Transition now session event next call)
    (asks : Moment.asks? ⟨now, session, event, next, call⟩ = some (.monitor index, made)) :
    ∃ phase, next.monitors[index]? = some ⟨false, phase⟩ := by
  cases outcome
  case asked queued _ _ | renews queued _ _ =>
    cases asks
    simp [setMonitor, queued]
  case found intent _ _ _ | closed intent _ _ _ _ | released intent _ _ => cases intent <;> cases asks
  all_goals cases asks

/-- If at most the subject of a step works before it, then whoever works after it has just made the call. -/
theorem standing_iff_asks? (outcome : Transition now session event next call)
    (sole : ∀ task made, session.standing task = .working made → session.subject event = some task) :
    next.standing task = .working made ↔
      Moment.asks? ⟨now, session, event, next, call⟩ = some (task, made) := by
  constructor
  · intro works
    rcases working_after outcome works with worked | ⟨about, rfl⟩
    · have about := sole task made worked
      cases moved_of_subject outcome about with
      | joined _ after _ => rw [after] at works; cases works
      | left after _ => rw [after] at works; cases works
      | called _ after _ =>
        rw [after] at works
        cases works
        obtain ⟨actor, acts, same⟩ := actor_of_call outcome
        obtain rfl : task = actor := Option.some.inj (about.symm.trans acts)
        simp [Moment.asks?, same]
    · obtain ⟨actor, acts, same⟩ := actor_of_call outcome
      obtain rfl : task = actor := Option.some.inj (about.symm.trans acts)
      simp [Moment.asks?, same]
  · intro asks
    unfold Moment.asks? at asks
    split at asks
    · rename_i actor latest acts called
      cases asks
      dsimp only at called
      subst called
      obtain ⟨same, about, actor⟩ := actor_of_call outcome
      obtain rfl : same = task := Option.some.inj (actor.symm.trans acts)
      cases moved_of_subject outcome about with
      | called _ after _ => exact after
    · cases asks

/-- A step that is neither an answer nor touches the session leaves its lease. -/
theorem lease_of_quiet (outcome : Transition now session event next call)
    (quiet : event.touches = false) (unanswered : ∀ task reply, event ≠ .answered task reply) :
    next.lease = session.lease := by
  cases outcome
  case began => rw [stopMonitor_eq]
  case woke | noticed | retired | asked | renews => rfl
  case found | closed | surrendered | forgone | dropped | deserted => cases quiet
  all_goals exact absurd rfl (unanswered _ _)

/-- Nobody falls asleep at a step that is neither an answer nor touches the session. -/
theorem asleep_before (outcome : Transition now session event next call)
    (quiet : event.touches = false) (unanswered : ∀ task reply, event ≠ .answered task reply)
    (sleeps : next.monitors[index]? = some ⟨false, .asleep since wait⟩) :
    session.monitors[index]? = some ⟨false, .asleep since wait⟩ := by
  have still {position : Nat} {phase : Monitor.Phase}
      (sleeps : (session.setMonitor position phase).monitors[index]? =
        some ⟨false, .asleep since wait⟩) (awake : phase ≠ .asleep since wait) :
      session.monitors[index]? = some ⟨false, .asleep since wait⟩ := by
    rcases untold_of_setMonitor sleeps with same | ⟨same, -⟩
    · exact same
    · exact absurd same.symm awake
  cases outcome
  case began =>
    rw [stopMonitor_eq] at sleeps
    exact untold_of_told sleeps
  case woke | noticed | retired | asked | renews => exact still sleeps nofun
  case found | closed | surrendered | forgone | dropped | deserted => cases quiet
  all_goals exact absurd rfl (unanswered _ _)

/-- A monitor that is answered ends, or sleeps for a while. -/
theorem monitor_answered {reply : Manager.Reply} (workable : Workable session.ttl session.settings)
    (outcome : Transition now session (.answered (.monitor index) reply) next call) :
    next.callers = session.callers ∧ ∃ phase,
      next.monitors = (session.setMonitor index phase).monitors ∧
        (phase = .ended ∨ ∃ wait, phase = .asleep now wait ∧ 0 < wait.nanos) := by
  cases outcome
  case ignored | denied | expired | lost => exact ⟨rfl, .ended, rfl, .inl rfl⟩
  case armed | postponed | renewed | failed =>
    refine ⟨rfl, .asleep now _, rfl, .inr ⟨_, rfl, nextDelay_pos ?_⟩⟩
    exact workable

/-- A monitor that has its turn ends or makes a call. -/
theorem monitor_granted (outcome : Transition now session (.granted (.monitor index)) next call) :
    next.callers = session.callers ∧ ∃ phase,
      next.monitors = (session.setMonitor index phase).monitors ∧
        (phase = .ended ∨ phase = .creating ∨ ∃ id, phase = .renewing id) := by
  cases outcome
  case retired => exact ⟨rfl, .ended, rfl, .inl rfl⟩
  case asked => exact ⟨rfl, .creating, rfl, .inr (.inl rfl)⟩
  case renews => exact ⟨rfl, .renewing _, rfl, .inr (.inr ⟨_, rfl⟩)⟩

/-! ## Rest -/

/-- While the head of the queue waits, something happens by itself. -/
theorem ready?_ne_none (head : session.queue.head? = some task)
    (waits : session.standing task = .waiting) : session.ready? ≠ none := by
  obtain ⟨rest, queue⟩ := List.head?_eq_some_iff.mp head
  unfold ready?
  split
  · nofun
  cases task with
  | monitor index =>
    cases found : session.monitors[index]? with
    | none => simp [standing, found] at waits
    | some monitor =>
      obtain ⟨cancelled, phase⟩ := monitor
      rw [standing_monitor found] at waits
      cases phase <;> cases waits
      simp [queue, found]
  | caller index =>
    cases found : session.callers[index]? with
    | none => simp [standing, found] at waits
    | some caller =>
      obtain ⟨intent, phase⟩ := caller
      rw [standing_caller found] at waits
      cases phase <;> cases waits
      simp [queue, found]

/-- When nothing happens by itself and nobody works, nobody stands in the queue. -/
theorem Orderly.queue_eq_nil (orderly : session.Orderly) (rests : session.ready? = none)
    (free : ∀ task made, session.standing task ≠ .working made) : session.queue = [] := by
  cases queue : session.queue with
  | nil => rfl
  | cons task rest =>
    have present := (orderly.mem_queue task).mp (queue ▸ List.mem_cons_self)
    cases stands : session.standing task with
    | absent => exact absurd stands present
    | waiting => exact absurd rests (ready?_ne_none (by rw [queue]; rfl) stands)
    | working made => exact absurd stands (free task made)

/-- When nothing happens by itself and nobody works, no call has begun. -/
theorem Untouched.nobody (untouched : session.Untouched) (orderly : session.Orderly)
    (rests : session.ready? = none) (free : ∀ task made, session.standing task ≠ .working made) :
    session.callers = [] := by
  cases callers : session.callers with
  | nil => rfl
  | cons caller others =>
    have found : session.callers[0]? = some caller := by rw [callers]; rfl
    have waits : session.standing (.caller 0) = .waiting := by
      rw [standing_caller found, untouched.callers caller (List.mem_of_getElem? found)]
      rfl
    have queued := (orderly.mem_queue (.caller 0)).mpr (by rw [waits]; nofun)
    rw [orderly.queue_eq_nil rests free] at queued
    cases queued

end Leasehold.Session
