import Leasehold.Proofs.Session.Turns

/-! What has happened to a session, moment by moment. A session has `Lived` through a history when it
was opened with valid parameters and every moment was a step; nothing is assumed of the order of the
events, of the times or of the manager's answers. What a history says of leases and of calls in
flight is read off the events and the calls alone, so that it can be compared with the session. -/
namespace Leasehold.Session

/-- One thing that happened to a session, and the call to the manager that came of it. -/
structure Moment where
  /-- When it happened. -/
  now : Instant
  /-- The session before. -/
  before : Session
  /-- What happened. -/
  event : Event
  /-- The session afterwards. -/
  after : Session
  /-- The call that the session made. -/
  call : Option Manager.Call

/-- What has happened to a session since it was opened. -/
structure History where
  /-- What its opening was answered when it asked for a lease. -/
  first : Except Error String
  /-- All moments since, the latest first. -/
  moments : List Moment

/-- The history with one more moment. -/
def History.add (moment : Moment) (history : History) : History :=
  { history with moments := moment :: history.moments }

/-- A session with what has happened to it. -/
inductive Lived : History → Session → Prop where
  /-- It was opened with valid parameters. -/
  | opened (valid : validate span timing = .ok ())
      (opened : Session.opened now label span timing first = .ok session) :
      Lived ⟨first, []⟩ session
  /-- An event happened that can happen to it. -/
  | happened (lived : Lived history session)
      (stepped : session.step now event = some (next, call)) :
      Lived (history.add ⟨now, session, event, next, call⟩) next

variable {session next : Session} {event : Event} {call : Option Manager.Call} {now : Instant}
variable {task : Task} {history : History}

/-- Every session is orderly. -/
theorem Lived.orderly (lived : Lived history session) : session.Orderly := by
  induction lived with
  | opened _ opened => exact orderly_fresh (fresh_of_opened opened).1
  | happened _ stepped ih => exact orderly_preserved ih (transition_of_step stepped)

/-- Lets events happen one after the other and keeps the history, while they can happen. -/
def replay : History × Session → List (Instant × Event) → Option (History × Session)
  | reached, [] => some reached
  | (history, session), (now, event) :: rest =>
    match session.step now event with
    | some (next, call) => replay (history.add ⟨now, session, event, next, call⟩, next) rest
    | none => none

/-- Events that happen one after the other make a longer history. -/
theorem lived_of_replay (lived : Lived history session)
    (ran : replay (history, session) events = some (later, reached)) : Lived later reached := by
  induction events generalizing history session with
  | nil => cases ran; exact lived
  | cons event rest ih =>
    simp only [replay] at ran
    split at ran
    · rename_i stepped; exact ih (.happened lived stepped) ran
    · cases ran

/-- A session with default timing that has got its first lease and done nothing yet. -/
def opening : History × Session :=
  (⟨.ok "L1", []⟩, startMonitor 0
    { name := "a-session", ttl := .seconds 20, settings := {}, lease := ⟨"L1", .active, 0, 0⟩ })

theorem lived_opening : Lived opening.1 opening.2 := .opened (by rfl) rfl

/-! ## Leases -/

/-- Whether a task still takes notice of answers. A monitor that was told to stop does not. -/
def heeds (session : Session) : Task → Bool
  | .monitor index => (session.monitors[index]?).any fun monitor => !monitor.cancelled
  | .caller _ => true

/-- The id of the lease that a task got at this moment. -/
def Moment.made? (moment : Moment) : Option String :=
  match moment.event with
  | .answered task (.created (.ok id)) => if moment.before.heeds task then some id else none
  | _ => none

/-- The id of the lease that was passed to `destroy` at this moment. -/
def Moment.surrendered? (moment : Moment) : Option String :=
  match moment.call with
  | some (.destroy id) => some id
  | _ => none

/-- The ids that the session was answered when it asked for a lease, the latest first. -/
def History.made (history : History) : List String :=
  history.moments.filterMap Moment.made? ++ history.first.toOption.toList

/-- The ids that the session passed to `destroy`, the latest first. -/
def History.surrendered (history : History) : List String :=
  history.moments.filterMap Moment.surrendered?

theorem made_add (history : History) (moment : Moment) :
    (history.add moment).made = moment.made?.toList ++ history.made := by
  cases made : moment.made? <;> simp [History.made, History.add, made]

theorem surrendered_add (history : History) (moment : Moment) :
    (history.add moment).surrendered = moment.surrendered?.toList ++ history.surrendered := by
  cases surrendered : moment.surrendered? <;>
    simp [History.surrendered, History.add, surrendered]

/-! ## Calls in flight -/

/-- Whether a task's call is answered or abandoned at this moment: a monitor abandons its call when
it notices that it was told to stop, a caller's is abandoned with the caller, and the session that is
dropped ends the monitor that it can still tell. -/
def Moment.relieves (moment : Moment) (task : Task) : Bool :=
  match moment.event with
  | .answered answered _ => answered = task
  | .noticed index => .monitor index = task
  | .forgone index => .caller index = task
  | .dropped => moment.before.current.map .monitor = some task
  | .began _ | .woke _ | .granted _ => false

/-- The task that takes its turn or goes on with an answer at this moment. -/
def Moment.actor? (moment : Moment) : Option Task :=
  match moment.event with
  | .granted task | .answered task _ => some task
  | _ => none

/-- The calls that were made and neither answered nor abandoned, with the tasks that made them. -/
def callsInFlight : List Moment → List (Task × Manager.Call)
  | [] => []
  | moment :: earlier =>
    let open_ := (callsInFlight earlier).filter fun (task, _) => !moment.relieves task
    match moment.actor?, moment.call with
    | some task, some call => (task, call) :: open_
    | _, _ => open_

/-- The calls to the manager that are in flight after this history. -/
def History.inFlight (history : History) : List (Task × Manager.Call) :=
  callsInFlight history.moments

/-- Only the subject of an event can be relieved by it, and a subject that works always is. -/
theorem relieves_of_working (outcome : Transition now session event next call)
    (about : session.subject event = some task) (works : session.standing task = .working earlier) :
    Moment.relieves ⟨now, session, event, next, call⟩ task = true := by
  cases outcome
  all_goals simp only [subject, Option.some.injEq] at about
  case began => subst about; simp [standing] at works
  case woke asleep _ => subst about; rw [standing_monitor asleep] at works; cases works
  case noticed | forgone | ignored | armed | postponed | denied | renewed | failed | expired | lost |
      released | recreated | refused =>
    subst about; simp [Moment.relieves]
  case retired queued _ | asked queued _ _ | renews queued _ _ =>
    subst about; rw [standing_monitor queued] at works; cases works
  case found queued _ | closed queued _ _ | surrendered queued _ _ =>
    subst about; rw [standing_caller queued] at works; cases works
  case dropped | deserted => simpa [Moment.relieves] using about

/-- A call is made by the task that takes its turn or goes on. -/
theorem actor_of_call (outcome : Transition now session event next (some made)) :
    ∃ task, session.subject event = some task ∧
      Moment.actor? ⟨now, session, event, next, some made⟩ = some task := by
  generalize held : some made = call at outcome
  cases outcome <;> first | exact ⟨_, rfl, rfl⟩ | cases held

theorem callsInFlight_called (earlier : List Moment)
    (actor : Moment.actor? ⟨now, session, event, next, some made⟩ = some task) :
    callsInFlight (⟨now, session, event, next, some made⟩ :: earlier) =
      (task, made) :: (callsInFlight earlier).filter fun (task, _) =>
        !Moment.relieves ⟨now, session, event, next, some made⟩ task := by
  simp only [callsInFlight, actor]

theorem callsInFlight_quiet (earlier : List Moment) :
    callsInFlight (⟨now, session, event, next, none⟩ :: earlier) =
      (callsInFlight earlier).filter fun (task, _) =>
        !Moment.relieves ⟨now, session, event, next, none⟩ task := by
  simp only [callsInFlight]
  split <;> simp_all

private theorem still_working (outcome : Transition now session event next call)
    (works : session.standing task = .working earlier)
    (kept : Moment.relieves ⟨now, session, event, next, call⟩ task = false) :
    next.standing task = .working earlier := by
  have other : session.subject event ≠ some task := by
    intro about
    rw [relieves_of_working outcome about works] at kept
    cases kept
  rw [standing_of_other outcome other, works]

/-- A call in flight is one that its task waits for. -/
theorem Lived.working_of_inFlight (lived : Lived history session)
    (flies : (task, made) ∈ history.inFlight) : session.standing task = .working made := by
  induction lived generalizing task made with
  | opened => cases flies
  | @happened history session now event next call lived stepped ih =>
    have outcome := transition_of_step stepped
    cases call with
    | none =>
      rw [History.inFlight, History.add, callsInFlight_quiet, List.mem_filter] at flies
      exact still_working outcome (ih flies.1) (by simpa using flies.2)
    | some latest =>
      obtain ⟨actor, about, acts⟩ := actor_of_call outcome
      rw [History.inFlight, History.add, callsInFlight_called _ acts, List.mem_cons] at flies
      rcases flies with new | old
      · cases new
        cases moved_of_subject outcome about with
        | called _ after _ => exact after
      · rw [List.mem_filter] at old
        exact still_working outcome (ih old.1) (by simpa using old.2)

/-- At most one call is in flight. -/
theorem Lived.inFlight_length (lived : Lived history session) : history.inFlight.length ≤ 1 := by
  induction lived with
  | opened => exact Nat.zero_le 1
  | @happened history session now event next call lived stepped ih =>
    have outcome := transition_of_step stepped
    cases call with
    | none =>
      rw [History.inFlight, History.add, callsInFlight_quiet]
      exact Nat.le_trans (List.length_filter_le _ _) ih
    | some latest =>
      obtain ⟨actor, about, acts⟩ := actor_of_call outcome
      -- Whoever makes a call is the head of the queue, so that a call that still flies is its own.
      have head : session.queue.head? = some actor := by
        cases moved_of_subject outcome about with
        | called before _ _ =>
          rcases before with ⟨head, _⟩ | ⟨earlier, works⟩
          · exact head
          · exact lived.orderly.first actor earlier works
      have gone : (callsInFlight history.moments).filter (fun (task, _) =>
          !Moment.relieves ⟨now, session, event, next, some latest⟩ task) = [] := by
        rw [List.filter_eq_nil_iff]
        rintro ⟨task, made⟩ flies
        have works := lived.working_of_inFlight flies
        obtain rfl : actor = task :=
          Option.some.inj (head.symm.trans (lived.orderly.first task made works))
        simp [relieves_of_working outcome about works]
      rw [History.inFlight, History.add, callsInFlight_called _ acts, gone]
      exact Nat.le_refl 1

end Leasehold.Session
