import Leasehold.Proofs.Command.Runs

/-! Who waits for the answer to which request. Every request that is asked for has somebody who waits for
it, nobody waits for two requests at once, and an answer that comes too late reaches somebody who takes
no notice of it (`Tidy`). -/
namespace Leasehold.Command

/-- Whether the session is being given up or was. -/
def HoldStage.isLast : HoldStage → Bool
  | .leaving _ _ | .ended _ => true
  | _ => false

/-- Whether the session is there for the lock, and not being given up. -/
def HoldStage.isBusy : HoldStage → Bool
  | .trying _ | .pausing _ | .holding => true
  | .opening | .leaving _ _ | .ended _ => false

namespace Hold

/-- Who asks waits for the answer to a request. -/
def Waits (hold : Hold) (request : Backend.Request) : Asker → Prop
  | .opening => hold.session = none ∧ hold.stage = .opening ∧
    request = .create hold.plan.name hold.plan.ttl
  | .attempt => ∃ id, hold.stage = .trying id ∧
    request = Session.lockRequest hold.plan.key hold.plan.value id
  | .task task => ∃ session call, hold.session = some session ∧
    session.standing task = .working call ∧ request = call.request

/-- Who has asked takes no notice of the answer any more. -/
def Deaf (hold : Hold) : Asker → Prop
  | .opening => hold.session = none ∧ hold.stage.isLast = true
  | .attempt => hold.stage.isLast = true
  | .task task => ∃ session index, hold.session = some session ∧ task = .monitor index ∧
    session.Told index

/-- The requests of a run are in order. -/
structure Tidy (hold : Hold) (awaited : List (Asker × Backend.Request)) : Prop where
  /-- Nobody has two requests under way. -/
  apart : ((hold.asked ++ awaited).map Prod.fst).Nodup
  /-- For every request that is not yet made somebody waits. -/
  asked : ∀ entry ∈ hold.asked, hold.Waits entry.2 entry.1
  /-- For every request that was made somebody waits or is deaf. -/
  awaited : ∀ entry ∈ awaited, hold.Waits entry.2 entry.1 ∨ hold.Deaf entry.1

/-- An event that can happen to the session while these askers have requests under way: nobody drops the
session or a call, and what is answered is under way no longer. -/
def Befalls (askers : List Asker) : Session.Event → Prop
  | .answered task _ => .task task ∉ askers
  | .forgone _ | .dropped => False
  | _ => True

/-! ## What an event does to the requests -/

/-- Whether a request is still asked for after an event. -/
def spares : Session.Event → Asker × Backend.Request → Bool
  | .noticed index => fun entry => entry.1 ≠ .task (.monitor index)
  | _ => fun _ => true

/-- The request that is asked for because of an event. -/
def adds (event : Session.Event) (call : Option Manager.Call) : List (Asker × Backend.Request) :=
  match call, event with
  | some call, .granted task | some call, .answered task _ => [(.task task, call.request)]
  | _, _ => []

section
variable {hold : Hold} {awaited : List (Asker × Backend.Request)} {now : Instant}
variable {session next : Session} {event : Session.Event} {call : Option Manager.Call}
variable {history : Session.History} {made : Manager.Call} {task : Session.Task}

theorem happen_eq (held : hold.session = some session)
    (stepped : session.step now event = some (next, call)) :
    hold.happen now event = { hold with
      session := some next, asked := hold.asked.filter (spares event) ++ adds event call } := by
  unfold happen
  rw [held, Option.bind_some, stepped]
  have all : hold.asked.filter (fun _ => true) = hold.asked := List.filter_eq_self.mpr fun _ _ => rfl
  cases event <;> cases call <;> simp [withdraw, ask, spares, adds, all]

/-- An event that cannot happen changes nothing. -/
theorem happen_none (held : hold.session = some session)
    (stuck : session.step now event = none) : hold.happen now event = hold := by
  unfold happen
  rw [held, Option.bind_some, stuck]

/-- Who calls the manager asks for a request. -/
theorem adds_called (outcome : Session.Transition now session event next (some made)) :
    ∃ task, session.subject event = some task ∧ adds event (some made) = [(.task task, made.request)] := by
  obtain ⟨task, about, acts⟩ := Session.actor_of_call outcome
  refine ⟨task, about, ?_⟩
  cases event <;> simp_all [Session.Moment.actor?, adds]

theorem adds_quiet (event : Session.Event) : adds event none = [] := by
  cases event <;> rfl

/-! ## Requests stay in order -/

/-- For every request somebody waits or is deaf. -/
theorem Tidy.known {entry : Asker × Backend.Request} (tidy : hold.Tidy awaited)
    (member : entry ∈ hold.asked ++ awaited) : hold.Waits entry.2 entry.1 ∨ hold.Deaf entry.1 := by
  rcases List.mem_append.mp member with asked | made
  · exact .inl (tidy.asked entry asked)
  · exact tidy.awaited entry made

/-- Who has no request under way may ask for one. -/
theorem nodup_ask {asked : List (Asker × Backend.Request)} {asker : Asker}
    (apart : ((asked ++ awaited).map Prod.fst).Nodup)
    (free : asker ∉ (asked ++ awaited).map Prod.fst) (request : Backend.Request) :
    ((asked ++ [(asker, request)] ++ awaited).map Prod.fst).Nodup := by
  have order : (asked ++ [(asker, request)] ++ awaited).Perm ((asker, request) :: (asked ++ awaited)) := by
    rw [List.append_assoc]
    exact List.perm_middle
  rw [(order.map Prod.fst).nodup_iff, List.map_cons, List.nodup_cons]
  exact ⟨free, apart⟩

/-- Requests stay in order when some are withdrawn. -/
theorem Tidy.thinned (tidy : hold.Tidy awaited) (keeps : Asker × Backend.Request → Bool) :
    Tidy { hold with asked := hold.asked.filter keeps } awaited := by
  refine ⟨?_, fun entry member => tidy.asked entry (List.mem_filter.mp member).1, tidy.awaited⟩
  exact ((List.filter_sublist.append_right awaited).map Prod.fst).nodup tidy.apart

/-- Who waits goes on waiting after an event, except for a monitor that notices that it was told to
stop. -/
theorem Waits.after {asker : Asker} {request : Backend.Request} {asked : List (Asker × Backend.Request)}
    (waits : hold.Waits request asker) (held : hold.session = some session)
    (outcome : Session.Transition now session event next call) (befalls : Befalls askers event)
    (there : asker ∈ askers) :
    Waits { hold with session := some next, asked } request asker ∨
      ∃ index, event = .noticed index ∧ asker = .task (.monitor index) := by
  cases asker with
  | opening => rw [waits.1] at held; cases held
  | attempt => exact .inl waits
  | task task =>
    obtain ⟨_, made, same, works, rfl⟩ := waits
    rw [held] at same
    cases same
    by_cases about : session.subject event = some task
    · have relieved := Session.relieves_of_working outcome about works
      cases event with
      | noticed index =>
        right
        exact ⟨index, rfl, by simpa [Session.Moment.relieves, eq_comm] using relieved⟩
      | answered other reply =>
        cases about
        exact absurd there befalls
      | forgone | dropped => exact befalls.elim
      | began | woke | granted => simp [Session.Moment.relieves] at relieved
    · left
      exact ⟨next, made, rfl, (Session.standing_of_other outcome about).trans works, rfl⟩

/-- Who is deaf stays so. -/
theorem Deaf.after {asker : Asker} {asked : List (Asker × Backend.Request)} (deaf : hold.Deaf asker)
    (held : hold.session = some session)
    (outcome : Session.Transition now session event next call) :
    Deaf { hold with session := some next, asked } asker := by
  cases asker with
  | opening => rw [deaf.1] at held; cases held
  | attempt => exact deaf
  | task task =>
    obtain ⟨_, index, same, about, told⟩ := deaf
    rw [held] at same
    cases same
    exact ⟨next, index, rfl, about, told.after outcome⟩

/-- Who calls the manager has no other request under way. -/
theorem Tidy.unasked (tidy : hold.Tidy awaited) (held : hold.session = some session)
    (outcome : Session.Transition now session event next (some made))
    (befalls : Befalls ((hold.asked ++ awaited).map Prod.fst) event)
    (about : session.subject event = some task) :
    .task task ∉ (hold.asked ++ awaited).map Prod.fst := by
  obtain ⟨_, _, acts⟩ := Session.actor_of_call outcome
  cases event with
  | answered =>
    cases about
    exact befalls
  | granted =>
    cases about
    intro there
    obtain ⟨⟨asker, request⟩, member, rfl⟩ := List.mem_map.mp there
    rcases tidy.known member with ⟨_, call, same, works, -⟩ | ⟨_, index, same, rfl, told⟩
    · rw [held] at same
      cases same
      rw [Session.waiting_of_granted outcome] at works
      cases works
    · rw [held] at same
      cases same
      exact told.not_running (Session.running_of_call outcome rfl).1
  | began | woke | noticed | forgone | dropped => cases acts

/-- Events keep the requests in order. -/
theorem Tidy.happened (tidy : hold.Tidy awaited) (held : hold.session = some session)
    (outcome : Session.Transition now session event next call)
    (befalls : Befalls ((hold.asked ++ awaited).map Prod.fst) event) :
    Tidy { hold with
      session := some next, asked := hold.asked.filter (spares event) ++ adds event call } awaited := by
  have listed {entry : Asker × Backend.Request} (member : entry ∈ hold.asked ++ awaited) :
      entry.1 ∈ (hold.asked ++ awaited).map Prod.fst := List.mem_map_of_mem member
  have kept : (hold.asked.filter (spares event) ++ awaited).Sublist (hold.asked ++ awaited) :=
    List.filter_sublist.append_right awaited
  refine ⟨?_, ?_, ?_⟩
  · cases call with
    | none =>
      rw [adds_quiet, List.append_nil]
      exact (tidy.thinned (spares event)).apart
    | some made =>
      obtain ⟨task, about, added⟩ := adds_called outcome
      have new := tidy.unasked held outcome befalls about
      rw [added]
      exact nodup_ask (tidy.thinned (spares event)).apart
        (fun there => new ((kept.map Prod.fst).subset there)) made.request
  · intro entry member
    rcases List.mem_append.mp member with old | new
    · obtain ⟨there, spared⟩ := List.mem_filter.mp old
      rcases (tidy.asked entry there).after held outcome befalls
        (listed (List.mem_append_left _ there)) with waits | ⟨index, rfl, monitor⟩
      · exact waits
      · simp [spares, monitor] at spared
    · cases call with
      | none => rw [adds_quiet] at new; cases new
      | some made =>
        obtain ⟨task, about, added⟩ := adds_called outcome
        rw [added, List.mem_singleton] at new
        subst new
        cases Session.moved_of_subject outcome about with
        | called _ works _ => exact ⟨next, made, rfl, works, rfl⟩
  · intro entry member
    rcases tidy.awaited entry member with waits | deaf
    · rcases waits.after held outcome befalls (listed (List.mem_append_right _ member)) with
        waits | ⟨index, rfl, monitor⟩
      · exact .inl waits
      · right
        have told : session.Told index := by
          cases outcome with
          | noticed told => exact ⟨_, told⟩
        rw [monitor]
        exact ⟨next, index, rfl, rfl, told.after outcome⟩
    · exact .inr (deaf.after held outcome)

end

end Hold

end Leasehold.Command
