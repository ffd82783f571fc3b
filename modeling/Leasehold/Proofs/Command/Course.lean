import Mathlib.Logic.Basic
import Leasehold.Proofs.Command.Accounts
import Leasehold.Proofs.Session.Locking

/-! The course of a run. A run is `Sound` at its beginning, and everything that the program does keeps it
so: it is somewhere between opening its session and having given it up, its requests are tidy, and the
account of its leases is in order. -/
namespace Leasehold.Command

/-- Where a run is, by its session and its stage. -/
inductive Placed (own : Option Session) (stage : HoldStage) : Prop where
  /-- There is no session yet. -/
  | opening (without : own = none) (opening : stage = .opening)
  /-- There is no session and there will be none. -/
  | failed (without : own = none) (ended : stage = .ended ending)
  /-- There is a session, and nobody has called on it. -/
  | busy (held : own = some session) (lived : Session.Lived history session)
      (alive : session.isDropped = false) (nobody : session.callers = []) (going : stage.isBusy = true)
  /-- The session is being given up, or was. -/
  | leaving (held : own = some session) (lived : Session.Lived history session)
      (sole : session.callers = [⟨.destroy, phase⟩])
      (destroyed : ∀ problem, phase = .finished problem → session.lease.state = .destroyed)
      (last : stage = .leaving ending 0 ∨
        stage = .ended ending ∧ ∃ problem, phase = .finished problem)

/-- A run is in order, with the requests that were made and the leases that it had. -/
structure Sound (plan : HoldPlan) (made : List Backend.Request) (leases : List String) (hold : Hold)
    (awaited : List (Asker × Backend.Request)) : Prop where
  valid : Session.validate plan.ttl plan.settings = .ok ()
  planned : hold.plan = plan
  placed : Placed hold.session hold.stage
  tidy : hold.Tidy awaited
  account : Account plan hold.session hold.asked made leases

section
variable {plan : HoldPlan} {made : List Backend.Request} {leases : List String} {hold : Hold}
variable {awaited : List (Asker × Backend.Request)} {session next : Session} {now : Instant}
variable {event : Session.Event} {call : Option Manager.Call} {ending : HoldEnd}
variable {asker : Asker} {request : Backend.Request}

/-- With its session a run is on its way to the lock, or on its way back. -/
theorem Placed.of_held {own : Option Session} {stage : HoldStage} (placed : Placed own stage)
    (held : own = some session) :
    (∃ history, Session.Lived history session ∧ session.isDropped = false ∧ session.callers = [] ∧
      stage.isBusy = true) ∨
    ∃ history phase ending, Session.Lived history session ∧ session.callers = [⟨.destroy, phase⟩] ∧
      (∀ problem, phase = .finished problem → session.lease.state = .destroyed) ∧
      (stage = .leaving ending 0 ∨ stage = .ended ending ∧ ∃ problem, phase = .finished problem) := by
  cases placed with
  | opening without | failed without => rw [without] at held; cases held
  | busy same lived alive nobody going =>
    rw [held] at same
    cases same
    exact .inl ⟨_, lived, alive, nobody, going⟩
  | leaving same lived sole destroyed last =>
    rw [held] at same
    cases same
    exact .inr ⟨_, _, _, lived, sole, destroyed, last⟩

/-- A session of a run that is not yet being given up. -/
theorem Placed.busy_of (placed : Placed hold.session hold.stage) (held : hold.session = some session)
    (stage : hold.stage.isBusy = true) :
    ∃ history, Session.Lived history session ∧ session.isDropped = false ∧ session.callers = [] := by
  rcases placed.of_held held with ⟨_, lived, alive, nobody, -⟩ | ⟨_, _, _, _, _, _, leaving | ⟨ended, -⟩⟩
  · exact ⟨_, lived, alive, nobody⟩
  · rw [leaving] at stage; cases stage
  · rw [ended] at stage; cases stage

/-- Nobody calls on the session of a run but to give it up. -/
theorem Placed.lived (placed : Placed hold.session hold.stage) (held : hold.session = some session) :
    ∃ history, Session.Lived history session ∧ session.OnlyDestroys := by
  rcases placed.of_held held with ⟨_, lived, _, nobody, -⟩ | ⟨_, _, _, lived, sole, -⟩
  · exact ⟨_, lived, by simp [Session.OnlyDestroys, nobody]⟩
  · exact ⟨_, lived, by simp [Session.OnlyDestroys, sole]⟩

/-! ## Requests of a run whose stage changes -/

/-- Whoever seeks the lock is at it, until the session is given up. -/
theorem Hold.Tidy.not_seeking (tidy : hold.Tidy awaited) (stage : hold.stage.isLast = false)
    (idle : ∀ id, hold.stage ≠ .trying id) :
    .attempt ∉ (hold.asked ++ awaited).map Prod.fst := by
  intro there
  obtain ⟨⟨asker, request⟩, member, rfl⟩ := List.mem_map.mp there
  rcases tidy.known member with ⟨id, trying, -⟩ | last
  · exact idle id trying
  · exact absurd (last.symm.trans stage) nofun

/-- The stage of a run with a session may change while nobody seeks the lock, or if whoever still does
is not listened to any more. -/
theorem Hold.Tidy.restaged (tidy : hold.Tidy awaited) (held : hold.session = some session)
    (stage : HoldStage) (lines : List String) (unasked : ∀ entry ∈ hold.asked, entry.1 ≠ .attempt)
    (last : stage.isLast = true ∨ ∀ entry ∈ awaited, entry.1 ≠ .attempt) :
    Hold.Tidy { hold with stage, lines } awaited := by
  have waits {entry : Asker × Backend.Request} (other : entry.1 ≠ .attempt)
      (before : hold.Waits entry.2 entry.1) : Hold.Waits { hold with stage, lines } entry.2 entry.1 := by
    obtain ⟨asker, request⟩ := entry
    cases asker with
    | opening => rw [before.1] at held; cases held
    | attempt => exact absurd rfl other
    | task task => exact before
  refine ⟨tidy.apart, fun entry member => waits (unasked entry member) (tidy.asked entry member), ?_⟩
  rintro ⟨asker, request⟩ member
  rcases tidy.awaited _ member with before | deaf
  · by_cases same : asker = .attempt
    · subst same
      rcases last with last | unawaited
      · exact .inr last
      · exact absurd rfl (unawaited _ member)
    · exact .inl (waits same before)
  · cases asker with
    | opening => rw [deaf.1] at held; cases held
    | task task => exact .inr deaf
    | attempt =>
      rcases last with last | unawaited
      · exact .inr last
      · exact absurd rfl (unawaited _ member)

/-- Who is not among the askers has no request under way. -/
theorem not_asking (free : asker ∉ (hold.asked ++ awaited).map Prod.fst) :
    (∀ entry ∈ hold.asked, entry.1 ≠ asker) ∧ ∀ entry ∈ awaited, entry.1 ≠ asker := by
  refine ⟨fun entry member same => free ?_, fun entry member same => free ?_⟩
  · exact List.mem_map.mpr ⟨entry, List.mem_append_left _ member, same⟩
  · exact List.mem_map.mpr ⟨entry, List.mem_append_right _ member, same⟩

/-- An attempt to lock the key begins when none is under way. -/
theorem Hold.Tidy.seeks (tidy : hold.Tidy awaited) (held : hold.session = some session)
    (free : .attempt ∉ (hold.asked ++ awaited).map Prod.fst) (id : String) :
    Hold.Tidy ({ hold with stage := .trying id }.ask .attempt
      (Session.lockRequest hold.plan.key hold.plan.value id)) awaited := by
  obtain ⟨unasked, unawaited⟩ := not_asking free
  have restaged := tidy.restaged held (.trying id) hold.lines unasked (.inr unawaited)
  refine ⟨Hold.nodup_ask tidy.apart free _, fun entry member => ?_, restaged.awaited⟩
  · rcases List.mem_append.mp member with old | new
    · exact restaged.asked entry old
    · rw [List.mem_singleton.mp new]
      exact ⟨id, rfl, rfl⟩

/-! ## Events of the session -/

/-- When a call takes its turn, nothing is asked for any more. -/
theorem Sound.free_of_turn (sound : Sound plan made leases hold awaited)
    (held : hold.session = some session)
    (outcome : Session.Transition now session event next call) (index : Nat)
    (turn : event = .granted (.caller index)) : index = 0 ∧ pressing hold.asked = [] := by
  have found : session.queue.head? = some (.caller index) ∧
      ∃ intent, session.callers[index]? = some ⟨intent, .queued⟩ := by
    subst turn
    cases outcome with
    | found first queued | closed first queued | surrendered first queued =>
      exact ⟨first, _, queued⟩
  obtain ⟨first, intent, queued⟩ := found
  rcases sound.placed.of_held held with ⟨_, _, _, nobody, -⟩ | ⟨_, _, _, lived, sole, _, stage⟩
  · rw [nobody] at queued
    cases queued
  · rw [sole, List.getElem?_singleton] at queued
    split at queued
    case isFalse => cases queued
    rename_i first_call
    subst first_call
    refine ⟨rfl, ?_⟩
    apply List.eq_nil_iff_forall_not_mem.mpr
    rintro ⟨asker, request⟩ member
    have waits := sound.tidy.asked _ (mem_pressing.mp member).1
    cases asker with
    | opening => rw [waits.1] at held; cases held
    | attempt =>
      obtain ⟨id, trying, -⟩ := waits
      rcases stage with leaving | ⟨ended, -⟩
      · rw [leaving] at trying; cases trying
      · rw [ended] at trying; cases trying
    | task task =>
      obtain ⟨_, made, same, works, -⟩ := waits
      rw [held] at same
      cases same
      -- Only the head of the queue works, and that is the call, which waits.
      have head := lived.orderly.first task made works
      rw [first] at head
      cases head
      rw [Session.standing_caller (by rw [sole]; rfl)] at works
      cases queued
      cases works

/-- Events of the session keep a run sound. -/
theorem Sound.happened (sound : Sound plan made leases hold awaited)
    (befalls : Hold.Befalls ((hold.asked ++ awaited).map Prod.fst) event)
    (quiet : ∀ intent, event ≠ .began intent) (now : Instant) :
    Sound plan made leases (hold.happen now event) awaited := by
  cases held : hold.session with
  | none =>
    have same : hold.happen now event = hold := by rw [Hold.happen, held]; rfl
    rwa [same]
  | some session =>
    cases stepped : session.step now event with
    | none => rwa [Hold.happen_none held stepped]
    | some reached =>
      obtain ⟨next, call⟩ := reached
      obtain ⟨history, lived, destroys⟩ := sound.placed.lived held
      have outcome := Session.transition_of_step stepped
      have account := sound.account
      rw [held] at account
      rw [Hold.happen_eq held stepped]
      refine ⟨sound.valid, sound.planned, ?_, sound.tidy.happened held outcome befalls,
        account.happened lived destroys outcome (sound.free_of_turn held outcome)⟩
      rcases sound.placed.of_held held with
        ⟨_, lived, alive, nobody, stage⟩ | ⟨_, _, _, lived, sole, destroyed, stage⟩
      · have awake : next.isDropped = false := by
          rcases Session.isDropped_after outcome with same | ⟨rfl, -⟩
          · rw [same, alive]
          · exact befalls.elim
        exact .busy rfl (.happened lived stepped) awake
          (Session.callers_nil_after outcome nobody quiet) stage
      · have patient (index : Nat) : event ≠ .forgone index := by
          rintro rfl
          exact befalls
        obtain ⟨later, only, stays, finished⟩ :=
          Session.callers_sole_after lived outcome sole quiet patient
        refine .leaving rfl (.happened lived stepped) only (fun problem isOver => ?_)
          (stage.imp_right fun ⟨ended, problem, isOver⟩ =>
            ⟨ended, problem, (stays problem isOver).trans isOver⟩)
        rcases finished problem isOver with before | gone
        · exact Session.destroyed_after lived destroys outcome (destroyed problem (before.trans isOver))
        · exact gone

/-! ## What the program does -/

/-- The stage of a run that has a session may change until the session is given up, while nobody seeks the
lock. -/
theorem Sound.restaged (sound : Sound plan made leases hold awaited)
    (held : hold.session = some session) (before : hold.stage.isBusy = true)
    (free : .attempt ∉ (hold.asked ++ awaited).map Prod.fst) (stage : HoldStage)
    (lines : List String) (after : stage.isBusy = true) :
    Sound plan made leases { hold with stage, lines } awaited := by
  obtain ⟨history, lived, alive, nobody⟩ := sound.placed.busy_of held before
  obtain ⟨unasked, unawaited⟩ := not_asking free
  exact ⟨sound.valid, sound.planned, .busy held lived alive nobody after,
    sound.tidy.restaged held stage lines unasked (.inr unawaited), sound.account⟩

/-- A session that is given up is called on for that. -/
theorem Sound.leaves (sound : Sound plan made leases hold awaited)
    (held : hold.session = some session) (before : hold.stage.isBusy = true) (now : Instant)
    (ending : HoldEnd) : Sound plan made leases (hold.leave now ending) awaited := by
  obtain ⟨history, lived, alive, nobody⟩ := sound.placed.busy_of held before
  have outcome : Session.Transition now session (.began .destroy) _ none := .began .destroy alive
  have stepped := Session.step_of_transition outcome
  have destroys : session.OnlyDestroys := by simp [Session.OnlyDestroys, nobody]
  have tidy : (Hold.withdraw { hold with stage := .leaving ending session.callers.length }
      .attempt).Tidy awaited := by
    refine (sound.tidy.thinned fun entry => entry.1 ≠ .attempt).restaged held
      (.leaving ending session.callers.length) hold.lines (fun entry member => ?_) (.inl rfl)
    simpa using (List.mem_filter.mp member).2
  have account := sound.account.thinned (fun entry => entry.1 ≠ .attempt) (fun _ => by simp)
  rw [held] at account
  have same : hold.leave now ending = (Hold.withdraw { hold with
      stage := .leaving ending session.callers.length } .attempt).happen now (.began .destroy) := by
    rw [Hold.leave, held]
  have kept : (Hold.withdraw { hold with
      stage := .leaving ending session.callers.length } .attempt).session = some session := held
  rw [same, Hold.happen_eq kept stepped]
  refine ⟨sound.valid, sound.planned, ?_, tidy.happened kept outcome trivial,
    account.happened lived destroys outcome nofun⟩
  have sole : session.callers ++ [⟨.destroy, .queued⟩] = [⟨.destroy, .queued⟩] := by
    rw [nobody, List.nil_append]
  have first : HoldStage.leaving ending session.callers.length = .leaving ending 0 := by rw [nobody]; rfl
  exact .leaving rfl (.happened lived stepped) sole nofun (.inl first)

/-- After a failed attempt the next one is due some time, or the session is given up. -/
theorem Hold.judge_error (hold : Hold) (now : Instant) (session : Session) (error : Error) :
    hold.judge now session (.error error) =
        { hold with stage := .pausing (now + max hold.plan.poll.nanos shortestPause) } ∨
      hold.judge now session (.error error) = hold.leave now (.failed error) :=
  ite_eq_or_eq ..

/-- The outcome of an attempt to lock the key leaves a run sound. -/
theorem Sound.judged (sound : Sound plan made leases hold awaited)
    (held : hold.session = some session) (before : hold.stage.isBusy = true)
    (free : .attempt ∉ (hold.asked ++ awaited).map Prod.fst) (now : Instant)
    (result : Except Error Unit) : Sound plan made leases (hold.judge now session result) awaited := by
  cases result with
  | ok => exact sound.restaged held before free .holding _ rfl
  | error error =>
    rcases hold.judge_error now session error with pauses | leaves
    · rw [pauses]
      exact sound.restaged held before free (.pausing _) hold.lines rfl
    · rw [leaves]
      exact sound.leaves held before now _

/-- An attempt to lock the key is made with the lease of the session. -/
theorem Sound.attempts (sound : Sound plan made leases hold awaited)
    (held : hold.session = some session) (before : hold.stage.isBusy = true)
    (free : .attempt ∉ (hold.asked ++ awaited).map Prod.fst) (now : Instant) :
    Sound plan made leases (hold.attempt now session) awaited := by
  unfold Hold.attempt
  split
  · rename_i id live
    obtain ⟨active, rfl, leased⟩ := Session.liveId_eq_ok_iff.mp live
    obtain ⟨history, lived, alive, nobody⟩ := sound.placed.busy_of held before
    have account := sound.account
    rw [held] at account
    refine ⟨sound.valid, sound.planned, .busy held lived alive nobody rfl,
      sound.tidy.seeks held free _, ?_⟩
    show Account plan hold.session _ made leases
    rw [held]
    refine account.asks_for_lease (by rw [active]; nofun) leased (.inr ?_)
    rw [← sound.planned]
    rfl
  · exact sound.judged held before free now _

/-- Once the session is being given up, the answer about the first lease comes too late. -/
theorem Hold.answered_late {result : request.Outcome} (last : hold.stage.isLast = true) :
    hold.answered now .opening request result = hold := by
  unfold Hold.answered
  dsimp only
  split
  · rename_i opening
    rw [opening] at last
    cases last
  · rfl

/-- The answer about the first lease leaves a run sound. -/
theorem Sound.opens (sound : Sound plan made leases hold awaited)
    (without : hold.session = none) (stage : hold.stage = .opening)
    (free : .opening ∉ (hold.asked ++ awaited).map Prod.fst) (now : Instant)
    (result : Except Error String) : Sound plan made leases (hold.opened now result) awaited := by
  -- Nobody but the opening itself has asked for anything.
  have nothing : hold.asked ++ awaited = [] := by
    apply List.eq_nil_iff_forall_not_mem.mpr
    rintro ⟨asker, request⟩ member
    cases asker with
    | opening => exact free (List.mem_map_of_mem member)
    | attempt =>
      rcases sound.tidy.known member with ⟨id, trying, -⟩ | last
      · rw [stage] at trying; cases trying
      · rw [Hold.Deaf, stage] at last; cases last
    | task task =>
      rcases sound.tidy.known member with ⟨session, call, held, -⟩ | ⟨session, index, held, -⟩
      · rw [without] at held; cases held
      · rw [without] at held; cases held
  obtain ⟨unasked, unawaited⟩ := List.append_eq_nil_iff.mp nothing
  have idle (hold : Hold) (none : hold.asked = []) : hold.Tidy awaited := by
    refine ⟨?_, ?_, ?_⟩ <;> simp [none, unawaited]
  unfold Hold.opened
  split
  · exact ⟨sound.valid, sound.planned, .failed without rfl, idle _ unasked, sound.account⟩
  · rename_i session opened
    have fresh := (Session.fresh_of_opened opened).1
    have lived : Session.Lived ⟨result, []⟩ session := by
      rw [sound.planned] at opened
      exact .opened sound.valid opened
    have account : Account plan (some session) hold.asked made leases := by
      refine sound.account.gained ?_ ?_
      · rw [without]; rfl
      · rw [without]; nofun
    have begun : Sound plan made leases
        { hold with session := some session, stage := .pausing now } awaited :=
      ⟨sound.valid, sound.planned, .busy rfl lived fresh.alive fresh.callers rfl, idle _ unasked,
        account⟩
    exact begun.attempts rfl rfl (by simp [unasked, unawaited]) now

/-- An answer leaves a run sound once its request is no longer under way. -/
theorem Sound.answered (sound : Sound plan made leases hold awaited)
    (waits : hold.Waits request asker ∨ hold.Deaf asker)
    (free : asker ∉ (hold.asked ++ awaited).map Prod.fst) (now : Instant) (result : request.Outcome) :
    Sound plan made leases (hold.answered now asker request result) awaited := by
  cases asker with
  | opening =>
    rcases waits with ⟨without, stage, rfl⟩ | ⟨-, last⟩
    · have answered : hold.answered now .opening (.create hold.plan.name hold.plan.ttl) result =
          hold.opened now result := by
        simp only [Hold.answered, stage]
      rw [answered]
      exact sound.opens without stage free now result
    · rwa [Hold.answered_late last]
  | attempt =>
    unfold Hold.answered
    dsimp only
    split
    · rename_i trying held
      exact sound.judged held (by rw [trying]; rfl) free now _
    · exact sound
  | task task =>
    unfold Hold.answered
    dsimp only
    split
    · rename_i reply _
      have befalls : Hold.Befalls ((hold.asked ++ awaited).map Prod.fst)
          (.answered task reply) := free
      exact sound.happened befalls (fun _ => nofun) now
    · exact sound

/-- Where the lock is sought or held there is a session. -/
theorem Placed.held (placed : Placed hold.session hold.stage) (stage : hold.stage.isBusy = true) :
    ∃ session, hold.session = some session := by
  cases placed with
  | opening _ opening => rw [opening] at stage; cases stage
  | failed _ ended => rw [ended] at stage; cases stage
  | busy held | leaving held => exact ⟨_, held⟩

/-- An interruption while the session is opened leaves a run sound: whoever has asked for the lease
hears no answer. -/
theorem Sound.killed (sound : Sound plan made leases hold awaited) (stage : hold.stage = .opening) :
    Sound plan made leases { hold with stage := .ended .killed, asked := [] } awaited := by
  have without : hold.session = none := by
    cases sound.placed with
    | opening none | failed none => exact none
    | busy _ _ _ _ going => rw [stage] at going; cases going
    | leaving _ _ _ _ last =>
      rw [stage] at last
      rcases last with leaving | ⟨ended, -⟩
      · cases leaving
      · cases ended
  -- Nobody but the opening itself has asked for anything, and it hears no answer any more.
  have deaf (entry : Asker × Backend.Request) (member : entry ∈ awaited) :
      Hold.Deaf { hold with stage := .ended .killed, asked := [] } entry.1 := by
    obtain ⟨asker, request⟩ := entry
    cases asker with
    | opening => exact ⟨without, rfl⟩
    | attempt => rfl
    | task task =>
      rcases sound.tidy.awaited _ member with ⟨session, call, held, -⟩ | ⟨session, index, held, -⟩
      · rw [without] at held; cases held
      · rw [without] at held; cases held
  refine ⟨sound.valid, sound.planned, .failed without rfl,
    ⟨?_, nofun, fun entry member => .inr (deaf entry member)⟩, sound.account.forgets without⟩
  exact ((List.sublist_append_right hold.asked awaited).map Prod.fst).nodup sound.tidy.apart

/-- An interruption leaves a run sound. -/
theorem Sound.interrupted (sound : Sound plan made leases hold awaited) (now : Instant) :
    Sound plan made leases (hold.interrupt now) awaited := by
  have leaves (ending : HoldEnd) (before : hold.stage.isBusy = true) :
      Sound plan made leases (hold.leave now ending) awaited := by
    obtain ⟨session, held⟩ := sound.placed.held before
    exact sound.leaves held before now ending
  unfold Hold.interrupt
  split
  · rename_i stage; exact sound.killed stage
  · rename_i stage; exact leaves .interrupted (by rw [stage]; rfl)
  · rename_i stage; exact leaves .interrupted (by rw [stage]; rfl)
  · rename_i stage; exact leaves .released (by rw [stage]; rfl)
  · exact sound
  · exact sound

/-- A session that is given up stays so when the run ends. -/
theorem Sound.concludes {caller : Nat} {intent : Session.Intent} {problem : Option Error}
    (sound : Sound plan made leases hold awaited)
    (held : hold.session = some session) (leaving : hold.stage = .leaving ending caller)
    (finished : session.callers[caller]? = some ⟨intent, .finished problem⟩) :
    Sound plan made leases (hold.conclude ending) awaited := by
  have unasked : ∀ entry ∈ hold.asked, entry.1 ≠ .attempt := by
    rintro ⟨_, request⟩ member rfl
    obtain ⟨id, trying, -⟩ := sound.tidy.asked _ member
    rw [leaving] at trying
    cases trying
  refine ⟨sound.valid, sound.planned, ?_,
    sound.tidy.restaged held (.ended ending) _ unasked (.inl rfl), sound.account⟩
  rcases sound.placed.of_held held with
    ⟨_, _, _, _, stage⟩ | ⟨_, _, _, lived, sole, destroyed, own | ⟨other, -⟩⟩
  · rw [leaving] at stage
    cases stage
  · rw [leaving] at own
    cases own
    rw [sole] at finished
    cases finished
    exact .leaving held lived sole destroyed (.inr ⟨rfl, problem, rfl⟩)
  · rw [leaving] at other
    cases other

/-- What the program does by itself leaves a run sound. -/
theorem Sound.goes_on (sound : Sound plan made leases hold awaited)
    (onward : Onward now hold further) : Sound plan made leases further awaited := by
  cases onward with
  | @happened event own =>
    obtain ⟨befalls, quiet⟩ : Hold.Befalls ((hold.asked ++ awaited).map Prod.fst) event ∧
        ∀ intent, event ≠ .began intent := by
      cases event with
      | woke | noticed | granted => exact ⟨trivial, nofun⟩
      | began | answered | forgone | dropped => cases own
    exact sound.happened befalls quiet now
  | attempted held pausing elapsed =>
    have free := sound.tidy.not_seeking (by rw [pausing]; rfl) (by rw [pausing]; nofun)
    exact sound.attempts held (by rw [pausing]; rfl) free now
  | told held holding told => exact sound.leaves held (by rw [holding]; rfl) now _
  | concluded held leaving finished => exact sound.concludes held leaving finished

end

end Leasehold.Command
