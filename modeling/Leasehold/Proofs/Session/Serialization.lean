import Leasehold.Proofs.Session.Overlap

/-! Calls that overlap come to what the same calls come to one after the other, in the order in which
they began. A second session goes along with the first (`Follows`): it lets the next call begin when the
one before is over, and then does what the first session does in the turn of that call. -/
namespace Leasehold.Session

/-- The answer that a call was given at this moment, with the number of the call. -/
def Moment.reply? (moment : Moment) : Option (Nat × Manager.Reply) :=
  match moment.event with
  | .answered (.caller index) reply => some (index, reply)
  | _ => none

/-- Calls one after the other, the latest moment first: each begins when no other is in progress, at
once after the moment at which the one before was over. -/
def OneByOne : List Moment → Prop
  | [] => True
  | moment :: earlier =>
    OneByOne earlier ∧ ∀ intent, moment.event = .began intent → moment.before.Idle ∧
      ∀ previous, earlier.head? = some previous →
        previous.now = moment.now ∧ ¬ previous.before.Idle

/-- The moments, the latest first, are in the order of their times. -/
def InOrder (moments : List Moment) : Prop :=
  moments.Pairwise fun later earlier => earlier.now ≤ later.now

/-- A run one by one comes to the same as another: the manager is called for the same and gives the calls
the same answers. -/
structure Replays (moments replayed : List Moment) : Prop where
  apart : OneByOne replayed
  calls : replayed.filterMap (·.call) = moments.filterMap (·.call)
  replies : replayed.filterMap Moment.reply? = moments.filterMap Moment.reply?
  times : ∀ moment ∈ replayed, ∃ other ∈ moments, other.now = moment.now
  order : InOrder moments → InOrder replayed

/-- A session that goes along with another up to the call with this number. -/
structure Follows (session serial : Session) (index : Nat) : Prop where
  lease : serial.lease = session.lease
  signal : serial.signal = session.signal
  name : serial.name = session.name
  ttl : serial.ttl = session.ttl
  callers : serial.callers = session.callers.take (index + 1)
  alive : serial.isDropped = false

section
variable {session next serial start : Session} {event : Event} {call : Option Manager.Call}
variable {now : Instant} {index : Nat} {history : History} {front rest : List Task}
variable {moment other : Moment} {moments replayed : List Moment}

/-! ## Runs that come to the same -/

theorem Replays.aside (replays : Replays moments replayed) (call : moment.call = none)
    (reply : moment.reply? = none) : Replays (moment :: moments) replayed := by
  refine ⟨replays.apart, ?_, ?_, fun other member => ?_, fun order => ?_⟩
  · rw [replays.calls, List.filterMap_cons_none call]
  · rw [replays.replies, List.filterMap_cons_none reply]
  · obtain ⟨same, there, time⟩ := replays.times other member
    exact ⟨same, List.mem_cons_of_mem _ there, time⟩
  · exact replays.order (List.pairwise_cons.mp order).2

private theorem Replays.bounded (replays : Replays (moment :: moments) replayed)
    (time : other.now = moment.now) (order : InOrder (moment :: moments)) :
    InOrder (other :: replayed) := by
  refine List.pairwise_cons.mpr ⟨fun earlier member => ?_, replays.order order⟩
  obtain ⟨same, there, equal⟩ := replays.times earlier member
  rw [time, ← equal]
  rcases List.mem_cons.mp there with rfl | there
  · exact Nat.le_refl _
  · exact (List.pairwise_cons.mp order).1 same there

/-- Something more may happen at the last time. -/
theorem Replays.also (replays : Replays (moment :: moments) replayed) (time : other.now = moment.now)
    (call : other.call = none) (reply : other.reply? = none)
    (apart : OneByOne (other :: replayed)) : Replays (moment :: moments) (other :: replayed) := by
  refine ⟨apart, ?_, ?_, fun earlier member => ?_, replays.bounded time⟩
  · rw [List.filterMap_cons_none call, replays.calls]
  · rw [List.filterMap_cons_none reply, replays.replies]
  · rcases List.mem_cons.mp member with rfl | member
    · exact ⟨moment, List.mem_cons_self, time.symm⟩
    · exact replays.times earlier member

/-- The same happens in both runs. -/
theorem Replays.both (replays : Replays moments replayed) (time : other.now = moment.now)
    (call : other.call = moment.call) (reply : other.reply? = moment.reply?)
    (apart : OneByOne (other :: replayed)) : Replays (moment :: moments) (other :: replayed) := by
  refine ⟨apart, ?_, ?_, fun earlier member => ?_, fun order => ?_⟩
  · rw [List.filterMap_cons, List.filterMap_cons, call, replays.calls]
  · rw [List.filterMap_cons, List.filterMap_cons, reply, replays.replies]
  · rcases List.mem_cons.mp member with rfl | member
    · exact ⟨moment, List.mem_cons_self, time.symm⟩
    · obtain ⟨same, there, equal⟩ := replays.times earlier member
      exact ⟨same, List.mem_cons_of_mem _ there, equal⟩
  · obtain ⟨latest, before⟩ := List.pairwise_cons.mp order
    refine List.pairwise_cons.mpr ⟨fun earlier member => ?_, replays.order before⟩
    obtain ⟨same, there, equal⟩ := replays.times earlier member
    rw [time, ← equal]
    exact latest same there

/-! ## In the turn of a call -/

theorem Follows.caller (follows : Follows session serial index) :
    serial.callers[index]? = session.callers[index]? := by
  rw [follows.callers, List.getElem?_take, if_pos (Nat.lt_succ_self index)]

theorem Follows.stopMonitor (follows : Follows session serial index) :
    Follows session.stopMonitor serial.stopMonitor index := by
  rw [stopMonitor_eq, stopMonitor_eq]
  exact ⟨follows.lease, follows.signal, follows.name, follows.ttl, follows.callers, follows.alive⟩

theorem Follows.fire (follows : Follows session serial index) (outcome : Option Error) :
    Follows (session.fire outcome) (serial.fire outcome) index := by
  refine ⟨follows.lease, ?_, follows.name, follows.ttl, follows.callers, follows.alive⟩
  rw [Session.fire, Session.fire, follows.signal]

theorem Follows.withLease (follows : Follows session serial index) (lease : Lease) :
    Follows { session with lease } { serial with lease } index :=
  ⟨rfl, follows.signal, follows.name, follows.ttl, follows.callers, follows.alive⟩

theorem Follows.setCaller (follows : Follows session serial index) (phase : Caller.Phase) :
    Follows (session.setCaller index phase) (serial.setCaller index phase) index := by
  refine ⟨follows.lease, follows.signal, follows.name, follows.ttl, ?_, follows.alive⟩
  simp only [Session.setCaller, follows.callers]
  refine List.ext_getElem? fun position => ?_
  rw [List.getElem?_modify, List.getElem?_take, List.getElem?_take, List.getElem?_modify]
  by_cases near : position < index + 1
  · rw [if_pos near, if_pos near]
  · rw [if_neg near, if_neg near]
    rfl

theorem Follows.finish (follows : Follows session serial index) (failure : Option Error) :
    Follows (session.finish index failure) (serial.finish index failure) index := by
  have along := follows.setCaller (.finished failure)
  exact ⟨along.lease, along.signal, along.name, along.ttl, along.callers, along.alive⟩

theorem Follows.afterTeardown (follows : Follows session serial index) (intent : Intent) :
    (serial.afterTeardown index intent).2 = (session.afterTeardown index intent).2 ∧
      Follows (session.afterTeardown index intent).1 (serial.afterTeardown index intent).1 index := by
  cases intent with
  | destroy => exact ⟨rfl, follows.finish none⟩
  | recreate =>
    refine ⟨?_, follows.setCaller .creating⟩
    rw [Session.afterTeardown, Session.afterTeardown, follows.name, follows.ttl]

theorem Follows.recreated (follows : Follows session serial index) (now : Instant) (made : String) :
    Follows (({ session with signal := session.signal.rearm }.arm now made).startMonitor now)
      (({ serial with signal := serial.signal.rearm }.arm now made).startMonitor now) index := by
  rw [recreated_eq, recreated_eq]
  exact ⟨rfl, congrArg Signal.rearm follows.signal, follows.name, follows.ttl, follows.callers,
    follows.alive⟩

private theorem index_of_granted (turn : TurnOf index (.granted (.caller position))) :
    position = index := by
  rcases turn with same | ⟨_, other⟩
  · cases same
    rfl
  · cases other

private theorem index_of_answered (turn : TurnOf index (.answered (.caller position) reply)) :
    position = index := by
  rcases turn with other | ⟨_, same⟩
  · cases other
  · cases same
    rfl

/-- What a call does in its turn it does in the other session, too. -/
theorem Follows.turn (follows : Follows session serial index)
    (first : serial.queue.head? = some (.caller index))
    (outcome : Transition now session event next call) (turn : TurnOf index event) :
    ∃ reached, Transition now serial event reached call ∧ Follows next reached index := by
  have same := follows.caller
  have lease := follows.lease
  cases outcome
  case found queued destroyed =>
    obtain rfl := index_of_granted turn
    obtain ⟨asks, along⟩ := follows.stopMonitor.afterTeardown _
    rw [← asks]
    exact ⟨_, .found first (same.trans queued) (by rw [lease, destroyed]), along⟩
  case closed queued live without =>
    obtain rfl := index_of_granted turn
    rw [← lease] at live without ⊢
    obtain ⟨asks, along⟩ := ((follows.stopMonitor.withLease
      { serial.lease with id := "", state := .destroyed }).fire none).afterTeardown _
    rw [← asks]
    exact ⟨_, .closed first (same.trans queued) live without, along⟩
  case surrendered queued live leased =>
    obtain rfl := index_of_granted turn
    rw [← lease] at live leased ⊢
    exact ⟨_, .surrendered first (same.trans queued) live leased,
      (follows.stopMonitor.withLease _).setCaller _⟩
  case released waits =>
    obtain rfl := index_of_answered turn
    obtain ⟨asks, along⟩ := (follows.fire none).afterTeardown _
    rw [← asks]
    exact ⟨_, .released (same.trans waits), along⟩
  case recreated waits =>
    obtain rfl := index_of_answered turn
    exact ⟨_, .recreated (same.trans waits), (follows.recreated now _).finish none⟩
  case refused waits =>
    obtain rfl := index_of_answered turn
    exact ⟨_, .refused (same.trans waits), follows.finish _⟩
  all_goals rcases turn with other | ⟨_, other⟩ <;> cases other

/-! ## Going along -/

/-- Monitors that were told to stop can make way at once. -/
private theorem Replays.clear (lived : Lived history start) (ran : Ran start replayed serial)
    (replays : Replays (moment :: moments) replayed) (follows : Follows session serial index)
    (queue : serial.queue = front ++ [.caller index]) (spent : serial.Spent front) :
    ∃ replayed reached, Ran start replayed reached ∧ Replays (moment :: moments) replayed ∧
      Follows session reached index ∧ reached.queue = [.caller index] := by
  induction front generalizing serial replayed with
  | nil => exact ⟨replayed, serial, ran, replays, follows, queue⟩
  | cons task front ih =>
    obtain ⟨position, rfl, phase, told⟩ := spent task List.mem_cons_self
    have head : serial.queue.head? = some (.monitor position) := by rw [queue]; rfl
    have present := ((ran.lived lived).orderly.mem_queue _).mp (List.mem_of_mem_head? head)
    obtain ⟨event, about, stepped⟩ := told_can_end moment.now head told present
    have begins : ∀ intent, event ≠ .began intent := by rcases about with rfl | rfl <;> nofun
    have reply :
        Moment.reply? ⟨moment.now, serial, event, serial.endMonitor position, none⟩ = none := by
      rcases about with rfl | rfl <;> rfl
    refine ih (ran.moved stepped) (replays.also rfl rfl reply ?_) ?_ ?_ ?_
    · exact ⟨replays.apart, fun intent begun => absurd begun (begins intent)⟩
    · exact ⟨follows.lease, follows.signal, follows.name, follows.ttl, follows.callers, follows.alive⟩
    · rw [endMonitor, leave, setMonitor, queue]
      simp
    · intro other member
      obtain ⟨index, same, told⟩ := spent other (List.mem_cons_of_mem _ member)
      exact ⟨index, same, told.after (transition_of_step stepped)⟩

/-- What happens aside from the turns of calls is nothing to a session that goes along. -/
private theorem Follows.aside (follows : Follows session serial index)
    (aside : Aside session event next call) (known : index < session.callers.length) :
    Follows next serial index := by
  obtain ⟨more, callers⟩ := aside.callers
  refine ⟨follows.lease.trans aside.lease.symm, follows.signal.trans aside.signal.symm,
    follows.name.trans aside.name.symm, follows.ttl.trans aside.ttl.symm, ?_, follows.alive⟩
  rw [callers, List.take_append_of_le_length known, follows.callers]

private theorem reply?_aside (aside : Aside session event next call) :
    Moment.reply? ⟨now, session, event, next, call⟩ = none := by
  unfold Moment.reply?
  split
  · rename_i index reply about
    exact absurd (.inr ⟨reply, about⟩) (aside.event index)
  · rfl

private theorem queued_of_waiting (waits : session.standing (.caller index) = .waiting) :
    ∃ intent, session.callers[index]? = some ⟨intent, .queued⟩ := by
  cases found : session.callers[index]? with
  | none => simp [standing, found] at waits
  | some caller =>
    obtain ⟨intent, phase⟩ := caller
    rw [standing_caller found] at waits
    cases phase with
    | queued => exact ⟨intent, rfl⟩
    | _ => cases waits

/-- When a call is over, the next one can begin at once. -/
private theorem Follows.onward (now : Instant) (follows : Follows session serial index)
    (waits : session.standing (.caller (index + 1)) = .waiting) (empty : serial.queue = []) :
    ∃ intent reached, serial.step now (.began intent) = some (reached, none) ∧
      Follows session reached (index + 1) ∧ reached.queue = [.caller (index + 1)] := by
  obtain ⟨intent, queued⟩ := queued_of_waiting waits
  have known : index + 1 < session.callers.length := (List.getElem?_eq_some_iff.mp queued).1
  have count : serial.callers.length = index + 1 := by
    rw [follows.callers, List.length_take, Nat.min_eq_left (Nat.le_of_lt known)]
  refine ⟨intent, _, step_of_transition (.began intent follows.alive), ?_, ?_⟩
  · rw [stopMonitor_eq]
    refine ⟨follows.lease, follows.signal, follows.name, follows.ttl, ?_, follows.alive⟩
    rw [List.take_add_one, queued, follows.callers]
    rfl
  · rw [stopMonitor_eq]
    simp [empty, count]

/-- The turn of a call goes on in both sessions. -/
private theorem Replays.turn (replays : Replays moments replayed) (lived : Lived history serial)
    (follows : Follows session serial index) (alone : Lined serial index [] [])
    (outcome : Transition now session event next call) (turn : TurnOf index event) :
    ∃ reached, serial.step now event = some (reached, call) ∧ Follows next reached index ∧
      Replays (⟨now, session, event, next, call⟩ :: moments)
        (⟨now, serial, event, reached, call⟩ :: replayed) ∧
      ((∃ made, call = some made) ∧ reached.queue = [.caller index] ∨
        call = none ∧ reached.queue = []) := by
  obtain ⟨reached, same, along⟩ := follows.turn (by rw [alone.queue]; rfl) outcome turn
  have stepped := step_of_transition same
  refine ⟨reached, stepped, along, ?_, ?_⟩
  · refine replays.both rfl rfl rfl ⟨replays.apart, fun intent begun => ?_⟩
    rcases turn with other | ⟨_, other⟩ <;> rw [other] at begun <;> cases begun
  · exact (alone.turn lived stepped turn).imp (fun asked => ⟨asked.1, asked.2.queue⟩)
      fun ended => ⟨ended.1, ended.2.1⟩

/-- What a session has come to that lets the calls begin one after the other: it goes along with the
first session up to the call that has its turn there, or up to the last one if all are over. -/
def Alongside (moments : List Moment) (session : Session) (replayed : List Moment)
    (serial : Session) : Prop :=
  Replays moments replayed ∧
    ((∃ index front rest, Lined session index front rest ∧ Follows session serial index ∧
        serial.queue = [.caller index]) ∨
      session.Idle ∧ ∃ index, session.callers.length = index + 1 ∧ Follows session serial index)

/-- The first call begins in both sessions. Before it has its turn, the monitors make way. -/
private theorem alongside_of_began (lived : Lived history start) (idle : start.Idle)
    (stepped : start.step now (.began intent) = some (next, call)) :
    ∃ replayed serial, Ran start replayed serial ∧
      Alongside [⟨now, start, .began intent, next, call⟩] next replayed serial := by
  obtain ⟨lined, _⟩ := lined_of_began lived idle stepped
  have first : Replays [⟨now, start, .began intent, next, call⟩]
      [⟨now, start, .began intent, next, call⟩] :=
    ⟨⟨trivial, fun _ _ => ⟨idle, fun _ none => by cases none⟩⟩, rfl, rfl,
      fun moment member => ⟨moment, member, rfl⟩, fun order => order⟩
  have along : Follows next next start.callers.length := by
    cases transition_of_step stepped with
    | began _ alive =>
      refine ⟨rfl, rfl, rfl, rfl, ?_, by rw [stopMonitor_eq]; exact alive⟩
      rw [List.take_of_length_le (by simp)]
  obtain ⟨replayed, serial, ran, replays, follows, queue⟩ :=
    Replays.clear lived (Ran.still.moved stepped) first along lined.queue lined.spent
  exact ⟨replayed, serial, ran, replays, .inl ⟨_, _, _, lined, follows, queue⟩⟩

/-- In the turn of a call both sessions take the same step. If the call is over then, the next one begins
in the second session. -/
private theorem alongside_of_turn (lived : Lived history start) (there : Lived before session)
    (ran : Ran start replayed serial) (replays : Replays moments replayed)
    (follows : Follows session serial index) (queue : serial.queue = [.caller index])
    (lined : Lined session index [] rest) (turn : TurnOf index event)
    (stepped : session.step now event = some (next, call)) :
    ∃ replayed serial, Ran start replayed serial ∧
      Alongside (⟨now, session, event, next, call⟩ :: moments) next replayed serial := by
  obtain ⟨caller, present, _⟩ := lined.found there.orderly
  have known : index < session.callers.length := (List.getElem?_eq_some_iff.mp present).1
  have alone : Lined serial index [] [] := by
    refine ⟨queue, nofun, ?_⟩
    rw [follows.callers, List.length_take, Nat.min_eq_left known, Nat.sub_self]
    rfl
  have here := ran.lived lived
  obtain ⟨reached, same, along, replays, mirrored⟩ :=
    replays.turn here follows alone (transition_of_step stepped) turn
  have ran := ran.moved same
  rcases lined.turn there stepped turn with ⟨⟨made, rfl⟩, onward⟩ | ⟨rfl, _, ended⟩
  · obtain ⟨_, queue⟩ : _ ∧ reached.queue = [.caller index] :=
      mirrored.resolve_right fun other => by cases other.1
    exact ⟨_, reached, ran, replays, .inl ⟨index, [], rest, onward, along, queue⟩⟩
  · obtain ⟨_, empty⟩ : _ ∧ reached.queue = [] :=
      mirrored.resolve_left fun ⟨⟨_, other⟩, _⟩ => by cases other
    rcases ended with ⟨idle, last⟩ | ⟨waits, front, rest, onward⟩
    · exact ⟨_, reached, ran, replays, .inr ⟨idle, index, last, along⟩⟩
    · obtain ⟨intent, further, began, along, queue⟩ := along.onward now waits empty
      refine ⟨_, further, ran.moved began, replays.also rfl rfl rfl ⟨replays.apart, ?_⟩,
        .inl ⟨index + 1, front, rest, onward, along, queue⟩⟩
      -- The moment before was the last one of the turn, in which the call was in progress.
      rintro _ -
      refine ⟨(idle_iff (ran.lived lived).orderly).mpr (by simp only [empty, List.filterMap_nil]), ?_⟩
      rintro previous ⟨⟩
      exact ⟨rfl, alone.not_idle here.orderly⟩

/-- The calls of a run in which they overlap, one after the other. -/
theorem Overlapping.serialized (run : Overlapping start moments session)
    (lived : Lived history start) :
    ∃ replayed serial, Ran start replayed serial ∧ Alongside moments session replayed serial := by
  induction run with
  | began idle stepped => exact alongside_of_began lived idle stepped
  | moved run busy kept stepped ih =>
    obtain ⟨replayed, serial, ran, replays, along⟩ := ih
    have there := run.ran.lived lived
    rcases along with ⟨index, front, rest, lined, follows, queue⟩ | ⟨idle, _⟩
    · rcases lined.step there (transition_of_step stepped) kept with
        ⟨⟨front, rest, onward⟩, aside⟩ | ⟨rfl, turn⟩
      · obtain ⟨caller, present, _⟩ := lined.found there.orderly
        have along := follows.aside aside (List.getElem?_eq_some_iff.mp present).1
        exact ⟨replayed, serial, ran, replays.aside aside.call (reply?_aside aside),
          .inl ⟨index, front, rest, onward, along, queue⟩⟩
      · exact alongside_of_turn lived there ran replays follows queue lined turn stepped
    · exact absurd idle busy

/-! ## Calls that only give up the lease -/

private theorem destroys_after (destroys : ∀ caller ∈ session.callers, caller.inProgress = true →
      caller.intent = .destroy) (outcome : Transition now session event next call)
    (begun : ∀ intent, event = .began intent → intent = .destroy) :
    ∀ caller ∈ next.callers, caller.inProgress = true → caller.intent = .destroy := by
  intro caller member pending
  obtain ⟨position, found⟩ := List.getElem?_of_mem member
  cases caller_moved outcome found with
  | same before => exact destroys caller (List.mem_of_getElem? before) pending
  | began => exact begun _ rfl
  | gives before => exact destroys ⟨_, .queued⟩ (List.mem_of_getElem? before) rfl
  | done => rfl
  | asks before busy _ => cases destroys _ (List.mem_of_getElem? before) busy
  | answered | forgone => cases pending

/-- In its turn a `destroy` gives up the lease, if there is one. -/
private theorem destroys_in_turn (lived : Lived history session)
    (destroys : ∀ caller ∈ session.callers, caller.inProgress = true → caller.intent = .destroy)
    (outcome : Transition now session event next call) (turn : TurnOf index event) :
    next.lease.state = .destroyed ∧
      call = if session.lease.state = .destroyed ∨ session.lease.id = "" then none
        else some (.destroy session.lease.id) := by
  have intends {position : Nat} {intent phase}
      (found : session.callers[position]? = some ⟨intent, phase⟩)
      (pending : Caller.inProgress ⟨intent, phase⟩ = true) : intent = .destroy :=
    destroys _ (List.mem_of_getElem? found) pending
  cases outcome
  case found queued destroyed =>
    obtain rfl := intends queued rfl
    simp [afterTeardown, finish, leave, setCaller, stopMonitor_eq, destroyed]
  case closed queued live without =>
    obtain rfl := intends queued rfl
    simp [afterTeardown, finish, leave, setCaller, stopMonitor_eq, fire, without]
  case surrendered queued live leased => simp [setCaller, live, leased]
  case released waits =>
    obtain rfl := intends waits rfl
    have destroyed := lived.fitting.caller _ _ (standing_caller waits)
    simp [afterTeardown, finish, leave, setCaller, fire, destroyed]
  case recreated waits | refused waits =>
    cases (lived.intended _ _ waits).symm.trans (intends waits rfl)
  all_goals rcases turn with other | ⟨_, other⟩ <;> cases other

/-- Calls of `destroy` that overlap give up the lease in the turn of the first. -/
private theorem Overlapping.destroys (run : Overlapping start moments session)
    (lived : Lived history start) (leased : start.lease.id ≠ "")
    (begun : ∀ moment ∈ moments, ∀ intent, moment.event = .began intent → intent = .destroy) :
    (∀ caller ∈ session.callers, caller.inProgress = true → caller.intent = .destroy) ∧
      (session.lease = start.lease ∧ ¬ session.Idle ∧ moments.filterMap (·.call) = [] ∨
        session.lease.state = .destroyed ∧ moments.filterMap (·.call) = [.destroy start.lease.id]) := by
  have live : start.lease.state ≠ .destroyed := fun destroyed =>
    leased (lived.fitting.destroyed destroyed)
  induction run with
  | @began now intent next call idle stepped =>
    obtain ⟨lined, aside⟩ := lined_of_began lived idle stepped
    refine ⟨destroys_after ?_ (transition_of_step stepped) (begun _ List.mem_cons_self), .inl
      ⟨aside.lease, lined.not_idle (Lived.happened lived stepped).orderly, ?_⟩⟩
    · intro caller member pending
      rw [idle caller member] at pending
      cases pending
    · rw [List.filterMap_cons_none aside.call]
      rfl
  | @moved moments session event now next call run busy kept stepped ih =>
    obtain ⟨destroys, before⟩ := ih fun moment member => begun moment (List.mem_cons_of_mem _ member)
    have there := run.ran.lived lived
    have outcome := transition_of_step stepped
    refine ⟨destroys_after destroys outcome (begun _ List.mem_cons_self), ?_⟩
    obtain idle | ⟨index, front, rest, lined⟩ := run.lined lived
    · exact absurd idle busy
    · rcases lined.step there outcome kept with ⟨⟨_, _, onward⟩, aside⟩ | ⟨rfl, turn⟩
      · rw [List.filterMap_cons_none aside.call, aside.lease]
        exact before.imp_left fun ⟨lease, _, calls⟩ =>
          ⟨lease, onward.not_idle (Lived.happened there stepped).orderly, calls⟩
      · obtain ⟨destroyed, asks⟩ := destroys_in_turn there destroys outcome turn
        refine .inr ⟨destroyed, ?_⟩
        rcases before with ⟨lease, _, calls⟩ | ⟨ended, calls⟩
        · rw [lease, if_neg (not_or.mpr ⟨live, leased⟩)] at asks
          rw [List.filterMap_cons_some asks, calls]
        · rw [if_pos (.inl ended)] at asks
          rw [List.filterMap_cons_none asks, calls]

end

/-- **Calls that overlap can be put in a row.** What comes of calls that overlap also comes of the same
calls when each begins at once after the one before is over, in the order in which they began and with
the same answers of the manager: all calls end in the same way, with the same lease in the same state,
all generations end in the same way, and the manager is called for the same in the same order. If all
calls are for giving up the lease, and there is one, it is given up once. -/
theorem overlapping_calls_serialize {start : Session} (lived : Lived history start)
    (run : Overlapping start moments session) (idle : session.Idle) :
    (∃ replayed serial, Ran start replayed serial ∧ Replays moments replayed ∧
      serial.callers = session.callers ∧ serial.lease = session.lease ∧
      serial.signal = session.signal) ∧
    (start.id ≠ "" →
      (∀ moment ∈ moments, ∀ intent, moment.event = .began intent → intent = .destroy) →
      moments.filterMap (·.call) = [.destroy start.id]) := by
  constructor
  · obtain ⟨replayed, serial, ran, replays, ⟨_, _, _, lined, _⟩ | ⟨_, index, last, follows⟩⟩ :=
      run.serialized lived
    · exact absurd idle (lined.not_idle (run.ran.lived lived).orderly)
    · refine ⟨replayed, serial, ran, replays, ?_, follows.lease, follows.signal⟩
      rw [follows.callers, ← last, List.take_length]
  · intro leased begun
    rcases (run.destroys lived leased begun).2 with ⟨_, busy, _⟩ | ⟨_, calls⟩
    · exact absurd idle busy
    · exact calls

/-- A session whose monitor waits for the renewal of its lease. -/
def renewing : Option (History × Session) :=
  replay opening [(10000000000, .woke 0), (10000000000, .granted (.monitor 0))]

/-- Two calls, the second of which begins before the first has its turn. The new lease is old enough to
be renewed when the second call has its turn, but that was told to stop the monitor. -/
def replacedAndGivenUp : List (Instant × Event) :=
  [(12000000000, .began .destroy), (12000000000, .noticed 0), (12000000000, .granted (.caller 0)),
    (13000000000, .answered (.caller 0) (.destroyed (.ok ()))),
    (14000000000, .answered (.caller 0) (.created (.ok "L2"))), (24000000000, .woke 1),
    (25000000000, .granted (.caller 1)), (26000000000, .answered (.caller 1) (.destroyed (.ok ())))]

theorem replaced_and_given_up_serialize : ∃ history start moments session,
    renewing = some (history, start) ∧ Overlapping start moments session ∧ session.Idle ∧
      moments.length = 9 ∧
      ∃ replayed serial, Ran start replayed serial ∧ Replays moments replayed ∧
        serial.callers = session.callers ∧ serial.lease = session.lease ∧
        serial.signal = session.signal := by
  have opened : renewing = some (renewing.get (by decide)) := (Option.some_get _).symm
  have lived := lived_of_replay lived_opening opened
  let start := (renewing.get (by decide)).2
  have begun : start.step 11000000000 (.began .recreate) =
      some ((start.step 11000000000 (.began .recreate)).get (by decide)) := (Option.some_get _).symm
  let first := (start.step 11000000000 (.began .recreate)).get (by decide)
  have followed : follow first.1 replacedAndGivenUp =
      some ((follow first.1 replacedAndGivenUp).get (by decide)) := (Option.some_get _).symm
  have quiet : start.Idle := by unfold Idle; decide
  have busy : ∀ moment ∈ ((follow first.1 replacedAndGivenUp).get (by decide)).1,
      ¬ moment.before.Idle ∧ moment.forgoes = false := by unfold Idle; decide
  have idle : ((follow first.1 replacedAndGivenUp).get (by decide)).2.Idle := by unfold Idle; decide
  have run := (Overlapping.began quiet begun).extend (ran_of_follow followed) busy
  exact ⟨_, _, _, _, opened, run, idle, by decide, (overlapping_calls_serialize lived run idle).1⟩

end Leasehold.Session
