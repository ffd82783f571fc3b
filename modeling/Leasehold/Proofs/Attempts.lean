import Mathlib.Logic.Function.Basic
import Leasehold.Proofs.Latency
import Leasehold.Proofs.Session.Locking
import Leasehold.Proofs.Store.Refinement

/-! Attempts to lock a key, from their beginning to their end, while the session goes on and others use
the store. The store serves the request of an attempt at some time between the two.

An attempt looks at the session twice, and what it says when it is over is about all the time between.
What carries the argument is that no lease comes back to its session, since leases are made with
distinct ids (`Distinct`): a lease that is the session's at the end and was so at the beginning was the
session's all the time (`Ran.undisturbed`). -/
namespace Leasehold.Attempts

open Latency (Errand Errands errand_before errand_of_served kept_on)
open Session (Task)

/-! ## Runs -/

/-- How far an attempt to lock a key has come. -/
inductive Phase where
  /-- Its request for a lease is on the way to the store. -/
  | asked (id : String)
  /-- The store has served the request, and the answer is on the way. -/
  | answered (id : String) (answer : Except Error Bool)
  /-- It is over. -/
  | ended (result : Except Error Unit)

/-- An attempt to lock a key. -/
structure Attempt where
  /-- The key. -/
  key : String
  /-- What is to be written to it. -/
  value : List UInt8
  /-- How far the attempt has come. -/
  phase : Phase

/-- An attempt that begins. It asks with the lease that the session has, and is over without one. -/
def Attempt.begun (session : Session) (key : String) (value : List UInt8) : Attempt where
  key := key
  value := value
  phase :=
    match session.liveId with
    | .ok id => .asked id
    | .error error => .ended (.error error)

/-- A session with what has happened to it and its errands, the store with what has happened to it, the
latest first, the time, and all attempts that were made with the session. -/
structure World where
  now : Instant
  session : Session
  history : Session.History
  errands : Errands
  store : Store
  past : List Store.Moment
  attempts : List Attempt

/-- Something happens to the store now. No id is on offer for a new lease that was used before. -/
def World.Stores (world : World) (event : Store.Event) (answer : Store.Answer) (next : World) : Prop :=
  ∃ sweep fresh after, world.store.happen sweep world.now fresh event = (answer, after) ∧
    Store.ttl? fresh world.past = none ∧
    next = { world with
      store := after
      past := ⟨world.now, world.store, event, answer, after⟩ :: world.past }

/-- The store serves a request now. It may have had to wait for its turn. -/
def World.Serves (world : World) (request : Backend.Request) (result : request.Outcome)
    (next : World) : Prop :=
  ∃ event, (event = .requested request ∨ event = .admitted request) ∧
    world.Stores event (.outcome request result) next

/-- What can be done next. -/
inductive Act where
  /-- Time goes by. -/
  | waited (time : Instant)
  /-- Something happens to the session. -/
  | moved (event : Session.Event)
  /-- The store serves the request of a task of the session. -/
  | fetched (task : Task)
  /-- Somebody else uses the store. -/
  | shared (event : Store.Event)
  /-- An attempt begins. -/
  | began (key : String) (value : List UInt8)
  /-- The store serves the request of an attempt. -/
  | put (attempt : Nat) (request : Backend.Request)
  /-- An attempt ends when its answer arrives. -/
  | judged (attempt : Nat) (result : Except Error Unit)

/-- What an act makes of a world. Other sessions that use the store are among those who do so at
`shared`. -/
inductive Step (world : World) : Act → World → Prop where
  | waited (later : world.now ≤ time) : Step world (.waited time) { world with now := time }
  /-- What the session is answered comes back from an errand. -/
  | moved (replies : ∀ task reply, event = .answered task reply →
        ∃ errand, world.errands task = some errand ∧ errand.Replies reply)
      (stepped : world.session.step world.now event = some (next, call)) :
      Step world (.moved event)
        { world with
          session := next
          history := world.history.add ⟨world.now, world.session, event, next, call⟩
          errands := world.errands.after event call }
  | fetched {call : Manager.Call} {result : call.request.Outcome}
      (waits : world.errands task = some ⟨call, none⟩)
      (serves : world.Serves call.request result served) :
      Step world (.fetched task)
        { served with errands := Function.update world.errands task (some ⟨call, some result⟩) }
  | shared (stores : world.Stores event answer next) : Step world (.shared event) next
  | began : Step world (.began key value)
      { world with attempts := world.attempts ++ [.begun world.session key value] }
  | put {id : String} (asked : world.attempts[index]? = some ⟨key, value, .asked id⟩)
      (serves : world.Serves (Session.lockRequest key value id) answer served) :
      Step world (.put index (Session.lockRequest key value id))
        { served with attempts := world.attempts.set index ⟨key, value, .answered id answer⟩ }
  /-- The session says what the answer comes to, as it is now. -/
  | judged {id : String} (answered : world.attempts[index]? = some ⟨key, value, .answered id answer⟩) :
      Step world (.judged index (world.session.lockResult key id answer))
        { world with
          attempts := world.attempts.set index
            ⟨key, value, .ended (world.session.lockResult key id answer)⟩ }

/-- Worlds that come of the opening of a session. If the session was told then that it has a lease, the
store had made that lease for it. -/
inductive Reached : World → Prop where
  | opened (kept : Store.Kept past store) (order : ∀ moment ∈ past, moment.now ≤ now)
      (valid : Session.validate span timing = .ok ())
      (made : ∀ id, first = .ok id →
        ∃ moment ∈ past, moment.answer = .outcome (.create label span) (.ok id))
      (opened : Session.opened now label span timing first = .ok session) :
      Reached ⟨now, session, ⟨first, []⟩, fun _ => none, store, past, []⟩
  | stepped (reached : Reached world) (step : Step world act next) : Reached next

/-- An act, with the world before it and after it. -/
structure Deed where
  before : World
  act : Act
  after : World

/-- What becomes of a world, with all deeds on the way, the latest first. -/
inductive Ran (first : World) : List Deed → World → Prop where
  | still : Ran first [] first
  | did (ran : Ran first deeds world) (step : Step world act next) :
      Ran first (⟨world, act, next⟩ :: deeds) next

/-! ## Leases that are made once -/

/-- No lease is made twice, neither among those that the session was told of nor among those of which
it is yet to be told. -/
structure Distinct (history : Session.History) (errands : Errands) (past : List Store.Moment) :
    Prop where
  /-- The session was told of each of its leases once. -/
  once : history.made.Nodup
  /-- The store has made the leases that the session was told of. -/
  known : ∀ id ∈ history.made, (Store.ttl? id past).isSome
  /-- The leases that errands bring are new to the session. -/
  coming : ∀ task errand id, errands task = some errand → errand.made? = some id →
    id ∉ history.made ∧ (Store.ttl? id past).isSome
  /-- No two errands bring the same lease. -/
  apart : ∀ task other errand another id, errands task = some errand →
    errands other = some another → errand.made? = some id → another.made? = some id → task = other

section
variable {session next : Session} {event : Session.Event} {call : Option Manager.Call}
variable {now : Instant} {task : Task} {errands : Errands} {errand : Errand} {id : String}
variable {past : List Store.Moment} {history : Session.History} {store after : Store}
variable {sweep : Store.Sweep} {fresh : String} {deed : Store.Event} {answer : Store.Answer}

/-- An errand that brings a lease was under way before the last event, which was not its end. -/
theorem errand_of_made (found : errands.after event call task = some errand)
    (made : errand.made? = some id) :
    errands task = some errand ∧ ∀ reply, event ≠ .answered task reply := by
  rcases errand_before found with earlier | ⟨begun, -, rfl, -⟩
  · exact earlier
  · cases begun <;> cases made

/-- A lease of which the session was told came with an answer. -/
theorem answered_of_made (made : Session.Moment.made? ⟨now, session, event, next, call⟩ = some id) :
    ∃ task, event = .answered task (.created (.ok id)) := by
  unfold Session.Moment.made? at made
  split at made
  · rename_i task told heard
    split at made
    · cases made
      exact ⟨task, heard⟩
    · cases made
  · cases made

/-- Leases stay distinct when something happens to the session. -/
theorem Distinct.moved (distinct : Distinct history errands past)
    (replies : ∀ task reply, event = .answered task reply →
      ∃ errand, errands task = some errand ∧ errand.Replies reply) :
    Distinct (history.add ⟨now, session, event, next, call⟩) (errands.after event call) past := by
  -- A lease of which the session is told is brought by an errand that is over then.
  have told {id} (made : Session.Moment.made? ⟨now, session, event, next, call⟩ = some id) :
      ∃ task errand, errands task = some errand ∧ errand.made? = some id ∧
        event = .answered task (.created (.ok id)) := by
    obtain ⟨task, answered⟩ := answered_of_made made
    obtain ⟨errand, waits, comes⟩ := replies task _ answered
    exact ⟨task, errand, waits, comes.brings, answered⟩
  refine ⟨?_, ?_, ?_, ?_⟩
  · rw [Session.made_add]
    cases made : Session.Moment.made? ⟨now, session, event, next, call⟩ with
    | none => exact distinct.once
    | some id =>
      obtain ⟨task, errand, waits, brings, -⟩ := told made
      exact List.nodup_cons.mpr ⟨(distinct.coming task errand id waits brings).1, distinct.once⟩
  · intro id member
    rw [Session.made_add, List.mem_append, Option.mem_toList] at member
    rcases member with made | earlier
    · obtain ⟨task, errand, waits, brings, -⟩ := told made
      exact (distinct.coming task errand id waits brings).2
    · exact distinct.known id earlier
  · intro task errand id found brings
    obtain ⟨earlier, unanswered⟩ := errand_of_made found brings
    obtain ⟨new, known⟩ := distinct.coming task errand id earlier brings
    refine ⟨fun member => ?_, known⟩
    rw [Session.made_add, List.mem_append, Option.mem_toList] at member
    rcases member with made | old
    · obtain ⟨teller, told, waits, same, answered⟩ := told made
      obtain rfl := distinct.apart task teller _ _ id earlier waits brings same
      exact unanswered _ answered
    · exact new old
  · intro task other errand another id found others brings same
    exact distinct.apart task other errand another id (errand_of_made found brings).1
      (errand_of_made others same).1 brings same

/-- What was made before stays made. -/
theorem ttl?_isSome_add (moment : Store.Moment) (known : (Store.ttl? id past).isSome) :
    (Store.ttl? id (moment :: past)).isSome := by
  rw [Store.ttl?_add, Option.isSome_or, known, Bool.or_true]

/-- Leases stay distinct when something happens to the store. -/
theorem Distinct.stored (distinct : Distinct history errands past) (moment : Store.Moment) :
    Distinct history errands (moment :: past) := by
  refine { distinct with known := ?_, coming := ?_ }
  · intro id member
    exact ttl?_isSome_add moment (distinct.known id member)
  · intro task errand id found brings
    obtain ⟨new, known⟩ := distinct.coming task errand id found brings
    exact ⟨new, ttl?_isSome_add moment known⟩

/-- Leases stay distinct when the store serves an errand, since what it makes is new. -/
theorem Distinct.fetched {made : Manager.Call} {result : made.request.Outcome}
    (distinct : Distinct history errands past)
    (happens : store.happen sweep now fresh deed = (.outcome made.request result, after))
    (unused : Store.ttl? fresh past = none) :
    Distinct history (Function.update errands task (some ⟨made, some result⟩))
      (⟨now, store, deed, .outcome made.request result, after⟩ :: past) := by
  have stored := distinct.stored ⟨now, store, deed, .outcome made.request result, after⟩
  have granted {id} (brings : Errand.made? ⟨made, some result⟩ = some id) :
      (Store.Answer.grants? id (.outcome made.request result)).isSome ∧ id = fresh := by
    obtain ⟨_, span, -, grants⟩ := Latency.grants_of_made brings
    have granted := Option.isSome_of_eq_some grants
    exact ⟨granted, Store.fresh_of_grants happens granted⟩
  -- An errand for which the lease was made before has another one.
  have older {other errand id} (found : errands other = some errand) (brings : errand.made? = some id) :
      id ≠ fresh := by
    rintro rfl
    have known := (distinct.coming other errand id found brings).2
    rw [unused] at known
    cases known
  refine ⟨stored.once, stored.known, ?_, ?_⟩
  · intro other errand id found brings
    rcases errand_of_served found with ⟨-, old⟩ | ⟨rfl, rfl⟩
    · exact stored.coming other errand id old brings
    · obtain ⟨grants, rfl⟩ := granted brings
      refine ⟨fun member => ?_, ?_⟩
      · have known := distinct.known id member
        rw [unused] at known
        cases known
      · rw [Store.ttl?_add, Option.isSome_or, grants, Bool.true_or]
  · intro first second errand another id found others brings same
    rcases errand_of_served found with ⟨-, old⟩ | ⟨rfl, rfl⟩
    · rcases errand_of_served others with ⟨-, early⟩ | ⟨rfl, rfl⟩
      · exact distinct.apart first second errand another id old early brings same
      · exact absurd (granted same).2 (older old brings)
    · rcases errand_of_served others with ⟨-, early⟩ | ⟨rfl, rfl⟩
      · exact absurd (granted brings).2 (older early same)
      · rfl

end

/-! ## Worlds -/

/-- A world whose parts agree. -/
structure Coherent (world : World) : Prop where
  lived : Session.Lived world.history world.session
  kept : Store.Kept world.past world.store
  order : ∀ moment ∈ world.past, moment.now ≤ world.now
  distinct : Distinct world.history world.errands world.past

section
variable {world next first last : World} {act : Act} {deeds : List Deed} {id : String}

theorem coherent_opened {first : Except Error String} {store : Store} {past : List Store.Moment}
    {session : Session} {now : Instant} {label : String} {span : Duration}
    {timing : SessionSettings} (kept : Store.Kept past store)
    (order : ∀ moment ∈ past, moment.now ≤ now) (valid : Session.validate span timing = .ok ())
    (made : ∀ id, first = .ok id →
      ∃ moment ∈ past, moment.answer = .outcome (.create label span) (.ok id))
    (opened : Session.opened now label span timing first = .ok session) :
    Coherent ⟨now, session, ⟨first, []⟩, fun _ => none, store, past, []⟩ := by
  refine ⟨.opened valid opened, kept, order, ?_, ?_, ?_, ?_⟩
  · cases first <;> simp [Session.History.made, Except.toOption]
  · intro id member
    have first : first = .ok id := by
      cases first with
      | error => cases member
      | ok told => rw [List.mem_singleton.mp member]
    obtain ⟨moment, member, answer⟩ := made id first
    refine Option.isSome_iff_exists.mpr ⟨span, kept.ttl?_of_mem member ?_⟩
    rw [answer]
    exact if_pos rfl
  · intro _ _ _ found
    cases found
  · intro _ _ _ _ _ found
    cases found

/-- Whatever happens to the store, the parts agree. -/
theorem Coherent.stores {event : Store.Event} {answer : Store.Answer} (coherent : Coherent world)
    (stores : world.Stores event answer next) : Coherent next := by
  obtain ⟨sweep, fresh, after, happens, unused, rfl⟩ := stores
  obtain ⟨lived, kept, order, distinct⟩ := coherent
  exact ⟨lived, kept_on kept order happens unused, List.forall_mem_cons.mpr ⟨Nat.le_refl _, order⟩,
    distinct.stored _⟩

theorem Coherent.step (coherent : Coherent world) (step : Step world act next) : Coherent next := by
  cases step with
  | waited later =>
    exact { coherent with order := fun moment member => Nat.le_trans (coherent.order moment member) later }
  | moved replies stepped =>
    exact { coherent with
      lived := coherent.lived.happened stepped
      distinct := coherent.distinct.moved replies }
  | fetched waits serves =>
    obtain ⟨event, -, stores⟩ := serves
    have stored := coherent.stores stores
    obtain ⟨sweep, fresh, after, happens, unused, rfl⟩ := stores
    exact { stored with distinct := coherent.distinct.fetched happens unused }
  | shared stores => exact coherent.stores stores
  | put asked serves =>
    obtain ⟨event, -, stores⟩ := serves
    exact { coherent.stores stores with }
  | began | judged => exact { coherent with }

theorem Reached.coherent (reached : Reached world) : Coherent world := by
  induction reached with
  | opened kept order valid made opened => exact coherent_opened kept order valid made opened
  | stepped _ step ih => exact ih.step step

/-- What a run comes to is reached, and so is every world on the way. -/
theorem Ran.reached (ran : Ran first deeds last) (reached : Reached first) :
    Reached last ∧ ∀ deed ∈ deeds, Reached deed.before := by
  induction ran with
  | still => exact ⟨reached, List.forall_mem_nil _⟩
  | did _ step ih => exact ⟨ih.1.stepped step, List.forall_mem_cons.mpr ih⟩

/-! ## The lease in the meantime -/

/-- From one world to another the session has had the same lease all the time: it was active with the
lease in every world on the way, and it was neither given a lease nor has it given one up. -/
structure Undisturbed (id : String) (first : World) (deeds : List Deed) (last : World) : Prop where
  began : first.session.state = .active ∧ first.session.id = id
  stayed : ∀ deed ∈ deeds, deed.after.session.state = .active ∧ deed.after.session.id = id
  made : last.history.made = first.history.made
  surrendered : last.history.surrendered = first.history.surrendered

/-- What happens to the store leaves the session and its attempts alone. -/
theorem World.Stores.spares {event : Store.Event} {answer : Store.Answer}
    (stores : world.Stores event answer next) :
    next.session = world.session ∧ next.history = world.history ∧ next.attempts = world.attempts := by
  obtain ⟨_, _, _, -, -, rfl⟩ := stores
  exact ⟨rfl, rfl, rfl⟩

/-- An act leaves the session alone, or it is an event of the session, which its history tells. -/
theorem Step.session_after (step : Step world act next) :
    next.session = world.session ∧ next.history = world.history ∨
      ∃ event call, world.session.step world.now event = some (next.session, call) ∧
        next.history = world.history.add ⟨world.now, world.session, event, next.session, call⟩ := by
  cases step with
  | moved _ stepped => exact .inr ⟨_, _, stepped, rfl⟩
  | fetched _ serves | put _ serves =>
    obtain ⟨_, -, stores⟩ := serves
    obtain ⟨session, history, -⟩ := stores.spares
    exact .inl ⟨session, history⟩
  | shared stores =>
    obtain ⟨session, history, -⟩ := stores.spares
    exact .inl ⟨session, history⟩
  | waited | began | judged => exact .inl ⟨rfl, rfl⟩

/-- What was made for the session stays made. -/
theorem Ran.made_stays (ran : Ran first deeds last) (made : id ∈ first.history.made) :
    id ∈ last.history.made := by
  induction ran with
  | still => exact made
  | did _ step ih =>
    rcases step.session_after with ⟨-, same⟩ | ⟨event, call, -, added⟩
    · rwa [same]
    · rw [added, Session.made_add]
      exact List.mem_append_right _ ih

/-- A lease that is live and was made before the last act was live before it. -/
theorem Step.live_before (coherent : Coherent world) (step : Step world act next)
    (made : id ∈ world.history.made) (live : next.session.liveId = .ok id) :
    world.session.liveId = .ok id ∧ next.history.made = world.history.made ∧
      next.history.surrendered = world.history.surrendered := by
  have once := (coherent.step step).distinct.once
  rcases step.session_after with ⟨same, history⟩ | ⟨event, call, stepped, added⟩
  · rw [← same, history]
    exact ⟨live, rfl, rfl⟩
  · rw [added] at once ⊢
    exact coherent.lived.live_before stepped once made live

/-- A lease that is live and was made before a run was the session's throughout. -/
theorem Ran.undisturbed (ran : Ran first deeds last) (reached : Reached first)
    (made : id ∈ first.history.made) (live : last.session.liveId = .ok id) :
    Undisturbed id first deeds last := by
  have active {session : Session} (live : session.liveId = .ok id) :
      session.state = .active ∧ session.id = id := by
    obtain ⟨active, held, -⟩ := Session.liveId_eq_ok_iff.mp live
    exact ⟨active, held⟩
  induction ran with
  | still => exact ⟨active live, List.forall_mem_nil _, rfl, rfl⟩
  | did ran step ih =>
    have coherent := (ran.reached reached).1.coherent
    obtain ⟨before, madeSame, surrenderedSame⟩ := step.live_before coherent (ran.made_stays made) live
    obtain ⟨began, stayed, sameMade, sameSurrendered⟩ := ih before
    exact ⟨began, List.forall_mem_cons.mpr ⟨active live, stayed⟩, madeSame.trans sameMade,
      surrenderedSame.trans sameSurrendered⟩

/-! ## What the store says -/

/-- Whether a lease is in the store, with its deadline ahead. -/
def World.Keeps (world : World) (id : String) : Prop :=
  ∃ lease ∈ world.store.leases, lease.id = id ∧ world.now < lease.deadline

section
variable {key : String} {value : List UInt8} {answer : Except Error Bool}

/-- The store is out of reach, or it serves the request to write a key without the leases that are
overdue. -/
theorem World.Serves.course (serves : world.Serves (.put key value id) answer next) :
    (∃ text, answer = .error (.backendUnavailable text)) ∨
      ∃ sweep fresh, Store.Served (world.store.prune sweep world.now) world.now fresh
        (.put key value id) answer next.store := by
  obtain ⟨event, about, sweep, fresh, after, happens, -, rfl⟩ := serves
  rcases about with rfl | rfl
  · simp only [Store.happen, Store.serve, Store.refusal?] at happens
    split at happens
    · cases happens
      exact .inr ⟨sweep, fresh, Store.served_of_serveLive ..⟩
    · cases happens
      exact .inl ⟨_, rfl⟩
  · cases happens
    exact .inr ⟨sweep, fresh, Store.served_of_serveLive ..⟩

/-- A key that is locked for a lease has what was to be written and the lease, which is live. -/
theorem World.Serves.locked (serves : world.Serves (.put key value id) (.ok true) next) :
    world.Keeps id ∧ next.store.entry? key = some ⟨key, value, some id, next.store.index⟩ := by
  rcases serves.course with ⟨_, failed⟩ | ⟨sweep, fresh, served⟩
  · cases failed
  · generalize next.store = after at served ⊢
    cases served with
    | locked known =>
      refine ⟨Store.ahead_of_pruned known, ?_⟩
      rw [Store.write_entry, if_pos rfl]
      rfl

/-- A key that is not locked is left as it is, since another lease has locked it, which is live. -/
theorem World.Serves.taken (coherent : Coherent world)
    (serves : world.Serves (.put key value id) (.ok false) next) :
    ∃ holder, holder ≠ id ∧ world.Keeps holder ∧ world.store.holder? key = some holder ∧
      next.store.entry? key = world.store.entry? key := by
  rcases serves.course with ⟨_, failed⟩ | ⟨sweep, fresh, served⟩
  · cases failed
  · generalize next.store = after at served ⊢
    cases served with
    | taken known held other =>
      have pruned := coherent.kept.sound.prune sweep world.now
      exact ⟨_, other, Store.ahead_of_pruned (pruned.held key _ held),
        (Store.prune_holder.mp held).1, Store.prune_entry held⟩

/-- The store does not blame a holder by an error. -/
theorem World.Serves.blames_nobody {error : Error}
    (serves : world.Serves (.put key value id) (.error error) next) (named : String) :
    error ≠ .lockHeldByOther named := by
  rcases serves.course with ⟨_, failed⟩ | ⟨sweep, fresh, served⟩
  · cases failed
    nofun
  · generalize next.store = after at served
    cases served
    nofun

end

/-! ## The course of an attempt -/

/-- Whether the store serves the request of an attempt. -/
def Act.puts (index : Nat) : Act → Bool
  | .put attempt _ => attempt = index
  | _ => false

/-- The store serves the request of an attempt to write a key, made with a lease. -/
def Deed.Puts (deed : Deed) (index : Nat) (key : String) (value : List UInt8) (id : String)
    (answer : Except Error Bool) : Prop :=
  deed.act = .put index (.put key value id) ∧
    ∃ served, deed.before.Serves (.put key value id) answer served ∧ deed.after.store = served.store

/-- What an act makes of an attempt. -/
inductive Move (index : Nat) (world : World) (act : Act) (next : World) : Attempt → Prop where
  /-- The act is not about it. -/
  | left (quiet : act.puts index = false) (found : next.attempts[index]? = some attempt) :
      Move index world act next attempt
  /-- The store serves its request. -/
  | served {id : String} (puts : Deed.Puts ⟨world, act, next⟩ index key value id answer)
      (found : next.attempts[index]? = some ⟨key, value, .answered id answer⟩) :
      Move index world act next ⟨key, value, .asked id⟩
  /-- It ends. -/
  | judged {id : String} (found : next.attempts[index]? = some ⟨key, value, .ended result⟩) :
      Move index world act next ⟨key, value, .answered id answer⟩

theorem Step.move {attempt : Attempt} {index : Nat} (step : Step world act next)
    (found : world.attempts[index]? = some attempt) : Move index world act next attempt := by
  have inside := (List.getElem?_eq_some_iff.mp found).1
  cases step with
  | waited | moved => exact .left rfl found
  | fetched _ serves =>
    obtain ⟨_, -, stores⟩ := serves
    exact .left rfl (stores.spares.2.2 ▸ found)
  | shared stores => exact .left rfl (stores.spares.2.2 ▸ found)
  | began =>
    refine .left rfl ?_
    rw [List.getElem?_append_left inside, found]
  | @put other _ _ answer served id asked serves =>
    by_cases same : other = index
    · subst same
      rw [found] at asked
      cases asked
      exact .served ⟨rfl, served, serves, rfl⟩ (List.getElem?_set_self inside)
    · refine .left (decide_eq_false same) ?_
      rw [List.getElem?_set_ne same, found]
  | @judged other _ _ answer id answered =>
    by_cases same : other = index
    · subst same
      rw [found] at answered
      cases answered
      exact .judged (List.getElem?_set_self inside)
    · refine .left rfl ?_
      rw [List.getElem?_set_ne same, found]

section
variable {key : String} {value : List UInt8} {index : Nat}

/-- An attempt that is over stays so, and no request of it is served any more. -/
theorem Ran.ended_stays {result : Except Error Unit} (ran : Ran first deeds last)
    (ended : first.attempts[index]? = some ⟨key, value, .ended result⟩) :
    last.attempts[index]? = some ⟨key, value, .ended result⟩ ∧
      ∀ deed ∈ deeds, deed.act.puts index = false := by
  induction ran with
  | still => exact ⟨ended, List.forall_mem_nil _⟩
  | did _ step ih =>
    cases step.move ih.1 with
    | left quiet found => exact ⟨found, List.forall_mem_cons.mpr ⟨quiet, ih.2⟩⟩

/-- How far an attempt has come in a run, by what the store has served for it. -/
inductive Progress (index : Nat) (key : String) (value : List UInt8) (id : String)
    (deeds : List Deed) (last : World) : Prop where
  | asked (unserved : deeds.filter (·.act.puts index) = [])
      (found : last.attempts[index]? = some ⟨key, value, .asked id⟩)
  | answered (served : deeds.filter (·.act.puts index) = [deed])
      (puts : deed.Puts index key value id answer)
      (found : last.attempts[index]? = some ⟨key, value, .answered id answer⟩)
  | ended (found : last.attempts[index]? = some ⟨key, value, .ended result⟩)

theorem Ran.progress (ran : Ran first deeds last)
    (asked : first.attempts[index]? = some ⟨key, value, .asked id⟩) :
    Progress index key value id deeds last := by
  induction ran with
  | still => exact .asked rfl asked
  | did _ step ih =>
    cases ih with
    | asked unserved found =>
      cases step.move found with
      | left quiet found =>
        refine .asked ?_ found
        rw [List.filter_cons, if_neg (Bool.not_eq_true _ ▸ quiet), unserved]
      | served puts found =>
        refine .answered ?_ puts found
        obtain ⟨put, -⟩ := puts
        rw [List.filter_cons, if_pos, unserved]
        rw [put]
        exact decide_eq_true rfl
    | answered served puts found =>
      cases step.move found with
      | left quiet found =>
        refine .answered ?_ puts found
        rw [List.filter_cons, if_neg (Bool.not_eq_true _ ▸ quiet), served]
      | judged found => exact .ended found
    | ended found =>
      cases step.move found with
      | left _ found => exact .ended found

/-- An attempt that is over does not end again. -/
theorem not_judged_of_ended {result again : Except Error Unit}
    (ended : world.attempts[index]? = some ⟨key, value, .ended result⟩) :
    ¬ Step world (.judged index again) next := by
  intro judged
  cases judged with
  | judged answered =>
    rw [ended] at answered
    cases answered

/-- An attempt that ends had its request served once, and says what the answer to that comes to. -/
theorem Ran.put_of_judged {result : Except Error Unit} {final : World} (ran : Ran first deeds last)
    (asked : first.attempts[index]? = some ⟨key, value, .asked id⟩)
    (judged : Step last (.judged index result) final) :
    ∃ deed answer, deeds.filter (·.act.puts index) = [deed] ∧
      deed.Puts index key value id answer ∧ result = last.session.lockResult key id answer := by
  cases ran.progress asked with
  | ended found => exact absurd judged (not_judged_of_ended found)
  | asked _ found =>
    cases judged with
    | judged answered =>
      rw [found] at answered
      cases answered
  | answered served puts found =>
    cases judged with
    | judged answered =>
      rw [found] at answered
      cases answered
      exact ⟨_, _, served, puts, rfl⟩

end

/-- **What locking a key means.** Calls and attempts take their time, the store may be out of reach, leases
are made with distinct ids, and whatever else happens to the store is up to others. An attempt that begins
without a live lease is over at once, and nothing is asked of the store. Any other one that ends has made
one request, with the lease that the session had when it began. If it succeeds, that lease was live when
the request was served, the key had then what was to be written and the lease as its holder, and the
session has had the lease all the time. If it blames another holder, a live lease held the key when the
request was served, and the entry of the key was left as it was. -/
theorem lock_granted_to_lease {key : String} {value : List UInt8} (reached : Reached world)
    (began : Step world (.began key value) first) (ran : Ran first deeds last) :
    ((world.session.state ≠ .active ∨ world.session.id = "") →
      last.attempts[world.attempts.length]? = some ⟨key, value, .ended (.error .sessionInvalid)⟩ ∧
        ∀ deed ∈ deeds, deed.act.puts world.attempts.length = false) ∧
    ∀ result final, Step last (.judged world.attempts.length result) final →
      ∃ deed, deeds.filter (·.act.puts world.attempts.length) = [deed] ∧
        deed.act = .put world.attempts.length (.put key value world.session.id) ∧
        (result = .ok () →
          deed.before.Keeps world.session.id ∧
          deed.after.store.entry? key =
            some ⟨key, value, some world.session.id, deed.after.store.index⟩ ∧
          Undisturbed world.session.id first deeds last) ∧
        ∀ named, result = .error (.lockHeldByOther named) → named = key ∧
          ∃ holder, holder ≠ world.session.id ∧ deed.before.Keeps holder ∧
            deed.before.store.holder? key = some holder ∧
            deed.after.store.entry? key = deed.before.store.entry? key := by
  have coherent := reached.coherent
  have reached := reached.stepped began
  cases began
  have found {phase} (begins : (Attempt.begun world.session key value).phase = phase) :
      (world.attempts ++ [.begun world.session key value])[world.attempts.length]? =
        some ⟨key, value, phase⟩ := by
    rw [List.getElem?_concat_length, ← begins]
    rfl
  refine ⟨fun without => ?_, fun result final judged => ?_⟩
  · have dead : world.session.liveId = .error .sessionInvalid := if_pos without
    exact ran.ended_stays (found (by rw [Attempt.begun, dead]))
  · cases live : world.session.liveId with
    | error error =>
      obtain ⟨ended, -⟩ := ran.ended_stays (found (by rw [Attempt.begun, live]))
      exact absurd judged (not_judged_of_ended ended)
    | ok id =>
      obtain ⟨-, rfl, leased⟩ := Session.liveId_eq_ok_iff.mp live
      have made := coherent.lived.lease_made leased
      obtain ⟨deed, answer, once, ⟨put, served, serves, same⟩, rfl⟩ :=
        ran.put_of_judged (found (by rw [Attempt.begun, live])) judged
      have member : deed ∈ deeds := (List.mem_filter.mp (once ▸ List.mem_singleton_self deed)).1
      have before := ((ran.reached reached).2 deed member).coherent
      refine ⟨deed, once, put, fun granted => ?_, fun named blamed => ?_⟩
      · obtain ⟨rfl, live⟩ := Session.lockResult_eq_ok granted
        obtain ⟨keeps, entry⟩ := serves.locked
        rw [same]
        exact ⟨keeps, entry, ran.undisturbed reached made live⟩
      · rcases Session.lockResult_eq_held blamed with ⟨rfl, rfl, -⟩ | rfl
        · rw [same]
          exact ⟨rfl, serves.taken before⟩
        · exact absurd rfl (serves.blames_nobody named)

end

/-- What has happened to a store that made a lease. -/
private def leased : List Store.Moment :=
  [⟨0, {}, .requested (.create "a-session" (.seconds 20)),
    .outcome (.create "a-session" (.seconds 20)) (.ok "L1"), Latency.keeping 20000000000⟩]

/-- A session whose monitor sleeps, and a store that keeps its lease. -/
private def resting (now : Instant) (store : Store) (past : List Store.Moment)
    (attempts : List Attempt) : World where
  now := now
  session := Tolerance.attended "a-session" (.seconds 20) {} ⟨"L1", .active, 0, 0⟩ []
    (.asleep 0 (.seconds 10))
  history := ⟨.ok "L1", []⟩
  errands := fun _ => none
  store := store
  past := past
  attempts := attempts

private theorem reached_resting : Reached (resting 1000000000 (Latency.keeping 20000000000) leased []) := by
  have kept := Store.Kept.happened .new (by simp) Latency.lease_made (fun _ _ => rfl)
  have opened := Reached.opened kept (by simp) (rfl : Session.validate (.seconds 20) {} = .ok ())
    (by rintro id ⟨⟩; exact ⟨_, List.mem_singleton.mpr rfl, rfl⟩)
    (rfl : Session.opened 0 "a-session" (.seconds 20) {} (.ok "L1") =
      .ok (resting 0 {} [] []).session)
  exact opened.stepped (.waited (by decide))

/-- An attempt begins after one second and is served after two. Its answer arrives after three. -/
theorem late_answer_grants : ∃ world first deeds last final deed,
    (Reached world ∧ Step world (.began "foo" [1]) first ∧ Ran first deeds last ∧
      Step last (.judged world.attempts.length (.ok ())) final) ∧
    (first.now = 1000000000 ∧ deed.before.now = 2000000000 ∧ final.now = 3000000000) ∧
    deeds.filter (·.act.puts world.attempts.length) = [deed] ∧ deed.before.Keeps "L1" ∧
      deed.after.store.entry? "foo" = some ⟨"foo", [1], some "L1", 2⟩ ∧
      Undisturbed "L1" first deeds last := by
  let locked : Store := (Latency.keeping 20000000000).write ⟨"foo", [1], some "L1", 2⟩
  let asked : Attempt := ⟨"foo", [1], .asked "L1"⟩
  let answered : Attempt := ⟨"foo", [1], .answered "L1" (.ok true)⟩
  let past : List Store.Moment :=
    ⟨2000000000, Latency.keeping 20000000000, .requested (.put "foo" [1] "L1"),
      .outcome (.put "foo" [1] "L1") (.ok true), locked⟩ :: leased
  have began : Step (resting 1000000000 (Latency.keeping 20000000000) leased []) (.began "foo" [1])
      (resting 1000000000 (Latency.keeping 20000000000) leased [asked]) := .began
  have waited : Step (resting 1000000000 (Latency.keeping 20000000000) leased [asked])
      (.waited 2000000000) (resting 2000000000 (Latency.keeping 20000000000) leased [asked]) :=
    .waited (by decide)
  have put : Step (resting 2000000000 (Latency.keeping 20000000000) leased [asked])
      (.put 0 (.put "foo" [1] "L1")) (resting 2000000000 locked past [answered]) :=
    .put rfl ⟨_, .inl rfl, .oldestFirst, "", locked, rfl, rfl, rfl⟩
  have later : Step (resting 2000000000 locked past [answered]) (.waited 3000000000)
      (resting 3000000000 locked past [answered]) := .waited (by decide)
  have found : (resting 3000000000 locked past [answered]).attempts[0]? = some answered := rfl
  have judged : Step (resting 3000000000 locked past [answered]) (.judged 0 (.ok ())) _ :=
    .judged found
  have ran := ((Ran.still.did waited).did put).did later
  obtain ⟨deed, served, -, granted, -⟩ :=
    (lock_granted_to_lease reached_resting began ran).2 _ _ judged
  obtain rfl := (List.cons.inj served).1
  obtain ⟨keeps, entry, undisturbed⟩ := granted rfl
  exact ⟨_, _, _, _, _, _, ⟨reached_resting, began, ran, judged⟩, ⟨rfl, rfl, rfl⟩, served, keeps,
    entry, undisturbed⟩

end Leasehold.Attempts
