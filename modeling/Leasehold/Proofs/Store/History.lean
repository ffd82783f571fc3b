import Leasehold.Proofs.Store.Serving

/-! What has happened to a store, moment by moment. It does not matter who makes the requests, how long
they are under way, or whether anybody still waits for the answers: a store is changed by nothing but
the events here, in the order in which it takes them. A request may also have found the store
reachable and have to wait for its turn, while the store goes out of reach.

What a history says of leases is read off the answers alone. `Sound` compares that with the store. -/
namespace Leasehold.Store

/-! ## Events -/

/-- What happens to a store. -/
inductive Event where
  /-- A request reaches the store. -/
  | requested (request : Backend.Request)
  /-- A request has its turn that found the store reachable when it came. -/
  | admitted (request : Backend.Request)
  /-- The store goes out of reach, or comes back. -/
  | switched (reachable : Bool)
  /-- The operator counts the live leases. -/
  | counted
  /-- The operator wipes all leases. -/
  | wiped

/-- What the store answers to an event. -/
inductive Answer where
  | outcome (request : Backend.Request) (result : request.Outcome)
  | number (count : Nat)
  | nothing

/-- Lets an event happen to a store. -/
def happen (sweep : Sweep) (now : Instant) (fresh : String) (event : Event) (store : Store) :
    Answer × Store :=
  match event with
  | .requested request =>
    let (result, next) := store.serve sweep now fresh request
    (.outcome request result, next)
  | .admitted request =>
    match refusal? request with
    | some error => (.outcome request (.error error), store)
    | none =>
      let (result, next) := (store.prune sweep now).serveLive now fresh request
      (.outcome request result, next)
  | .switched reachable => (.nothing, store.setReachable reachable)
  | .counted =>
    let (count, next) := store.count sweep now
    (.number count, next)
  | .wiped =>
    let (count, next) := store.wipe sweep
    (.number count, next)

/-- The ways in which an event can end, each with what it makes of the store. -/
inductive Course (store : Store) (sweep : Sweep) (now : Instant) (fresh : String) :
    Event → Answer → Store → Prop where
  /-- A request fails before it comes to the leases and keys. -/
  | declined (about : event = .requested request ∨ event = .admitted request) :
      Course store sweep now fresh event (.outcome request (.error error)) store
  /-- A request is served, after the leases that are overdue were removed. -/
  | served (about : event = .requested request ∨ event = .admitted request)
      (accepted : refusal? request = none)
      (served : Served (store.prune sweep now) now fresh request result next) :
      Course store sweep now fresh event (.outcome request result) next
  | switched {value : Bool} : Course store sweep now fresh (.switched value) .nothing
      (store.setReachable value)
  | counted : Course store sweep now fresh .counted (.number (store.count sweep now).1)
      (store.prune sweep now)
  | wiped : Course store sweep now fresh .wiped (.number (store.wipe sweep).1) (store.wipe sweep).2

theorem course_of_happen {store : Store}
    (happens : store.happen sweep now fresh event = (answer, next)) :
    Course store sweep now fresh event answer next := by
  cases event with
  | requested request =>
    simp only [happen, serve] at happens
    split at happens
    · cases happens; exact .declined (.inl rfl)
    · rename_i accepted
      split at happens
      · cases happens; exact .served (.inl rfl) accepted (served_of_serveLive ..)
      · cases happens; exact .declined (.inl rfl)
  | admitted request =>
    simp only [happen] at happens
    split at happens
    · cases happens; exact .declined (.inr rfl)
    · rename_i accepted
      cases happens
      exact .served (.inr rfl) accepted (served_of_serveLive ..)
  | switched reachable => cases happens; exact .switched
  | counted => cases happens; exact .counted
  | wiped => cases happens; exact .wiped

/-! ## Histories -/

/-- One thing that happened to a store. -/
structure Moment where
  /-- When it happened. -/
  now : Instant
  /-- The store before. -/
  before : Store
  /-- What happened. -/
  event : Event
  /-- What the store answered. -/
  answer : Answer
  /-- The store afterwards. -/
  after : Store

/-- The TTL of the lease with this id, if the answer is that it was made. -/
def Answer.grants? (id : String) : Answer → Option Duration
  | .outcome (.create _ ttl) (.ok made) => if made = id then some ttl else none
  | _ => none

/-- Whether the answer is that the lease with this id lives on. -/
def Answer.renews (id : String) : Answer → Bool
  | .outcome (.renew renewed) (.ok ()) => renewed = id
  | _ => false

theorem grants?_error {id : String} {error : Error} :
    Answer.grants? id (.outcome request (.error error)) = none := by
  cases request <;> rfl

theorem renews_error {id : String} {error : Error} :
    Answer.renews id (.outcome request (.error error)) = false := by
  cases request <;> rfl

/-- The TTL with which a lease was made. -/
def ttl? (id : String) (history : List Moment) : Option Duration :=
  history.findSome? (·.answer.grants? id)

/-- When a lease was made or renewed last. -/
def renewedAt? (id : String) (history : List Moment) : Option Instant :=
  (history.find? fun moment =>
    (moment.answer.grants? id).isSome || moment.answer.renews id).map (·.now)

/-- When a lease is overdue: its TTL after it was made or renewed last. -/
def deadline? (id : String) (history : List Moment) : Option Instant :=
  (renewedAt? id history).bind fun time => (ttl? id history).map (time + ·.nanos)

/-- A store with what has happened to it, the latest first. Time does not run backwards, and no two
leases are made with the same id. -/
inductive Kept : List Moment → Store → Prop where
  | new : Kept [] {}
  | happened (kept : Kept history store) (order : ∀ moment ∈ history, moment.now ≤ now)
      (happens : store.happen sweep now fresh event = (answer, next))
      (unique : ∀ id, (answer.grants? id).isSome → ttl? id history = none) :
      Kept (⟨now, store, event, answer, next⟩ :: history) next

/-- Moments are in the order of their times. -/
theorem Kept.order (kept : Kept history store) :
    history.Pairwise fun later earlier => earlier.now ≤ later.now := by
  induction kept with
  | new => exact .nil
  | happened _ order _ _ ih => exact .cons order ih

/-- Each part of a history up to some time is the history of a store. -/
theorem Kept.of_append (kept : Kept (later ++ history) store) : ∃ reached, Kept history reached := by
  induction later generalizing store with
  | nil => exact ⟨store, kept⟩
  | cons moment later ih => cases kept with | happened kept => exact ih kept

/-- A lease is made with the id that was on offer. -/
theorem fresh_of_grants {store : Store} {id : String}
    (happens : store.happen sweep now fresh event = (answer, next))
    (granted : (answer.grants? id).isSome) : id = fresh := by
  cases course_of_happen happens with
  | declined => rw [grants?_error] at granted; cases granted
  | served about accepted served =>
    cases served with
    | created =>
      simp only [Answer.grants?] at granted
      split at granted
      · rename_i same; exact same.symm
      · cases granted
    | _ => cases granted
  | _ => cases granted

/-- Lets events happen one after the other and keeps the history, as long as time does not run
backwards and no id is used twice. -/
def replay : List Moment × Store → List (Instant × String × Event) →
    Option (List Moment × Store)
  | reached, [] => some reached
  | (history, store), (now, fresh, event) :: rest =>
    let (answer, next) := store.happen .oldestFirst now fresh event
    if history.all (·.now ≤ now) ∧ ttl? fresh history = none then
      replay (⟨now, store, event, answer, next⟩ :: history, next) rest
    else none

/-- Events that happen one after the other make a longer history. -/
theorem kept_of_replay (kept : Kept history store)
    (ran : replay (history, store) events = some (later, reached)) : Kept later reached := by
  induction events generalizing history store with
  | nil => cases ran; exact kept
  | cons event rest ih =>
    obtain ⟨now, fresh, event⟩ := event
    simp only [replay] at ran
    split at ran
    · rename_i fits
      refine ih (.happened kept ?_ rfl ?_) ran
      · simpa using fits.1
      · rintro id granted
        rw [fresh_of_grants rfl granted]
        exact fits.2
    · cases ran

theorem Kept.not_wiped (kept : Kept (moment :: history) store)
    (answered : moment.answer = .outcome request result) : moment.event ≠ .wiped := by
  intro wiped
  cases kept with
  | happened _ _ happens _ =>
    cases wiped
    cases answered
    cases course_of_happen happens with
    | declined about | served about => rcases about with about | about <;> cases about

/-! ## One more moment -/

section
variable {id : String} {moment : Moment} {history : List Moment} {store next : Store}

theorem ttl?_add (moment : Moment) (history : List Moment) :
    ttl? id (moment :: history) = (moment.answer.grants? id).or (ttl? id history) := by
  rw [ttl?, List.findSome?_cons]
  cases moment.answer.grants? id <;> rfl

theorem deadline?_quiet (made : moment.answer.grants? id = none)
    (renewed : moment.answer.renews id = false) :
    deadline? id (moment :: history) = deadline? id history := by
  simp [deadline?, renewedAt?, ttl?_add, made, renewed]

theorem deadline?_granted (made : moment.answer.grants? id = some ttl) :
    deadline? id (moment :: history) = some (moment.now + ttl.nanos) := by
  simp [deadline?, renewedAt?, ttl?_add, made]

theorem deadline?_renewed (made : moment.answer.grants? id = none)
    (renewed : moment.answer.renews id = true) (earlier : ttl? id history = some ttl) :
    deadline? id (moment :: history) = some (moment.now + ttl.nanos) := by
  simp [deadline?, renewedAt?, ttl?_add, made, renewed, earlier]

theorem ttl?_of_deadline? (due : deadline? id history = some deadline) :
    ∃ ttl, ttl? id history = some ttl := by
  obtain ⟨time, _, ttl⟩ := Option.bind_eq_some_iff.mp due
  obtain ⟨ttl, made, _⟩ := Option.map_eq_some_iff.mp ttl
  exact ⟨ttl, made⟩

/-- A lease is due at most its TTL after the last moment. -/
theorem deadline?_le {deadline now : Instant} (due : deadline? id history = some deadline)
    (made : ttl? id history = some ttl) (order : ∀ moment ∈ history, moment.now ≤ now) :
    deadline ≤ now + ttl.nanos := by
  obtain ⟨time, renewed, due⟩ := Option.bind_eq_some_iff.mp due
  rw [made] at due
  cases due
  obtain ⟨moment, found, rfl⟩ := Option.map_eq_some_iff.mp renewed
  exact Nat.add_le_add_right (order moment (List.mem_of_find?_eq_some found)) _

/-- A lease has the TTL with which it was made at some moment. -/
theorem Kept.ttl?_of_mem (kept : Kept history store) (member : moment ∈ history)
    (granted : moment.answer.grants? id = some ttl) : ttl? id history = some ttl := by
  induction kept with
  | new => cases member
  | @happened history store now sweep fresh event answer next _ _ _ unique ih =>
    rw [ttl?_add]
    rcases List.mem_cons.mp member with rfl | earlier
    · rw [granted, Option.some_or]
    · cases again : answer.grants? id with
      | none => rw [Option.none_or, ih earlier]
      | some other =>
        have unmade := unique id (by rw [again]; rfl)
        rw [ih earlier] at unmade
        cases unmade

end

/-! ## Stores that agree with their history -/

/-- The leases and keys of a store agree with what has happened to it. -/
structure Sound (history : List Moment) (store : Store) : Prop where
  /-- No two leases have the same id. -/
  unique : store.ids.Nodup
  /-- The leases have the TTL with which they were made. -/
  made : ∀ lease ∈ store.leases, ttl? lease.id history = some lease.ttl
  /-- The leases have the deadline that their last renewal gave them. -/
  due : ∀ lease ∈ store.leases, deadline? lease.id history = some lease.deadline
  /-- Keys are held by leases that are in the store. -/
  held : ∀ key holder, store.holder? key = some holder → store.hasLease holder = true
  /-- No lease was made that is overdue at once. -/
  positive : ∀ id ttl, ttl? id history = some ttl → 0 < ttl.nanos

/-- A store is sound when it has lost leases of one that is, and the locks of those. -/
theorem Sound.of_fewer (sound : Sound history store) (unique : next.ids.Sublist store.ids)
    (fewer : ∀ lease ∈ next.leases, lease ∈ store.leases)
    (held : ∀ key holder, next.holder? key = some holder → next.hasLease holder = true) :
    Sound history next :=
  ⟨sound.unique.sublist unique, fun lease member => sound.made lease (fewer lease member),
    fun lease member => sound.due lease (fewer lease member), held, sound.positive⟩

/-- Pruning keeps a store sound. -/
theorem Sound.prune (sound : Sound history store) (sweep : Sweep) (now : Instant) :
    Sound history (store.prune sweep now) := by
  refine sound.of_fewer ids_prune (fun lease member => (mem_prune.mp member).1) ?_
  intro key holder held
  obtain ⟨held, live⟩ := prune_holder.mp held
  exact hasLease_prune.mpr ⟨sound.held key holder held, live⟩

/-- An answer that neither makes nor renews a lease leaves a store sound. -/
theorem Sound.of_quiet (sound : Sound history store)
    (made : ∀ id, moment.answer.grants? id = none)
    (renewed : ∀ id, moment.answer.renews id = false) : Sound (moment :: history) store := by
  have ttl (id : String) : ttl? id (moment :: history) = ttl? id history := by
    rw [ttl?_add, made, Option.none_or]
  refine ⟨sound.unique, ?_, ?_, sound.held, ?_⟩
  · intro lease member
    rw [ttl]
    exact sound.made lease member
  · intro lease member
    rw [deadline?_quiet (made _) (renewed _)]
    exact sound.due lease member
  · intro id span
    rw [ttl]
    exact sound.positive id span

section
variable {history : List Moment} {store before after : Store} {now : Instant} {event : Event}

/-- A lease that is made has an id of its own and its deadline ahead. -/
private theorem sound_created {fresh name : String} (sound : Sound history store)
    (accepted : refusal? (.create name ttl) = none) (new : ttl? fresh history = none) :
    Sound (⟨now, before, event, .outcome (.create name ttl) (.ok fresh), after⟩ :: history)
      { store with
        leases := store.leases ++ [⟨fresh, name, ttl, now + ttl.nanos, store.index + 1⟩]
        index := store.index + 1 } := by
  have grants (id : String) : Answer.grants? id (.outcome (.create name ttl) (.ok fresh)) =
      if fresh = id then some ttl else none := rfl
  have other : ∀ lease ∈ store.leases, fresh ≠ lease.id := by
    rintro lease member rfl
    rw [sound.made lease member] at new
    cases new
  refine ⟨?_, ?_, ?_, ?_, ?_⟩
  · rw [ids, List.map_append, List.nodup_append]
    refine ⟨sound.unique, List.pairwise_singleton .., ?_⟩
    intro id old made last
    obtain ⟨lease, member, rfl⟩ := List.mem_map.mp old
    rw [List.mem_singleton.mp last]
    exact (other lease member).symm
  · intro lease member
    rw [ttl?_add, grants]
    rcases List.mem_append.mp member with old | last
    · rw [if_neg (other lease old), Option.none_or, sound.made lease old]
    · cases List.mem_singleton.mp last
      rw [if_pos rfl, Option.some_or]
  · intro lease member
    rcases List.mem_append.mp member with old | last
    · rw [deadline?_quiet ((grants _).trans (if_neg (other lease old))) rfl, sound.due lease old]
    · cases List.mem_singleton.mp last
      exact deadline?_granted ((grants _).trans (if_pos rfl))
  · intro key holder held
    have known := hasLease_iff.mp (sound.held key holder held)
    rw [hasLease_iff, ids, List.map_append]
    exact List.mem_append_left _ known
  · intro id span made
    rw [ttl?_add, grants] at made
    split at made
    · cases made
      have positive : ttl.isZero = false := by
        simp only [refusal?] at accepted
        split at accepted
        · cases accepted
        · rename_i fitting; simp_all
      simpa [Duration.isZero, Nat.pos_iff_ne_zero] using positive
    · exact sound.positive id span made

/-- A lease that is renewed has its deadline ahead, and the others keep theirs. -/
private theorem sound_renewed {id : String} (sound : Sound history store) :
    Sound (⟨now, before, event, .outcome (.renew id) (.ok ()), after⟩ :: history)
      { store with
        leases := store.leases.map fun lease =>
          if lease.id = id then lease.renewAt now else lease } := by
  have ids_eq : ({ store with leases := store.leases.map fun lease =>
      if lease.id = id then lease.renewAt now else lease } : Store).ids = store.ids := by
    simp only [ids, List.map_map]
    congr 1
    funext lease
    simp only [Function.comp]
    split <;> rfl
  have ttl (other : String) : ttl? other
      (⟨now, before, event, .outcome (.renew id) (.ok ()), after⟩ :: history) = ttl? other history :=
    ttl?_add ..
  refine ⟨ids_eq ▸ sound.unique, ?_, ?_, ?_, ?_⟩
  · intro lease member
    obtain ⟨old, known, rfl⟩ := List.mem_map.mp member
    rw [ttl]
    split <;> exact sound.made old known
  · intro lease member
    obtain ⟨old, known, rfl⟩ := List.mem_map.mp member
    split
    · rename_i same
      exact deadline?_renewed rfl (by simp [Answer.renews, Lease.renewAt, same])
        (sound.made old known)
    · rename_i other
      rw [deadline?_quiet rfl (by simpa [Answer.renews] using Ne.symm other), sound.due old known]
  · intro key holder held
    rw [hasLease_iff, ids_eq, ← hasLease_iff]
    exact sound.held key holder held
  · intro other span made
    rw [ttl] at made
    exact sound.positive other span made

/-- Serving a request keeps a pruned store sound. -/
private theorem sound_served (sound : Sound history store)
    (served : Served store now fresh request result next) (accepted : refusal? request = none)
    (new : ∀ id, ((Answer.outcome request result).grants? id).isSome → ttl? id history = none) :
    Sound (⟨now, before, event, .outcome request result, after⟩ :: history) next := by
  cases served with
  | created =>
    exact sound_created sound accepted (new fresh (by simp [Answer.grants?]))
  | renewed => exact sound_renewed sound
  | unrenewed | listed | taken | unlockable | unreleasable | read =>
    exact sound.of_quiet (fun _ => rfl) (fun _ => rfl)
  | unheld =>
    exact (sound.of_quiet (fun _ => rfl) (fun _ => rfl)).of_fewer (List.Sublist.refl _)
      (fun _ member => member) sound.held
  | @destroyed id =>
    refine (sound.of_quiet (fun _ => rfl) (fun _ => rfl)).of_fewer
      (@ids_removeAll store [id]) (fun lease member => (mem_removeLease.mp member).1) ?_
    intro key holder held
    obtain ⟨held, other⟩ := removeLease_holder.mp held
    have known := sound.held key holder held
    exact hasLease_removeLease.mpr ⟨known, fun same => other ⟨same, same ▸ known⟩⟩
  | locked known free =>
    refine (sound.of_quiet (fun _ => rfl) (fun _ => rfl)).of_fewer
      (List.Sublist.refl _) (fun _ member => member) ?_
    intro key holder held
    rw [write_holder] at held
    split at held
    · cases held; exact known
    · exact sound.held key holder held
  | released known found own =>
    refine (sound.of_quiet (fun _ => rfl) (fun _ => rfl)).of_fewer
      (List.Sublist.refl _) (fun _ member => member) ?_
    intro key holder held
    rw [write_holder] at held
    split at held
    · cases held
    · exact sound.held key holder held

end

/-- A store agrees with its history at every time. -/
theorem Kept.sound (kept : Kept history store) : Sound history store := by
  induction kept with
  | new =>
    refine ⟨List.nodup_nil, by simp, by simp, ?_, by rintro _ _ ⟨⟩⟩
    rintro key holder ⟨⟩
  | happened kept order happens unique ih =>
    cases course_of_happen happens with
    | declined => exact ih.of_quiet (fun _ => grants?_error) (fun _ => renews_error)
    | served about accepted served => exact sound_served (ih.prune ..) served accepted unique
    | switched =>
      exact (ih.of_quiet (fun _ => rfl) (fun _ => rfl)).of_fewer (List.Sublist.refl _)
        (fun _ member => member) ih.held
    | counted => exact (ih.prune ..).of_quiet (fun _ => rfl) (fun _ => rfl)
    | wiped =>
      refine (ih.of_quiet (fun _ => rfl) (fun _ => rfl)).of_fewer ids_removeAll ?_ ?_
      · intro lease member
        rw [wipe_leases] at member
        cases member
      · intro key holder held
        obtain ⟨held, unknown⟩ := wipe_holder.mp held
        rw [ih.held key holder held] at unknown
        cases unknown

end Leasehold.Store
