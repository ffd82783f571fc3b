import Leasehold.Proofs.Store.Exclusion
import Leasehold.Proofs.Store.Foretelling

/-! The store answers what its past foretells, however late and in whatever order the leases that are
overdue are pruned. `Effect` says what an event makes of everything that a store shows, in terms of the
answer alone; `Foretold` follows the past with it. -/
namespace Leasehold.Store

section
variable {store next base : Store} {now : Instant} {id key fresh : String} {gone : List String}
variable {sweep : Sweep} {event : Event} {answer : Answer} {request : Backend.Request}
variable {result : request.Outcome}

/-! ## Leases that are removed -/

theorem removeLease_leases (store : Store) (id : String) :
    (store.removeLease id).leases = store.leases.filter (·.id != id) := by
  unfold removeLease
  split
  · rfl
  · rename_i absent
    symm
    rw [List.filter_eq_self]
    intro lease member
    rw [bne_iff_ne]
    rintro rfl
    exact absent (hasLease_of_mem member)

theorem removeAll_leases (store : Store) (gone : List String) :
    (gone.foldl removeLease store).leases = store.leases.filter fun lease => lease.id ∉ gone := by
  induction gone generalizing store with
  | nil => exact (List.filter_eq_self.mpr fun _ _ => by simp).symm
  | cons id gone ih =>
    rw [List.foldl_cons, ih, removeLease_leases, List.filter_filter]
    refine List.filter_congr fun lease _ => ?_
    by_cases same : lease.id = id <;> simp [same]

theorem hasLease_removeAll (store : Store) (gone : List String) (id : String) :
    (gone.foldl removeLease store).hasLease id = (store.hasLease id && id ∉ gone) := by
  rw [Bool.eq_iff_iff, Bool.and_eq_true, decide_eq_true_iff]
  simp only [hasLease_iff, ids, List.mem_map, mem_removeAll]
  constructor
  · rintro ⟨lease, ⟨member, stays⟩, rfl⟩
    exact ⟨⟨lease, member, rfl⟩, stays⟩
  · rintro ⟨⟨lease, member, rfl⟩, stays⟩
    exact ⟨lease, ⟨member, stays⟩, rfl⟩

theorem removeAll_value (gone : List String) (key : String)
    (removed : gone.foldl removeLease store = next) :
    (next.entry? key).map (·.value) = (store.entry? key).map (·.value) := by
  induction gone generalizing store with
  | nil => rw [← removed, List.foldl_nil]
  | cons id gone ih =>
    rw [ih removed]
    unfold removeLease
    split
    · simp only [find_unlock, entry?, Option.map_map]
      congr 1
      funext entry
      simp only [Function.comp, unlockFrom]
      split <;> rfl
    · rfl

private theorem removeLease_tally (unique : store.ids.Nodup) :
    (store.removeLease id).index + (store.removeLease id).leases.length =
      store.index + store.leases.length := by
  by_cases present : store.hasLease id = true
  · have member := hasLease_iff.mp present
    have index : (store.removeLease id).index = store.index + 1 := by
      rw [removeLease, if_pos present]
    have fewer : (store.removeLease id).leases.length = store.ids.length - 1 := by
      rw [removeLease_leases, ← List.length_erase_of_mem member, unique.erase_eq_filter, ids,
        List.filter_map, List.length_map]
      rfl
    have some : 0 < store.ids.length := List.length_pos_of_mem member
    have all : store.ids.length = store.leases.length := List.length_map ..
    omega
  · rw [removeLease, if_neg present]

/-- Each lease that is removed takes an index. -/
theorem removeAll_tally (unique : store.ids.Nodup) (gone : List String) :
    (gone.foldl removeLease store).index + (gone.foldl removeLease store).leases.length =
      store.index + store.leases.length := by
  induction gone generalizing store with
  | nil => rfl
  | cons id gone ih =>
    have fewer : (store.removeLease id).ids.Nodup := unique.sublist (@ids_removeAll store [id])
    rw [List.foldl_cons, ih fewer, removeLease_tally unique]

/-- A key that is written has the new entry, and the others have theirs. -/
theorem write_entry (entry : KeyEntry) (store : Store) (key : String) :
    Store.entry? (store.write entry) key = if entry.key = key then some entry else store.entry? key :=
  find_putEntry entry store.keys key

/-! ## What an event makes of a store -/

/-- All that an event makes of what a store shows, told by the answer. -/
structure Effect (base : Store) (event : Event) (answer : Answer) (next : Store) : Prop where
  hasLease : ∀ id, next.hasLease id =
    ((answer.grants? id).isSome || base.hasLease id && !ends event answer id)
  known : ∀ id, answer.renews id = true → base.hasLease id = true
  leases : next.leases.map Lease.descriptor =
    ((base.leases.map Lease.descriptor).filter fun lease => !ends event answer lease.id) ++
      (answer.report? (base.index + 1)).toList
  holder : ∀ key, next.holder? key =
    match answer.lock? key with
    | some (id, _) => some id
    | none => (base.holder? key).filter fun id => !(answer.unlocks key id || ends event answer id)
  locker : ∀ key id value, answer.lock? key = some (id, value) → next.hasLease id = true
  value : ∀ key, (next.entry? key).map (·.value) =
    ((answer.lock? key).map (·.2)).or ((base.entry? key).map (·.value))
  tally : next.index + next.leases.length =
    base.index + base.leases.length + answer.takesIndex.toNat +
      (answer.report? (base.index + 1)).toList.length
  reachable : next.reachable = event.switch?.getD base.reachable

private theorem calm_of_about (about : event = .requested request ∨ event = .admitted request) :
    event.wipes = false ∧ event.switch? = none := by
  rcases about with rfl | rfl <;> exact ⟨rfl, rfl⟩

/-- An answer that makes no difference, except that it may take an index. -/
private theorem effect_still (still : answer.Still) (kept : event.wipes = false)
    (leases : next.leases = base.leases) (keys : next.keys = base.keys)
    (index : next.index = base.index + answer.takesIndex.toNat)
    (reachable : next.reachable = event.switch?.getD base.reachable) :
    Effect base event answer next := by
  constructor
  case hasLease => simp [Store.hasLease, leases, still.grants, ends, kept, still.gives]
  case known => simp [still.renews]
  case leases =>
    rw [still.report, Option.toList_none, List.append_nil, leases, List.filter_eq_self.mpr]
    simp [ends, kept, still.gives]
  case holder =>
    intro key
    have same : next.holder? key = base.holder? key := by rw [holder?, entry?, keys]; rfl
    rw [still.lock, same]
    cases base.holder? key <;> simp [still.unlocks, ends, kept, still.gives, Option.filter]
  case locker => simp [still.lock]
  case value => simp [keys, entry?, still.lock]
  case tally => simp [leases, index, still.report]; omega
  case reachable => exact reachable

/-- Leases that are removed, and nothing else. -/
private theorem effect_removed (unique : base.ids.Nodup)
    (held : ∀ key holder, base.holder? key = some holder → base.hasLease holder = true)
    (calm : answer.Calm) (free : answer.takesIndex = false) (switch : event.switch? = none)
    (removed : ∀ id, base.hasLease id = true → (id ∈ gone ↔ ends event answer id = true)) :
    Effect base event answer (gone.foldl removeLease base) := by
  constructor
  case hasLease =>
    intro id
    rw [hasLease_removeAll, calm.grants, Option.isSome_none, Bool.false_or]
    cases known : base.hasLease id with
    | false => rfl
    | true =>
      have same := removed id known
      cases ended : ends event answer id <;> simp_all
  case known => simp [calm.renews]
  case leases =>
    rw [calm.report, Option.toList_none, List.append_nil, removeAll_leases, List.filter_map]
    congr 1
    refine List.filter_congr fun lease member => ?_
    have same := removed lease.id (hasLease_of_mem member)
    cases ended : ends event answer lease.id <;> simp_all [Lease.descriptor]
  case holder =>
    intro key
    rw [calm.lock]
    refine Option.ext fun holder => ?_
    rw [removeAll_holder, Option.filter_eq_some_iff]
    refine and_congr_right fun holds => ?_
    have known := held key holder holds
    have same := removed holder known
    cases ended : ends event answer holder <;> simp_all [calm.unlocks]
  case locker => simp [calm.lock]
  case value => simp [removeAll_value gone _ rfl, calm.lock]
  case tally => simp [removeAll_tally unique, free, calm.report]
  case reachable => simp [removeAll_reachable, switch]

private theorem effect_created {name : String} {ttl : Duration} (kept : event.wipes = false)
    (switch : event.switch? = none) :
    Effect base event (.outcome (.create name ttl) (.ok fresh))
      { base with
        leases := base.leases ++ [⟨fresh, name, ttl, now + ttl.nanos, base.index + 1⟩]
        index := base.index + 1 } := by
  constructor
  case hasLease =>
    intro id
    rw [Bool.eq_iff_iff]
    by_cases new : fresh = id <;>
      simp [Store.hasLease, Answer.grants?, ends, kept, Answer.gives, new]
  case known => intro id renews; cases renews
  case leases =>
    rw [List.map_append, List.filter_eq_self.mpr fun _ _ => by simp [ends, kept, Answer.gives]]
    rfl
  case holder =>
    intro key
    change base.holder? key = (base.holder? key).filter _
    cases base.holder? key <;> simp [Answer.unlocks, ends, kept, Answer.gives, Option.filter]
  case locker => intro key id value locks; cases locks
  case value => exact fun key => rfl
  case tally => simp [Answer.takesIndex, Answer.report?]; omega
  case reachable => rw [switch]; rfl

private theorem effect_renewed (kept : event.wipes = false) (switch : event.switch? = none)
    (known : base.hasLease id = true) :
    Effect base event (.outcome (.renew id) (.ok ()))
      { base with
        leases := base.leases.map fun lease =>
          if lease.id = id then lease.renewAt now else lease } := by
  have same (lease : Lease) :
      (if lease.id = id then lease.renewAt now else lease).descriptor = lease.descriptor := by
    split <;> rfl
  have sameId (lease : Lease) : (if lease.id = id then lease.renewAt now else lease).id = lease.id := by
    split <;> rfl
  constructor
  case hasLease =>
    intro other
    simp [Store.hasLease, Function.comp_def, sameId, Answer.grants?, ends, kept, Answer.gives]
  case known =>
    intro other renews
    obtain rfl : id = other := by simpa [Answer.renews] using renews
    exact known
  case leases =>
    rw [List.map_map, List.filter_eq_self.mpr fun _ _ => by simp [ends, kept, Answer.gives]]
    simp [Function.comp_def, same, Answer.report?]
  case holder =>
    intro key
    change base.holder? key = (base.holder? key).filter _
    cases base.holder? key <;> simp [Answer.unlocks, ends, kept, Answer.gives, Option.filter]
  case locker => intro key id value locks; cases locks
  case value => exact fun key => rfl
  case tally => simp [Answer.takesIndex, Answer.report?]
  case reachable => rw [switch]; rfl

/-- A key that is written, which changes the holder and the value of that key. -/
private theorem effect_written {entry : KeyEntry} (kept : event.wipes = false)
    (switch : event.switch? = none) (grants : ∀ id, answer.grants? id = none)
    (renews : ∀ id, answer.renews id = false) (gives : ∀ id, answer.gives id = false)
    (report : ∀ index, answer.report? index = none) (taken : answer.takesIndex = true)
    (apart : ∀ other, entry.key ≠ other →
      answer.lock? other = none ∧ ∀ id, answer.unlocks other id = false)
    (holder : entry.holder =
      match answer.lock? entry.key with
      | some (id, _) => some id
      | none => (base.holder? entry.key).filter fun id => !answer.unlocks entry.key id)
    (locker : ∀ key id value, answer.lock? key = some (id, value) → base.hasLease id = true)
    (value : some entry.value = ((answer.lock? entry.key).map (·.2)).or
      ((base.entry? entry.key).map (·.value))) :
    Effect base event answer (base.write entry) := by
  constructor
  case hasLease => simp [Store.hasLease, write, grants, ends, kept, gives]
  case known => simp [renews]
  case leases =>
    rw [report, Option.toList_none, List.append_nil, List.filter_eq_self.mpr]
    · rfl
    · simp [ends, kept, gives]
  case holder =>
    intro key
    rw [write_holder]
    by_cases same : entry.key = key
    · subst same
      simpa [ends, kept, gives] using holder
    · obtain ⟨lock, unlocks⟩ := apart key same
      rw [if_neg same, lock]
      cases base.holder? key <;> simp [unlocks, ends, kept, gives, Option.filter]
  case locker => exact locker
  case value =>
    intro key
    rw [write_entry]
    by_cases same : entry.key = key
    · subst same
      rw [if_pos rfl, ← value]
      rfl
    · rw [if_neg same, (apart key same).1]
      rfl
  case tally => simp [write, taken, report]; omega
  case reachable => rw [switch]; rfl

private theorem effect_locked {value : List UInt8} (kept : event.wipes = false)
    (switch : event.switch? = none) (known : base.hasLease id = true) :
    Effect base event (.outcome (.put key value id) (.ok true))
      (base.write ⟨key, value, some id, base.index + 1⟩) := by
  refine effect_written kept switch (fun _ => rfl) (fun _ => rfl) (fun _ => rfl) (fun _ => rfl) rfl
    (fun other apart => ⟨by simp [Answer.lock?, apart], fun _ => rfl⟩) (by simp [Answer.lock?])
    (fun other owner value locks => ?_) (by simp [Answer.lock?])
  obtain ⟨-, rfl, -⟩ : key = other ∧ id = owner ∧ _ := by simpa [Answer.lock?] using locks
  exact known

private theorem effect_released {entry : KeyEntry} (kept : event.wipes = false)
    (switch : event.switch? = none) (found : base.entry? key = some entry)
    (held : entry.holder = some id) :
    Effect base event (.outcome (.release key id) (.ok true))
      (base.write { entry with holder := none, modifyIndex := base.index + 1 }) := by
  obtain rfl := key_of_entry found
  have holder : base.holder? entry.key = some id := by rw [holder?, found, Option.bind_some, held]
  refine effect_written kept switch (fun _ => rfl) (fun _ => rfl) (fun _ => rfl) (fun _ => rfl) rfl
    (fun other apart => ⟨rfl, by simp [Answer.unlocks, apart]⟩) ?_ (by rintro _ _ _ ⟨⟩) ?_
  · simp [Answer.lock?, Answer.unlocks, holder, Option.filter]
  · simp [Answer.lock?, found]

private theorem effect_served (unique : base.ids.Nodup)
    (held : ∀ key holder, base.holder? key = some holder → base.hasLease holder = true)
    (about : event = .requested request ∨ event = .admitted request)
    (served : Served base now fresh request result next) :
    Effect base event (.outcome request result) next := by
  obtain ⟨kept, switch⟩ := calm_of_about about
  have still (answer : Answer) (idle : answer.idle = true) : Effect base event answer base := by
    obtain ⟨still, free⟩ := still_of_idle idle
    exact effect_still still kept rfl rfl (by simp [free]) (by simp [switch])
  cases served with
  | created => exact effect_created kept switch
  | renewed known => exact effect_renewed kept switch known
  | unrenewed | listed | taken | unlockable | unreleasable | read => exact still _ rfl
  | unheld =>
    exact effect_still (still_of_misses rfl) kept rfl rfl rfl (by simp [switch])
  | locked known => exact effect_locked kept switch known
  | released _ found held => exact effect_released kept switch found held
  | @destroyed gone =>
    refine @effect_removed _ [gone] _ _ unique held ?_ rfl switch ?_
    · constructor <;> intros <;> rfl
    · intro id _
      simp [ends, kept, Answer.gives, eq_comm]

/-- Every event starts from the store that was pruned, or from the store as it is. Then it neither
makes nor renews a lease. -/
theorem effect_of_course (sound : Sound history store)
    (course : Course store sweep now fresh event answer next) :
    Effect (store.prune sweep now) event answer next ∨
      Effect store event answer next ∧ answer.Calm := by
  have pruned := sound.prune sweep now
  cases course with
  | declined about =>
    obtain ⟨kept, switch⟩ := calm_of_about about
    obtain ⟨still, free⟩ := still_of_error _ _
    exact .inr ⟨effect_still still kept rfl rfl (by simp [free]) (by simp [switch]), still.toCalm⟩
  | served about _ served => exact .inl (effect_served pruned.unique pruned.held about served)
  | counted =>
    have still : (Answer.number (store.count sweep now).1).Still := (still_of_idle rfl).1
    exact .inl (effect_still still rfl rfl rfl rfl rfl)
  | switched =>
    have still : Answer.nothing.Still := ⟨by constructor <;> intros <;> rfl, fun _ => rfl⟩
    exact .inr ⟨effect_still still rfl rfl rfl rfl rfl, still.toCalm⟩
  | wiped =>
    have calm : (Answer.number (store.wipe sweep).1).Calm := (still_of_idle rfl).1.toCalm
    refine .inr ⟨effect_removed sound.unique sound.held calm rfl rfl ?_, calm⟩
    intro id known
    rw [(sweep.perm _).mem_iff, ← ids, ← hasLease_iff]
    simp [known, ends, Event.wipes]

end

/-! ## Following the past -/

section
variable {history : List Moment} {store next base before after : Store} {now earlier : Instant}
variable {id key fresh : String} {sweep : Sweep} {event : Event} {answer : Answer}

/-- What a store shows is what its past foretells, for the leases that are in the store. Those that
stand but are not in the store are overdue by now. -/
structure Foretold (history : List Moment) (now : Instant) (store : Store) : Prop where
  stands : ∀ id, store.hasLease id = true → stands id history = true
  gone : ∀ id, Store.stands id history = true → store.hasLease id = false →
    ∃ deadline, deadline? id history = some deadline ∧ deadline ≤ now
  leases : store.leases.map Lease.descriptor =
    (granted history).filter fun lease => store.hasLease lease.id
  holder : ∀ key, store.holder? key = (owner? key history).filter store.hasLease
  owned : ∀ key id, owner? key history = some id → (ttl? id history).isSome = true
  value : ∀ key, (store.entry? key).map (·.value) = (lastLock? key history).map (·.2)
  tally : store.index + store.leases.length =
    (granted history).length + history.countP (·.answer.takesIndex)
  reachable : store.reachable = serving history

/-- Pruning leaves the leases that live. -/
theorem Foretold.hasLease_prune (foretold : Foretold history earlier store)
    (sound : Sound history store) (order : earlier ≤ now) (id : String) :
    (store.prune sweep now).hasLease id = lives history now id := by
  rw [Bool.eq_iff_iff, Store.hasLease_prune, lives, Bool.and_eq_true, Option.any_eq_true]
  constructor
  · rintro ⟨known, live⟩
    obtain ⟨lease, member, rfl⟩ := List.mem_map.mp (hasLease_iff.mp known)
    refine ⟨foretold.stands _ known, lease.deadline, sound.due lease member, ?_⟩
    rw [decide_eq_true_iff]
    exact Nat.lt_of_not_le fun due => live (mem_overdue.mpr ⟨lease, member, rfl, due⟩)
  · rintro ⟨stands, deadline, due, ahead⟩
    rw [decide_eq_true_iff] at ahead
    cases known : store.hasLease id with
    | false =>
      obtain ⟨other, same, past⟩ := foretold.gone id stands known
      rw [due] at same
      cases same
      exact absurd (Nat.le_trans past order) (Nat.not_le_of_lt ahead)
    | true =>
      refine ⟨rfl, fun overdue => ?_⟩
      obtain ⟨lease, member, rfl, past⟩ := mem_overdue.mp overdue
      rw [sound.due lease member] at due
      cases due
      exact absurd past (Nat.not_le_of_lt ahead)

/-- Pruning changes nothing that is foretold. -/
theorem Foretold.prune (foretold : Foretold history earlier store) (sound : Sound history store)
    (order : earlier ≤ now) : Foretold history now (store.prune sweep now) := by
  constructor
  case stands => exact fun id known => foretold.stands id (Store.hasLease_prune.mp known).1
  case gone =>
    intro id stands absent
    cases known : store.hasLease id with
    | false =>
      obtain ⟨deadline, due, past⟩ := foretold.gone id stands known
      exact ⟨deadline, due, Nat.le_trans past order⟩
    | true =>
      have overdue : id ∈ store.overdue now := by
        rw [Bool.eq_false_iff] at absent
        exact Decidable.not_not.mp fun live => absent (Store.hasLease_prune.mpr ⟨known, live⟩)
      obtain ⟨lease, member, rfl, past⟩ := mem_overdue.mp overdue
      exact ⟨lease.deadline, sound.due lease member, past⟩
  case leases =>
    let gone := sweep.arrange (store.overdue now)
    calc
      (store.prune sweep now).leases.map Lease.descriptor
        = (store.leases.map Lease.descriptor).filter fun lease => lease.id ∉ gone := by
          rw [Store.prune, removeAll_leases, List.filter_map]
          rfl
      _ = (granted history).filter fun lease => (store.prune sweep now).hasLease lease.id := by
          simp only [foretold.leases, List.filter_filter, Store.prune, hasLease_removeAll, gone,
            Bool.and_comm]
  case holder =>
    intro key
    refine Option.ext fun holder => ?_
    rw [prune_holder, foretold.holder, Option.filter_eq_some_iff, Option.filter_eq_some_iff,
      Store.hasLease_prune, and_assoc]
  case owned => exact foretold.owned
  case value =>
    intro key
    rw [Store.prune, removeAll_value _ _ rfl, foretold.value]
  case tally => rw [Store.prune, removeAll_tally sound.unique, foretold.tally]
  case reachable => rw [Store.prune, removeAll_reachable, foretold.reachable]

/-! ## One more moment -/

theorem ttl?_of_stands (stands : stands id history = true) : (ttl? id history).isSome = true := by
  induction history with
  | nil => cases stands
  | cons moment history ih =>
    rw [Store.stands, Bool.or_eq_true, Bool.and_eq_true] at stands
    rw [ttl?_add, Option.isSome_or, Bool.or_eq_true]
    exact stands.imp_right fun earlier => ih earlier.1

private theorem grants_of_report {lease : Descriptor} {index : Nat}
    (reported : answer.report? index = some lease) : (answer.grants? lease.id).isSome = true := by
  unfold Answer.report? at reported
  split at reported
  · cases reported
    simp [Answer.grants?]
  · cases reported

/-- All leases that are reported were made. -/
theorem ttl?_of_granted {lease : Descriptor} (member : lease ∈ granted history) :
    (ttl? lease.id history).isSome = true := by
  induction history with
  | nil => cases member
  | cons moment history ih =>
    rw [ttl?_add, Option.isSome_or, Bool.or_eq_true]
    rcases List.mem_append.mp member with earlier | new
    · exact .inr (ih earlier)
    · exact .inl (grants_of_report (Option.mem_toList.mp new))

private theorem serving_add (moment : Moment) (history : List Moment) :
    serving (moment :: history) = moment.event.switch?.getD (serving history) := by
  rw [serving, List.findSome?_cons]
  cases moment.event.switch? <;> rfl

/-- The index that a lease gets is the one that is foretold, if the store was pruned. -/
private theorem Foretold.index (foretold : Foretold history now base)
    (pruned : ∀ id, base.hasLease id = lives history now id) :
    base.index = history.countP (·.answer.takesIndex) +
      (granted history).countP fun lease => !lives history now lease.id := by
  have here : base.leases.length = (granted history).countP fun lease => base.hasLease lease.id := by
    rw [List.countP_eq_length_filter, ← foretold.leases, List.length_map]
  have parts := List.length_eq_countP_add_countP (fun lease => base.hasLease lease.id)
    (l := granted history)
  have tally := foretold.tally
  simp only [Bool.not_eq_true, Bool.decide_eq_false] at parts
  simp only [← pruned]
  omega

/-- What an event makes of a store is foretold. -/
theorem Foretold.step (foretold : Foretold history now base) (effect : Effect base event answer next)
    (unique : ∀ id, (answer.grants? id).isSome → ttl? id history = none)
    (made : (∀ id, base.hasLease id = lives history now id) ∨ ∀ index, answer.report? index = none) :
    Foretold (⟨now, before, event, answer, after⟩ :: history) now next := by
  have old (id : String) (known : (ttl? id history).isSome = true) : answer.grants? id = none := by
    rw [← Option.not_isSome_iff_eq_none]
    intro granted
    rw [unique id granted] at known
    cases known
  have stands (id : String) (known : next.hasLease id = true) :
      Store.stands id (⟨now, before, event, answer, after⟩ :: history) = true := by
    rw [effect.hasLease, Bool.or_eq_true, Bool.and_eq_true] at known
    rw [Store.stands, Bool.or_eq_true, Bool.and_eq_true]
    exact known.imp_right fun kept => ⟨foretold.stands id kept.1, kept.2⟩
  have index : answer.report? (base.index + 1) =
      answer.report? (history.countP (·.answer.takesIndex) +
        ((granted history).countP fun lease => !lives history now lease.id) + 1) := by
    rcases made with pruned | none
    · rw [foretold.index pruned]
    · rw [none, none]
  constructor
  case stands => exact stands
  case gone =>
    intro id stood absent
    rw [effect.hasLease, Bool.or_eq_false_iff] at absent
    obtain ⟨new, absent⟩ := absent
    rw [Store.stands, new, Bool.false_or, Bool.and_eq_true] at stood
    rw [stood.2, Bool.and_true] at absent
    obtain ⟨deadline, due, past⟩ := foretold.gone id stood.1 absent
    -- Only leases in the store are renewed, so that this one stays overdue.
    have renewed : answer.renews id = false := by
      rw [Bool.eq_false_iff]
      intro renews
      rw [effect.known id renews] at absent
      cases absent
    exact ⟨deadline, (deadline?_quiet (by simpa using new) renewed).trans due, past⟩
  case leases =>
    have kept : (granted history).filter (fun lease => next.hasLease lease.id) =
        ((granted history).filter fun lease => base.hasLease lease.id).filter
          fun lease => !ends event answer lease.id := by
      rw [List.filter_filter]
      refine List.filter_congr fun lease member => ?_
      rw [effect.hasLease, old _ (ttl?_of_granted member), Option.isSome_none, Bool.false_or,
        Bool.and_comm]
    have new (index : Nat) :
        (answer.report? index).toList.filter (fun lease => next.hasLease lease.id) =
        (answer.report? index).toList := by
      rw [List.filter_eq_self]
      intro lease member
      rw [effect.hasLease, grants_of_report (Option.mem_toList.mp member), Bool.true_or]
    rw [effect.leases, foretold.leases, granted, List.filter_append, kept, new, index]
  case holder =>
    intro key
    rw [effect.holder, owner?]
    cases locks : answer.lock? key with
    | some lock =>
      have known := effect.locker key lock.1 lock.2 locks
      simp [Option.filter, known]
    | none =>
      rw [foretold.holder]
      refine Option.ext fun holder => ?_
      simp only [Option.filter_eq_some_iff, and_assoc]
      refine and_congr_right fun owns => ?_
      rw [effect.hasLease, old holder (foretold.owned key holder owns)]
      cases base.hasLease holder <;> simp
  case owned =>
    intro key id owns
    rw [owner?] at owns
    cases locks : answer.lock? key with
    | some lock =>
      rw [locks] at owns
      cases owns
      exact ttl?_of_stands (stands _ (effect.locker key lock.1 lock.2 locks))
    | none =>
      rw [locks] at owns
      have earlier := foretold.owned key id (Option.filter_eq_some_iff.mp owns).1
      rw [ttl?_add, Option.isSome_or, earlier, Bool.or_true]
  case value =>
    intro key
    rw [effect.value, foretold.value, lastLock?_add]
    cases answer.lock? key <;> rfl
  case tally =>
    rw [effect.tally, foretold.tally, granted, List.length_append, List.countP_cons, index]
    cases answer.takesIndex <;> simp <;> omega
  case reachable => rw [effect.reachable, foretold.reachable, serving_add]

theorem Foretold.later (foretold : Foretold history earlier store) (order : earlier ≤ now) :
    Foretold history now store := by
  refine { foretold with gone := fun id stands absent => ?_ }
  obtain ⟨deadline, due, past⟩ := foretold.gone id stands absent
  exact ⟨deadline, due, Nat.le_trans past order⟩

/-- A store shows what its past foretells. -/
theorem Kept.foretold (kept : Kept history store) (order : ∀ moment ∈ history, moment.now ≤ now) :
    Foretold history now store := by
  induction kept generalizing now with
  | new =>
    constructor <;>
      simp [Store.hasLease, Store.stands, granted, owner?, holder?, entry?, lastLock?, serving]
  | @happened history store time sweep fresh event answer next kept earlier happens unique ih =>
    have before : Foretold history time store := ih earlier
    refine Foretold.later ?_ (order _ List.mem_cons_self)
    rcases effect_of_course kept.sound (course_of_happen happens) with effect | ⟨effect, calm⟩
    · exact (before.prune kept.sound (Nat.le_refl _)).step effect unique
        (.inl (before.hasLease_prune kept.sound (Nat.le_refl _)))
    · exact before.step effect unique (.inr calm.report)

/-! ## Answers -/

/-- What a pruned store reports of a key is foretold. -/
private theorem Foretold.entry (foretold : Foretold history now base)
    (pruned : ∀ id, base.hasLease id = lives history now id) (key : String) :
    (base.entry? key).map (fun entry => { entry with modifyIndex := 0 }) =
      entryOf? history now key := by
  have value := foretold.value key
  have holder := foretold.holder key
  rw [funext pruned, ← holding?] at holder
  cases found : base.entry? key with
  | none =>
    rw [found, Option.map_none, eq_comm, Option.map_eq_none_iff] at value
    rw [entryOf?, value]
    rfl
  | some entry =>
    rw [found, Option.map_some, eq_comm, Option.map_eq_some_iff] at value
    obtain ⟨lock, last, same⟩ := value
    simp [entryOf?, last, ← holder, holder?, found, same, key_of_entry found]

/-- How a pruned store ends a request is foretold. -/
private theorem Foretold.outcome (foretold : Foretold history now base)
    (pruned : ∀ id, base.hasLease id = lives history now id)
    (served : Served base now fresh request result next) :
    shown event (.outcome request result) = .outcome request (outcomeOf history now fresh request) := by
  have holder (key : String) : holding? history now key = base.holder? key := by
    rw [foretold.holder, holding?, funext pruned]
  cases served with
  | created | destroyed => rfl
  | renewed known | unrenewed known | unlockable known | unreleasable known =>
    rw [pruned] at known
    simp [shown, outcomeOf, known]
  | listed =>
    rw [foretold.leases]
    simp only [pruned]
    rfl
  | @locked key _ _ known free =>
    rw [pruned] at known
    cases held : base.holder? key with
    | none => simp [shown, outcomeOf, known, holder, held]
    | some other => simp [shown, outcomeOf, known, holder, held, free other held]
  | taken known held other =>
    rw [pruned] at known
    simp [shown, outcomeOf, known, holder, held, other]
  | released known found held =>
    rw [pruned] at known
    simp [shown, outcomeOf, known, holder, holder?, found, held]
  | unheld known other =>
    rw [pruned] at known
    simp [shown, outcomeOf, known, holder, other]
  | read => exact congrArg (fun entry => Answer.outcome _ (.ok entry)) (foretold.entry pruned _)

private theorem shown_error (request : Backend.Request) (error : Error) :
    shown event (.outcome request (.error error)) = .outcome request (.error error) := by
  cases request <;> rfl

/-- The store answers what is foretold. -/
theorem Kept.answer_eq (kept : Kept history store) (order : ∀ moment ∈ history, moment.now ≤ now) :
    shown event (store.happen sweep now fresh event).1 = foretell history now fresh event := by
  have foretold : Foretold history now store := kept.foretold order
  have current : Foretold history now (store.prune sweep now) :=
    foretold.prune kept.sound (Nat.le_refl now)
  have pruned : ∀ id, (store.prune sweep now).hasLease id = lives history now id :=
    foretold.hasLease_prune kept.sound (Nat.le_refl now)
  cases event with
  | requested request =>
    simp only [happen, serve, foretell]
    cases refusal? request with
    | some error => exact shown_error request error
    | none =>
      rw [foretold.reachable]
      cases serving history with
      | false => exact shown_error request _
      | true => exact current.outcome pruned (served_of_serveLive ..)
  | admitted request =>
    simp only [happen, foretell]
    cases refusal? request with
    | some error => exact shown_error request error
    | none => exact current.outcome pruned (served_of_serveLive ..)
  | counted =>
    have living : (store.prune sweep now).leases.map Lease.descriptor = living history now := by
      rw [current.leases]
      simp only [pruned]
      rfl
    exact congrArg Answer.number (by rw [← living, List.length_map])
  | switched | wiped => rfl

/-! ## Leases that live have lived all along -/

theorem lives_sooner (live : lives history now id = true) (sooner : earlier ≤ now) :
    lives history earlier id = true := by
  rw [lives, Bool.and_eq_true, Option.any_eq_true] at live ⊢
  obtain ⟨stands, deadline, due, ahead⟩ := live
  rw [decide_eq_true_iff] at ahead
  exact ⟨stands, deadline, due, decide_eq_true (Nat.lt_of_le_of_lt sooner ahead)⟩

/-- A lease that lives after a moment, and was made before it, lived at that moment. -/
private theorem Kept.lives_before (kept : Kept (moment :: history) store)
    (made : (ttl? id history).isSome = true) (live : lives (moment :: history) now id = true)
    (sooner : earlier ≤ moment.now) (order : earlier ≤ now) : lives history earlier id = true := by
  cases kept with
  | @happened _ before time sweep fresh event answer _ kept times happens unique =>
    obtain ⟨ttl, known⟩ := Option.isSome_iff_exists.mp made
    have new : answer.grants? id = none := not_granted unique known
    cases renewed : answer.renews id with
    | false =>
      have due : deadline? id (⟨time, before, event, answer, store⟩ :: history) =
          deadline? id history := deadline?_quiet new renewed
      rw [lives, stands, new, due, Option.isSome_none, Bool.false_or, Bool.and_eq_true,
        Bool.and_eq_true] at live
      have still : lives history now id = true := by rw [lives, live.1.1, live.2, Bool.and_true]
      exact lives_sooner still order
    | true =>
      -- It was renewed at that moment, so that it was in the store when that was pruned.
      have foretold : Foretold history time before := kept.foretold times
      rcases effect_of_course kept.sound (course_of_happen happens) with effect | ⟨_, calm⟩
      · have present := effect.known id renewed
        rw [foretold.hasLease_prune kept.sound (Nat.le_refl _)] at present
        exact lives_sooner present sooner
      · rw [calm.renews] at renewed
        cases renewed

/-- A lease that lives has lived ever since it was made. -/
theorem Kept.lives_since (kept : Kept (since ++ history) store)
    (made : (ttl? id history).isSome = true) (live : lives (since ++ history) now id = true)
    (sooner : ∀ moment ∈ since, earlier ≤ moment.now) (order : earlier ≤ now) :
    lives history earlier id = true := by
  induction since generalizing store now with
  | nil => exact lives_sooner live order
  | cons moment since ih =>
    have reached : earlier ≤ moment.now := sooner moment List.mem_cons_self
    have known : (ttl? id (since ++ history)).isSome = true := by
      rw [ttl?, List.findSome?_append, Option.isSome_or, ← ttl?, ← ttl?, made, Bool.or_true]
    have there := kept.lives_before known live reached order
    obtain ⟨before, rest⟩ := @Kept.of_append [moment] _ _ kept
    exact ih rest there (fun other member => sooner other (List.mem_cons_of_mem _ member))
      (Nat.le_refl _)

end

/-- **The store keeps to its past.** Every answer, but for the index of the last change to a key and the
number of leases that a wipe has found, is the one that is foretold by what was answered when, in
whatever order overdue leases are pruned. Calls that failed or only reported something can be left out
of the past, and so can those that failed to unlock a key, if indices of leases do not matter. A lease
that lives has lived ever since it was made. -/
theorem answers_foretold {now : Instant} (kept : Kept history store)
    (order : ∀ moment ∈ history, moment.now ≤ now) :
    (∀ sweep event fresh, shown event (store.happen sweep now fresh event).1 =
        foretell (account history) now fresh event) ∧
      (∀ keep : Moment → Bool,
        (∀ moment ∈ account history, keep moment = false → moment.idle = true) →
        ∀ event fresh, foretell ((account history).filter keep) now fresh event =
          foretell (account history) now fresh event) ∧
      (∀ keep : Moment → Bool,
        (∀ moment ∈ account history, keep moment = false →
          moment.idle = true ∨ moment.misses = true) →
        ∀ event fresh, (foretell ((account history).filter keep) now fresh event).unnumbered =
          (foretell (account history) now fresh event).unnumbered) ∧
      ∀ since earlier, history = since ++ earlier → ∀ id, (ttl? id (account earlier)).isSome = true →
        lives (account history) now id = true →
        ∀ time, (∀ moment ∈ since, time ≤ moment.now) → time ≤ now →
          lives (account earlier) time id = true := by
  refine ⟨fun sweep event fresh => ?_, fun keep idle event fresh => ?_,
    fun keep idle event fresh => ?_, ?_⟩
  · rw [kept.answer_eq order, (same_account history).foretell]
  · exact ((same_filter idle).foretell now fresh event).symm
  · exact ((alike_filter idle).foretell now fresh event).symm
  · rintro since earlier rfl id made live time sooner past
    rw [(same_account _).ttl] at made
    rw [(same_account _).lives] at live ⊢
    exact kept.lives_since made live sooner past

theorem inherited_key_foretold : ∃ history store, inheritance = some (history, store) ∧
    (∀ moment ∈ history, moment.now ≤ 21000000000) ∧
    shown (.requested (.get "foo"))
        (store.happen .oldestFirst 21000000000 "" (.requested (.get "foo"))).1 =
      foretell (account history) 21000000000 "" (.requested (.get "foo")) ∧
    foretell ((account history).filter fun moment => !moment.idle) 21000000000 ""
        (.requested (.get "foo")) =
      .outcome (.get "foo") (.ok (some ⟨"foo", [2], some "L2", 0⟩)) := by
  have ran : inheritance = some (inheritance.get (by decide)) := (Option.some_get _).symm
  have order : ∀ moment ∈ (inheritance.get (by decide)).1, moment.now ≤ 21000000000 := by decide
  obtain ⟨answer, idle, _⟩ := answers_foretold (kept_of_replay .new ran) order
  have without := idle (fun moment => !moment.idle) (by simp) (.requested (.get "foo")) ""
  exact ⟨_, _, ran, order, answer _ _ _, without.trans rfl⟩

/-- Three leases, the first of which locks a key. Before the third one is made, the second may try in
vain to unlock that key. -/
def straying (strays : Bool) : Option (List Moment × Store) :=
  replay ([], {}) <|
    [(0, "L1", .requested (.create "a" (.seconds 20))),
      (0, "L2", .requested (.create "b" (.seconds 20))),
      (0, "", .requested (.put "foo" [1] "L1"))] ++
    (if strays then [(0, "", .requested (.release "foo" "L2"))] else []) ++
    [(0, "L3", .requested (.create "c" (.seconds 20)))]

/-- A lease in a store that is out of reach for a while, in which the operator may wipe all leases. -/
def outage (wipes : Bool) : Option (List Moment × Store) :=
  replay ([], {}) <|
    [(0, "L1", .requested (.create "a" (.seconds 20))), (0, "", .switched false)] ++
    (if wipes then [(0, "", .wiped)] else []) ++ [(0, "", .switched true)]

/-- The indices at which the leases were created that are listed. -/
def Answer.createIndices : Answer → List Nat
  | .outcome .list (.ok leases) => leases.map (·.createIndex)
  | _ => []

/-- How many leases there are. -/
def Answer.number? : Answer → Option Nat
  | .number count => some count
  | _ => none

theorem missed_release_shows : ∃ strayed direct wiped spared : List Moment × Store,
    straying true = some strayed ∧ straying false = some direct ∧
      (strayed.2.happen .oldestFirst 0 "" (.requested .list)).1 ≠
        (direct.2.happen .oldestFirst 0 "" (.requested .list)).1 ∧
      outage true = some wiped ∧ outage false = some spared ∧
      (wiped.2.happen .oldestFirst 0 "" .counted).1 ≠
        (spared.2.happen .oldestFirst 0 "" .counted).1 := by
  refine ⟨(straying true).get (by decide), (straying false).get (by decide),
    (outage true).get (by decide), (outage false).get (by decide), (Option.some_get _).symm,
    (Option.some_get _).symm, fun same => ?_, (Option.some_get _).symm, (Option.some_get _).symm,
    fun same => ?_⟩
  · exact absurd (congrArg Answer.createIndices same) (by decide)
  · exact absurd (congrArg Answer.number? same) (by decide)

end Leasehold.Store
