import Leasehold.Store

/-! What a store shows of its leases and locks, and how each operation changes that: a lease that goes
unlocks its keys, pruning takes exactly the leases that are overdue, and `Served` has one constructor
for each way in which a request to a pruned store can end. -/
namespace Leasehold.Store

/-- The ids of the leases. -/
def ids (store : Store) : List String := store.leases.map (·.id)

/-- The lease that holds the lock on a key. -/
def holder? (store : Store) (key : String) : Option String := (store.entry? key).bind (·.holder)

section
variable {store : Store} {now : Instant} {id key holder : String} {lease : Lease} {sweep : Sweep}

theorem hasLease_iff : store.hasLease id = true ↔ id ∈ store.ids := by
  simp [hasLease, ids]

theorem hasLease_of_mem (member : lease ∈ store.leases) : store.hasLease lease.id = true :=
  hasLease_iff.mpr (List.mem_map_of_mem member)

/-! ## Leases that go -/

theorem mem_removeLease :
    lease ∈ (store.removeLease id).leases ↔ lease ∈ store.leases ∧ lease.id ≠ id := by
  unfold removeLease
  split
  · simp
  · rename_i absent
    constructor
    · intro member
      refine ⟨member, ?_⟩
      rintro rfl
      exact absent (hasLease_of_mem member)
    · exact And.left

theorem hasLease_removeLease {other : String} :
    (store.removeLease id).hasLease other = true ↔ store.hasLease other = true ∧ other ≠ id := by
  simp only [hasLease_iff, ids, List.mem_map, mem_removeLease]
  constructor
  · rintro ⟨lease, ⟨member, distinct⟩, rfl⟩
    exact ⟨⟨lease, member, rfl⟩, distinct⟩
  · rintro ⟨⟨lease, member, rfl⟩, distinct⟩
    exact ⟨lease, ⟨member, distinct⟩, rfl⟩

/-- A lease that goes changes the entries of its keys, and each key keeps its place. -/
theorem find_unlock (keys : List KeyEntry) (id : String) (index : Nat) (key : String) :
    (keys.map (unlockFrom id index)).find? (·.key == key) =
      (keys.find? (·.key == key)).map (unlockFrom id index) := by
  rw [List.find?_map]
  have same : (fun entry : KeyEntry => entry.key == key) ∘ unlockFrom id index =
      fun entry => entry.key == key := by
    funext entry
    simp only [Function.comp, unlockFrom]
    split <;> rfl
  rw [same]

/-- A lease that goes unlocks the keys that it holds, and no others. -/
theorem removeLease_holder : (store.removeLease id).holder? key = some holder ↔
    store.holder? key = some holder ∧ ¬ (holder = id ∧ store.hasLease id = true) := by
  unfold removeLease
  split
  · rename_i present
    simp only [holder?, entry?, find_unlock, present, and_true]
    cases store.keys.find? (·.key == key) with
    | none => simp
    | some entry =>
      simp only [Option.map_some, Option.bind_some, unlockFrom]
      split
      · rename_i held
        simp [held, eq_comm]
      · rename_i other
        constructor
        · rintro held
          exact ⟨held, fun same => other (same ▸ held)⟩
        · exact And.left
  · rename_i absent
    simp [absent]

/-- A lease that goes leaves the entry of a key that is held afterwards. -/
theorem removeLease_entry (held : (store.removeLease id).holder? key = some holder) :
    Store.entry? (store.removeLease id) key = store.entry? key := by
  unfold removeLease at held ⊢
  split at held
  · rename_i present
    rw [if_pos present]
    simp only [holder?, entry?, find_unlock] at held ⊢
    cases found : store.keys.find? (·.key == key) with
    | none => rfl
    | some entry =>
      have other : entry.holder ≠ some id := by
        intro own
        simp [found, unlockFrom, own] at held
      rw [Option.map_some, unlockFrom, if_neg other]
  · rename_i absent
    rw [if_neg absent]

section
variable {gone : List String}

/-- Removing leases in any order leaves those that are not named. -/
theorem mem_removeAll :
    lease ∈ (gone.foldl removeLease store).leases ↔ lease ∈ store.leases ∧ lease.id ∉ gone := by
  induction gone generalizing store with
  | nil => simp
  | cons id gone ih => rw [List.foldl_cons, ih, mem_removeLease, List.mem_cons, not_or, and_assoc]

theorem removeAll_reachable : (gone.foldl removeLease store).reachable = store.reachable := by
  induction gone generalizing store with
  | nil => rfl
  | cons id gone ih =>
    rw [List.foldl_cons, ih, removeLease]
    split <;> rfl

/-- Removing leases unlocks what they hold, and nothing else. -/
theorem removeAll_holder : (gone.foldl removeLease store).holder? key = some holder ↔
    store.holder? key = some holder ∧ ¬ (holder ∈ gone ∧ store.hasLease holder = true) := by
  induction gone generalizing store with
  | nil => simp
  | cons id gone ih =>
    rw [List.foldl_cons, ih, removeLease_holder, hasLease_removeLease, List.mem_cons]
    by_cases same : holder = id
    · subst same; simp
    · simp [same]

/-- Removing leases leaves the entry of a key that is held afterwards. -/
theorem removeAll_entry (held : (gone.foldl removeLease store).holder? key = some holder) :
    Store.entry? (gone.foldl removeLease store) key = store.entry? key := by
  induction gone generalizing store with
  | nil => rfl
  | cons id gone ih =>
    rw [List.foldl_cons] at held ⊢
    rw [ih held, removeLease_entry (removeAll_holder.mp held).1]

theorem ids_removeAll : (gone.foldl removeLease store).ids.Sublist store.ids := by
  induction gone generalizing store with
  | nil => exact List.Sublist.refl _
  | cons id gone ih =>
    refine ih.trans ?_
    unfold removeLease
    split
    · exact List.Sublist.map _ List.filter_sublist
    · exact List.Sublist.refl _

end

/-! ## Pruning -/

theorem mem_overdue :
    id ∈ store.overdue now ↔ ∃ lease ∈ store.leases, lease.id = id ∧ lease.deadline ≤ now := by
  simp only [overdue, List.mem_map, List.mem_filter, decide_eq_true_eq]
  exact ⟨fun ⟨lease, ⟨member, due⟩, same⟩ => ⟨lease, member, same, due⟩,
    fun ⟨lease, member, same, due⟩ => ⟨lease, ⟨member, due⟩, same⟩⟩

theorem hasLease_of_overdue (due : id ∈ store.overdue now) : store.hasLease id = true := by
  obtain ⟨lease, member, rfl, _⟩ := mem_overdue.mp due
  exact hasLease_of_mem member

/-- Pruning takes the leases that are overdue. -/
theorem mem_prune : lease ∈ (store.prune sweep now).leases ↔
    lease ∈ store.leases ∧ lease.id ∉ store.overdue now := by
  rw [prune, mem_removeAll, (sweep.perm _).mem_iff]

theorem hasLease_prune : (store.prune sweep now).hasLease id = true ↔
    store.hasLease id = true ∧ id ∉ store.overdue now := by
  simp only [hasLease_iff, ids, List.mem_map, mem_prune]
  constructor
  · rintro ⟨lease, ⟨member, live⟩, rfl⟩
    exact ⟨⟨lease, member, rfl⟩, live⟩
  · rintro ⟨⟨lease, member, rfl⟩, live⟩
    exact ⟨lease, ⟨member, live⟩, rfl⟩

/-- A lease that pruning leaves was in the store, and its deadline is ahead. -/
theorem ahead_of_pruned (known : (store.prune sweep now).hasLease id = true) :
    ∃ lease ∈ store.leases, lease.id = id ∧ now < lease.deadline := by
  obtain ⟨present, live⟩ := hasLease_prune.mp known
  obtain ⟨lease, member, rfl⟩ := List.mem_map.mp (hasLease_iff.mp present)
  exact ⟨lease, member, rfl,
    Nat.lt_of_not_le fun due => live (mem_overdue.mpr ⟨lease, member, rfl, due⟩)⟩

/-- Pruning unlocks the keys of leases that are overdue. -/
theorem prune_holder : (store.prune sweep now).holder? key = some holder ↔
    store.holder? key = some holder ∧ holder ∉ store.overdue now := by
  rw [prune, removeAll_holder, (sweep.perm _).mem_iff]
  constructor
  · rintro ⟨held, kept⟩
    exact ⟨held, fun due => kept ⟨due, hasLease_of_overdue due⟩⟩
  · rintro ⟨held, live⟩
    exact ⟨held, fun gone => live gone.1⟩

/-- Pruning leaves the entry of a key that is held afterwards. -/
theorem prune_entry (held : (store.prune sweep now).holder? key = some holder) :
    Store.entry? (store.prune sweep now) key = store.entry? key := removeAll_entry held

theorem ids_prune : (store.prune sweep now).ids.Sublist store.ids := ids_removeAll

/-- Wiping takes all leases. -/
theorem wipe_leases : (store.wipe sweep).2.leases = [] := by
  rw [List.eq_nil_iff_forall_not_mem]
  intro lease member
  rw [wipe, mem_removeAll, (sweep.perm _).mem_iff] at member
  exact member.2 (List.mem_map_of_mem member.1)

/-- Wiping unlocks the keys of all leases. -/
theorem wipe_holder : (store.wipe sweep).2.holder? key = some holder ↔
    store.holder? key = some holder ∧ store.hasLease holder = false := by
  rw [wipe, removeAll_holder, (sweep.perm _).mem_iff, ← ids, ← hasLease_iff, and_self,
    Bool.not_eq_true]

/-! ## Entries that are written -/

/-- A key that is written has the new entry, and the others have theirs. -/
theorem find_putEntry (entry : KeyEntry) (keys : List KeyEntry) (key : String) :
    (putEntry entry keys).find? (·.key == key) =
      if entry.key = key then some entry else keys.find? (·.key == key) := by
  induction keys with
  | nil => simp only [putEntry, List.find?_cons]; split <;> simp_all
  | cons found rest ih =>
    unfold putEntry
    split
    · rename_i same
      by_cases here : entry.key = key <;> simp_all
    · rename_i other
      by_cases here : found.key = key
      · have elsewhere : entry.key ≠ key := fun same => other (here.trans same.symm)
        simp [here, elsewhere]
      · simp [here, ih]

/-- Puts an entry into a store. -/
def write (entry : KeyEntry) (store : Store) : Store :=
  { store with keys := putEntry entry store.keys, index := store.index + 1 }

/-- Writing an entry makes its holder the holder of its key. -/
theorem write_holder (entry : KeyEntry) (store : Store) (key : String) :
    (store.write entry).holder? key =
      if entry.key = key then entry.holder else store.holder? key := by
  simp only [holder?, entry?, write, find_putEntry]
  split <;> rfl

theorem key_of_entry {entry : KeyEntry} (found : store.entry? key = some entry) : entry.key = key := by
  simpa using List.find?_some found

end

/-! ## Requests -/

/-- The ways in which a request to a pruned store can end, each with what it takes and what it makes of
the store. -/
inductive Served (store : Store) (now : Instant) (fresh : String) :
    (request : Backend.Request) → request.Outcome → Store → Prop where
  /-- A new lease is made. -/
  | created : Served store now fresh (.create name ttl) (.ok fresh)
      { store with
        leases := store.leases ++ [⟨fresh, name, ttl, now + ttl.nanos, store.index + 1⟩]
        index := store.index + 1 }
  /-- A lease lives on. -/
  | renewed {id : String} (known : store.hasLease id = true) :
      Served store now fresh (.renew id) (.ok ())
        { store with
          leases := store.leases.map fun lease =>
            if lease.id = id then lease.renewAt now else lease }
  /-- There is no lease to renew. -/
  | unrenewed {id : String} (unknown : store.hasLease id = false) :
      Served store now fresh (.renew id) (.error (.sessionNotFound id)) store
  /-- A lease is given up, if there is one. -/
  | destroyed {id : String} : Served store now fresh (.destroy id) (.ok ()) (store.removeLease id)
  | listed : Served store now fresh .list (.ok (store.leases.map Lease.descriptor)) store
  /-- A key is written that nobody else holds. -/
  | locked {id : String} (known : store.hasLease id = true)
      (free : ∀ holder, store.holder? key = some holder → holder = id) :
      Served store now fresh (.put key value id) (.ok true)
        (store.write ⟨key, value, some id, store.index + 1⟩)
  /-- Another lease holds the key. -/
  | taken {id : String} (known : store.hasLease id = true) (held : store.holder? key = some holder)
      (other : holder ≠ id) : Served store now fresh (.put key value id) (.ok false) store
  /-- There is no lease to lock the key with. -/
  | unlockable {id : String} (unknown : store.hasLease id = false) :
      Served store now fresh (.put key value id) (.error (.sessionNotFound id)) store
  /-- A key is unlocked by the lease that holds it. -/
  | released {id : String} (known : store.hasLease id = true)
      (found : store.entry? key = some entry) (held : entry.holder = some id) :
      Served store now fresh (.release key id) (.ok true)
        (store.write { entry with holder := none, modifyIndex := store.index + 1 })
  /-- The lease does not hold the key. -/
  | unheld {id : String} (known : store.hasLease id = true) (other : store.holder? key ≠ some id) :
      Served store now fresh (.release key id) (.ok false) { store with index := store.index + 1 }
  /-- There is no lease that could hold the key. -/
  | unreleasable {id : String} (unknown : store.hasLease id = false) :
      Served store now fresh (.release key id) (.error (.sessionNotFound id)) store
  | read : Served store now fresh (.get key) (.ok (store.entry? key)) store

section
variable (store : Store) (now : Instant) (fresh key id : String)

private theorem served_put (value : List UInt8) : Served store now fresh (.put key value id)
    (store.serveLive now fresh (.put key value id)).1
    (store.serveLive now fresh (.put key value id)).2 := by
  cases known : store.hasLease id with
  | false => simpa [serveLive, known] using .unlockable known
  | true =>
    cases found : store.entry? key with
    | none =>
      have free : ∀ holder, store.holder? key = some holder → holder = id := by simp [holder?, found]
      simpa [serveLive, write, known, found] using Served.locked known free
    | some entry =>
      cases held : entry.holder with
      | none =>
        have free : ∀ holder, store.holder? key = some holder → holder = id := by
          simp [holder?, found, held]
        simpa [serveLive, write, known, found, held] using Served.locked known free
      | some holder =>
        have holds : store.holder? key = some holder := by simp [holder?, found, held]
        by_cases own : holder = id
        · have free : ∀ other, store.holder? key = some other → other = id := by simp [holds, own]
          simpa [serveLive, write, known, found, held, own] using Served.locked known free
        · simpa [serveLive, known, found, held, own] using Served.taken known holds own

private theorem served_release : Served store now fresh (.release key id)
    (store.serveLive now fresh (.release key id)).1
    (store.serveLive now fresh (.release key id)).2 := by
  cases known : store.hasLease id with
  | false => simpa [serveLive, known] using .unreleasable known
  | true =>
    cases found : store.entry? key with
    | none =>
      have other : store.holder? key ≠ some id := by simp [holder?, found]
      simpa [serveLive, known, found] using Served.unheld known other
    | some entry =>
      by_cases held : entry.holder = some id
      · simpa [serveLive, write, known, found, held] using Served.released known found held
      · have other : store.holder? key ≠ some id := by simpa [holder?, found] using held
        simpa [serveLive, known, found, held] using Served.unheld known other

/-- Every request to a pruned store ends in one of these ways. -/
theorem served_of_serveLive (request : Backend.Request) : Served store now fresh request
    (store.serveLive now fresh request).1 (store.serveLive now fresh request).2 := by
  cases request with
  | create name ttl => exact .created
  | renew id =>
    cases known : store.hasLease id with
    | true => simpa [serveLive, known] using Served.renewed known
    | false => simpa [serveLive, known] using .unrenewed known
  | destroy id => exact .destroyed
  | list => exact .listed
  | put key value id => exact served_put store now fresh key id value
  | release key id => exact served_release store now fresh key id
  | get key => exact .read

end

end Leasehold.Store
