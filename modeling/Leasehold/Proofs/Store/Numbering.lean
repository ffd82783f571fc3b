import Leasehold.Proofs.Store.Refinement

/-! The indices that a store gives out. They rise, and whatever changes an entry gives it an index that
is new (`Grows`), also where one request removes several leases before it is served. So the indices of
a store are in order (`Numbered`), and the index of a key tells whether the key has changed. -/
namespace Leasehold.Store

/-- The indices of a store are in order. -/
structure Numbered (store : Store) : Prop where
  /-- Each key has one entry. -/
  keys : (store.keys.map (·.key)).Nodup
  /-- No two leases were created at the same index. -/
  created : (store.leases.map (·.createIndex)).Nodup
  /-- The indices of the leases were given out. -/
  leases : ∀ lease ∈ store.leases, lease.createIndex ≤ store.index
  /-- The indices of the keys were given out. -/
  entries : ∀ entry ∈ store.keys, entry.modifyIndex ≤ store.index

/-- What can become of the entries of a store: none is lost, and one that is not as before has an index
that was not given out before. -/
structure Grows (before after : Store) : Prop where
  index : before.index ≤ after.index
  lasting : ∀ key, (before.entry? key).isSome → (after.entry? key).isSome
  renewed : ∀ key later, after.entry? key = some later →
    before.entry? key = some later ∨ before.index < later.modifyIndex

section
variable {store next before middle after : Store} {now : Instant} {id fresh : String}
variable {sweep : Sweep} {event : Event} {answer : Answer} {entry : KeyEntry}
variable {history : List Moment}

/-! ## Entries that change -/

theorem Grows.trans (front : Grows before middle) (rest : Grows middle after) :
    Grows before after := by
  refine ⟨Nat.le_trans front.index rest.index,
    fun key known => rest.lasting key (front.lasting key known), fun key later found => ?_⟩
  rcases rest.renewed key later found with same | new
  · exact front.renewed key later same
  · exact .inr (Nat.lt_of_le_of_lt front.index new)

/-- A store grows when no entry changes. -/
theorem grows_of_keys (keys : after.keys = before.keys) (index : before.index ≤ after.index) :
    Grows before after := by
  have same (key : String) : after.entry? key = before.entry? key := by
    simp only [keys, entry?]
  exact ⟨index, fun key known => same key ▸ known, fun key later found => .inl (same key ▸ found)⟩

/-- A lease that goes takes an index, which the keys get that it has held. -/
theorem grows_removeLease (store : Store) (id : String) : Grows store (store.removeLease id) := by
  unfold removeLease
  split
  · refine ⟨Nat.le_succ _, fun key known => ?_, fun key later found => ?_⟩
    · simp only [find_unlock, entry?, Option.isSome_map]
      exact known
    · simp only [find_unlock, entry?, Option.map_eq_some_iff] at found
      obtain ⟨entry, earlier, rfl⟩ := found
      unfold unlockFrom
      split
      · exact .inr (Nat.lt_succ_self _)
      · exact .inl earlier
  · exact grows_of_keys rfl (Nat.le_refl _)

theorem grows_removeAll (store : Store) (gone : List String) :
    Grows store (gone.foldl removeLease store) := by
  induction gone generalizing store with
  | nil => exact grows_of_keys rfl (Nat.le_refl _)
  | cons id gone ih => exact (grows_removeLease store id).trans (ih _)

/-- A key that is written has a new index. -/
theorem grows_write (new : entry.modifyIndex = store.index + 1) : Grows store (store.write entry) := by
  refine ⟨Nat.le_succ _, fun key known => ?_, fun key later found => ?_⟩
  · rw [write_entry]
    split
    · rfl
    · exact known
  · rw [write_entry] at found
    split at found
    · cases found
      exact .inr (by rw [new]; exact Nat.lt_succ_self _)
    · exact .inl found

theorem grows_served (served : Served store now fresh request result next) : Grows store next := by
  cases served with
  | created | unheld => exact grows_of_keys rfl (Nat.le_succ _)
  | destroyed => exact grows_removeLease store _
  | locked | released => exact grows_write rfl
  | _ => exact grows_of_keys rfl (Nat.le_refl _)

/-- Whatever happens to a store, it grows. -/
theorem grows_of_course (course : Course store sweep now fresh event answer next) :
    Grows store next := by
  cases course with
  | declined | switched => exact grows_of_keys rfl (Nat.le_refl _)
  | served _ _ served => exact (grows_removeAll store _).trans (grows_served served)
  | counted | wiped => exact grows_removeAll store _

/-! ## Indices in order -/

/-- A store that has lost leases, and unlocked keys of them, still has its indices in order. -/
theorem Numbered.removeLease (numbered : Numbered store) (id : String) :
    Numbered (store.removeLease id) := by
  unfold Store.removeLease
  split
  · refine ⟨?_, numbered.created.sublist (List.filter_sublist.map _), ?_, ?_⟩
    · have same : (fun entry : KeyEntry => entry.key) ∘ unlockFrom id (store.index + 1) =
          fun entry => entry.key := by
        funext entry
        simp only [Function.comp, unlockFrom]
        split <;> rfl
      rw [List.map_map, same]
      exact numbered.keys
    · intro lease member
      exact Nat.le_succ_of_le (numbered.leases lease (List.mem_filter.mp member).1)
    · intro entry member
      obtain ⟨earlier, known, rfl⟩ := List.mem_map.mp member
      unfold unlockFrom
      split
      · exact Nat.le_refl _
      · exact Nat.le_succ_of_le (numbered.entries earlier known)
  · exact numbered

theorem Numbered.removeAll (numbered : Numbered store) (gone : List String) :
    Numbered (gone.foldl Store.removeLease store) := by
  induction gone generalizing store with
  | nil => exact numbered
  | cons id gone ih => exact ih (numbered.removeLease id)

/-- The keys after an entry is put: all as before, and the key of the entry. -/
theorem mem_putEntry {keys : List KeyEntry} (member : entry ∈ putEntry new keys) :
    entry = new ∨ entry ∈ keys := by
  induction keys with
  | nil => exact .inl (List.mem_singleton.mp member)
  | cons found rest ih =>
    unfold putEntry at member
    split at member
    · exact (List.mem_cons.mp member).imp_right (List.mem_cons_of_mem _)
    · rcases List.mem_cons.mp member with rfl | later
      · exact .inr List.mem_cons_self
      · exact (ih later).imp_right (List.mem_cons_of_mem _)

theorem nodup_putEntry {keys : List KeyEntry} (new : KeyEntry)
    (nodup : (keys.map (·.key)).Nodup) : ((putEntry new keys).map (·.key)).Nodup := by
  induction keys with
  | nil => exact List.pairwise_singleton ..
  | cons found rest ih =>
    obtain ⟨absent, others⟩ := List.nodup_cons.mp nodup
    unfold putEntry
    split
    · rename_i same
      rw [List.map_cons, ← same]
      exact nodup
    · rename_i other
      refine List.nodup_cons.mpr ⟨fun inside => ?_, ih others⟩
      obtain ⟨entry, member, same⟩ := List.mem_map.mp inside
      rcases mem_putEntry member with rfl | known
      · exact other same.symm
      · exact absent (same ▸ List.mem_map_of_mem known)

theorem Numbered.write (numbered : Numbered store) (new : entry.modifyIndex = store.index + 1) :
    Numbered (store.write entry) := by
  refine ⟨nodup_putEntry entry numbered.keys, numbered.created, ?_, ?_⟩
  · exact fun lease member => Nat.le_succ_of_le (numbered.leases lease member)
  · intro other member
    rcases mem_putEntry member with rfl | known
    · exact Nat.le_of_eq new
    · exact Nat.le_succ_of_le (numbered.entries other known)

/-- A store still has its indices in order when leases have changed but for their indices. -/
theorem Numbered.of_leases (numbered : Numbered store) (keys : next.keys = store.keys)
    (index : store.index ≤ next.index)
    (leases : next.leases.map (·.createIndex) = store.leases.map (·.createIndex)) :
    Numbered next := by
  refine ⟨keys ▸ numbered.keys, leases ▸ numbered.created, fun lease member => ?_, ?_⟩
  · have inside : lease.createIndex ∈ store.leases.map (·.createIndex) :=
      leases ▸ List.mem_map_of_mem member
    obtain ⟨earlier, known, same⟩ := List.mem_map.mp inside
    exact same ▸ Nat.le_trans (numbered.leases earlier known) index
  · rw [keys]
    exact fun entry member => Nat.le_trans (numbered.entries entry member) index

/-- A new lease has a new index. -/
private theorem numbered_created {lease : Lease} (numbered : Numbered store)
    (new : lease.createIndex = store.index + 1) :
    Numbered { store with leases := store.leases ++ [lease], index := store.index + 1 } := by
  refine ⟨numbered.keys, ?_, ?_, fun entry member => Nat.le_succ_of_le (numbered.entries entry member)⟩
  · rw [List.map_append, List.nodup_append]
    refine ⟨numbered.created, List.pairwise_singleton .., ?_⟩
    intro index old other last
    obtain ⟨earlier, known, rfl⟩ := List.mem_map.mp old
    obtain rfl : other = lease.createIndex := List.mem_singleton.mp last
    rw [new]
    exact Nat.ne_of_lt (Nat.lt_succ_of_le (numbered.leases earlier known))
  · intro other member
    rcases List.mem_append.mp member with old | last
    · exact Nat.le_succ_of_le (numbered.leases other old)
    · rw [List.mem_singleton.mp last]
      exact Nat.le_of_eq new

theorem Numbered.served (numbered : Numbered store)
    (served : Served store now fresh request result next) : Numbered next := by
  cases served with
  | created => exact numbered_created numbered rfl
  | renewed =>
    refine numbered.of_leases rfl (Nat.le_refl _) ?_
    rw [List.map_map]
    refine List.map_congr_left fun lease _ => ?_
    simp only [Function.comp]
    split <;> rfl
  | destroyed => exact numbered.removeLease _
  | locked | released => exact numbered.write rfl
  | unheld => exact numbered.of_leases rfl (Nat.le_succ _) rfl
  | _ => exact numbered

/-- The indices of a store are in order at every time. -/
theorem Kept.numbered (kept : Kept history store) : Numbered store := by
  induction kept with
  | new => exact ⟨List.nodup_nil, List.nodup_nil, by simp, by simp⟩
  | happened _ _ happens _ ih =>
    cases course_of_happen happens with
    | declined => exact ih
    | served _ _ served => exact (ih.removeAll _).served served
    | switched => exact ih.of_leases rfl (Nat.le_refl _) rfl
    | counted | wiped => exact ih.removeAll _

/-! ## Along a history -/

/-- An entry of a store is the one that is found for its key. -/
theorem Numbered.entry_of_mem (numbered : Numbered store) (member : entry ∈ store.keys) :
    store.entry? entry.key = some entry := by
  have nodup := numbered.keys
  unfold entry?
  generalize store.keys = keys at nodup member
  induction keys with
  | nil => cases member
  | cons found rest ih =>
    obtain ⟨absent, others⟩ := List.nodup_cons.mp nodup
    rcases List.mem_cons.mp member with rfl | later
    · simp
    · have apart : found.key ≠ entry.key := by
        intro same
        exact absent (List.mem_map.mpr ⟨entry, later, same.symm⟩)
      rw [List.find?_cons_of_neg (by simpa using apart)]
      exact ih others later

/-- At each moment of a history the store was kept, and grew. -/
theorem Kept.grows (kept : Kept history store) (member : moment ∈ history) :
    Numbered moment.before ∧ Grows moment.before moment.after := by
  induction kept with
  | new => cases member
  | happened kept _ happens _ ih =>
    rcases List.mem_cons.mp member with rfl | earlier
    · exact ⟨kept.numbered, grows_of_course (course_of_happen happens)⟩
    · exact ih earlier

/-- **The indices of a store are in order.** At every time each key is held by a lease that is in the
store, no two leases were created at the same index, and all indices of leases and keys were given
out. Each event keeps all keys. A key whose entry it changes, or makes, gets an index above all that
were given out before, and no key gets a lower one. -/
theorem indices_in_order (kept : Kept history store) :
    (∀ entry ∈ store.keys, ∀ holder, entry.holder = some holder → store.hasLease holder = true) ∧
      (store.leases.map (·.createIndex)).Nodup ∧
      (∀ lease ∈ store.leases, lease.createIndex ≤ store.index) ∧
      (∀ entry ∈ store.keys, entry.modifyIndex ≤ store.index) ∧
      ∀ moment ∈ history, moment.before.index ≤ moment.after.index ∧ ∀ key,
        (∀ entry, moment.before.entry? key = some entry →
          ∃ later, moment.after.entry? key = some later ∧
            entry.modifyIndex ≤ later.modifyIndex ∧
            (later ≠ entry → moment.before.index < later.modifyIndex)) ∧
        ∀ later, moment.before.entry? key = none → moment.after.entry? key = some later →
          moment.before.index < later.modifyIndex := by
  have numbered := kept.numbered
  refine ⟨fun entry member holder held => ?_, numbered.created, numbered.leases, numbered.entries,
    fun moment member => ?_⟩
  · refine kept.sound.held entry.key holder ?_
    rw [holder?, numbered.entry_of_mem member, Option.bind_some, held]
  · obtain ⟨earlier, grows⟩ := kept.grows member
    refine ⟨grows.index, fun key => ⟨fun entry found => ?_, fun later absent found => ?_⟩⟩
    · obtain ⟨later, stays⟩ := Option.isSome_iff_exists.mp (grows.lasting key (by rw [found]; rfl))
      refine ⟨later, stays, ?_⟩
      rcases grows.renewed key later stays with same | new
      · obtain rfl : entry = later := Option.some.inj (found.symm.trans same)
        exact ⟨Nat.le_refl _, fun other => absurd rfl other⟩
      · have given := earlier.entries entry (List.mem_of_find?_eq_some found)
        exact ⟨Nat.le_of_lt (Nat.lt_of_le_of_lt given new), fun _ => new⟩
    · rcases grows.renewed key later found with same | new
      · rw [absent] at same
        cases same
      · exact new

end

/-- When the second of two leases inherits a key, the first one goes, which takes an index, too. -/
theorem inherited_key_index_new : ∃ moment history store,
    inheritance = some (moment :: history, store) ∧
      moment.before.index = 3 ∧
      moment.before.entry? "foo" = some ⟨"foo", [1], some "L1", 3⟩ ∧
      moment.after.entry? "foo" = some ⟨"foo", [2], some "L2", 5⟩ ∧
      moment.before.index < 5 := by
  obtain ⟨moment, history, store, ran, index, before, after⟩ : ∃ moment history store,
      inheritance = some (moment :: history, store) ∧ moment.before.index = 3 ∧
        moment.before.entry? "foo" = some ⟨"foo", [1], some "L1", 3⟩ ∧
        moment.after.entry? "foo" = some ⟨"foo", [2], some "L2", 5⟩ :=
    ⟨_, _, _, rfl, rfl, rfl, rfl⟩
  have ordered := indices_in_order (kept_of_replay .new ran)
  obtain ⟨later, found, _, new⟩ :=
    ((ordered.2.2.2.2 moment List.mem_cons_self).2 "foo").1 _ before
  rw [after] at found
  cases found
  exact ⟨moment, history, store, ran, index, before, after, new (by decide)⟩

end Leasehold.Store
