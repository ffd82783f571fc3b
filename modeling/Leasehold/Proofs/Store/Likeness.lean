import Leasehold.Proofs.Store.Refinement

/-! Stores that are alike but for the indices of the last changes to keys. A request is answered alike by
such stores, and leaves them alike (`Akin.served`). So does the end of several leases at once, in
whatever orders they go: only the keys that they held can come out with other indices (`Akin.removeAll`). -/
namespace Leasehold.Store

/-- Entries that are the same but for the index of the last change. -/
def Redated (entry other : KeyEntry) : Prop := ∃ index, other = { entry with modifyIndex := index }

/-- A relation between entries that are the same but for the index of the last change. -/
structure Lenient (rel : KeyEntry → KeyEntry → Prop) : Prop where
  refl : ∀ entry, rel entry entry
  redated : ∀ {entry other}, rel entry other → Redated entry other

/-- Two stores with the same leases, whose keys have related entries. -/
structure Akin (rel : KeyEntry → KeyEntry → Prop) (one two : Store) : Prop where
  leases : one.leases = two.leases
  index : one.index = two.index
  reachable : one.reachable = two.reachable
  entries : ∀ key, Option.Rel rel (one.entry? key) (two.entry? key)

/-- An index that one of the next leases to go takes. -/
def Takes (store : Store) (count index : Nat) : Prop := store.index < index ∧ index ≤ store.index + count

/-- Related entries stay related, more widely, when both are unlocked at indices that leases take. -/
def Unlocks (rel wider : KeyEntry → KeyEntry → Prop) (store : Store) (count : Nat) : Prop :=
  ∀ ⦃entry other : KeyEntry⦄ ⦃index later : Nat⦄, rel entry other → store.Takes count index →
    store.Takes count later →
      wider { entry with holder := none, modifyIndex := index }
        { other with holder := none, modifyIndex := later }

/-- Two answers that are the same, unless they report related entries of a key. -/
inductive Answer.Akin (rel : KeyEntry → KeyEntry → Prop) : Answer → Answer → Prop where
  | same {answer : Answer} : Akin rel answer answer
  | reported {key : String} {entry other : KeyEntry} (related : rel entry other) :
      Akin rel (.outcome (.get key) (.ok (some entry))) (.outcome (.get key) (.ok (some other)))

section
variable {rel wider : KeyEntry → KeyEntry → Prop} {one two : Store} {gone others : List String}
variable {id key fresh : String} {entry other : KeyEntry} {store next : Store} {now : Instant}
variable {request : Backend.Request} {result : request.Outcome} {sweep order : Sweep} {event : Event}

theorem lenient_redated : Lenient Redated :=
  ⟨fun entry => ⟨entry.modifyIndex, rfl⟩, fun related => related⟩

theorem Lenient.holder (lenient : Lenient rel) (related : rel entry other) :
    entry.holder = other.holder := by
  obtain ⟨index, rfl⟩ := lenient.redated related
  rfl

theorem rel_refl (refl : ∀ entry, rel entry entry) (found : Option KeyEntry) :
    Option.Rel rel found found := by
  cases found with
  | none => exact .none
  | some entry => exact .some (refl entry)

theorem Akin.refl (lenient : Lenient rel) (store : Store) : Akin rel store store :=
  ⟨rfl, rfl, rfl, fun _ => rel_refl lenient.refl _⟩

theorem hasLease_congr (leases : one.leases = two.leases) (id : String) :
    one.hasLease id = two.hasLease id := by
  rw [Store.hasLease, Store.hasLease, leases]

/-- A key is absent from both stores, or has related entries. -/
theorem Akin.paired (akin : Akin rel one two) (key : String) :
    one.entry? key = none ∧ two.entry? key = none ∨
      ∃ entry other, one.entry? key = some entry ∧ two.entry? key = some other ∧ rel entry other := by
  have entries := akin.entries key
  generalize one.entry? key = found, two.entry? key = there at entries
  cases entries with
  | none => exact .inl ⟨rfl, rfl⟩
  | some related => exact .inr ⟨_, _, rfl, rfl, related⟩

theorem Akin.weaken (akin : Akin rel one two)
    (weaker : ∀ {entry other}, rel entry other → wider entry other) : Akin wider one two := by
  refine ⟨akin.leases, akin.index, akin.reachable, fun key => ?_⟩
  rcases akin.paired key with ⟨absent, missing⟩ | ⟨entry, other, found, there, related⟩
  · rw [absent, missing]
    exact .none
  · rw [found, there]
    exact .some (weaker related)

/-! ## Leases that go at once -/

/-- Whether a key is held by one of the leases that go. -/
def falls (store : Store) (gone : List String) (entry : KeyEntry) : Bool :=
  gone.any fun id => entry.holder == some id && store.hasLease id

theorem falls_removeLease (stays : ¬ (entry.holder = some id ∧ store.hasLease id = true)) :
    (store.removeLease id).falls gone entry = store.falls (id :: gone) entry := by
  have first : (entry.holder == some id && store.hasLease id) = false := by
    rw [Bool.eq_false_iff, Ne, Bool.and_eq_true, beq_iff_eq]
    exact stays
  rw [falls, falls, List.any_cons, first, Bool.false_or]
  congr 1
  funext other
  rw [Bool.eq_iff_iff, Bool.and_eq_true, Bool.and_eq_true, hasLease_removeLease, beq_iff_eq]
  constructor
  · rintro ⟨held, known, -⟩
    exact ⟨held, known⟩
  · rintro ⟨held, known⟩
    refine ⟨held, known, ?_⟩
    rintro rfl
    exact stays ⟨held, known⟩

/-- What becomes of an entry when a lease goes. -/
theorem removeLease_found (store : Store) (id key : String) :
    Store.entry? (store.removeLease id) key =
      if store.hasLease id then (store.entry? key).map (unlockFrom id (store.index + 1))
      else store.entry? key := by
  unfold removeLease
  split
  · exact find_unlock ..
  · rfl

theorem removeLease_spares (stays : ¬ (entry.holder = some id ∧ store.hasLease id = true))
    (found : store.entry? key = some entry) : Store.entry? (store.removeLease id) key = some entry := by
  rw [removeLease_found, found]
  split
  · rename_i known
    rw [Option.map_some, unlockFrom, if_neg fun held => stays ⟨held, known⟩]
  · rfl

theorem removeLease_index (store : Store) (id : String) :
    (store.removeLease id).index = store.index + (store.hasLease id).toNat := by
  unfold removeLease
  split
  · rename_i known
    rw [known, Bool.toNat_true]
  · rename_i unknown
    rw [Bool.eq_false_iff.mpr unknown, Bool.toNat_false, Nat.add_zero]

/-- A key that no lease among those that go has held keeps its entry. -/
theorem removeAll_spared (found : store.entry? key = some entry)
    (spared : store.falls gone entry = false) :
    Store.entry? (gone.foldl removeLease store) key = some entry := by
  induction gone generalizing store with
  | nil => exact found
  | cons id gone ih =>
    have stays : ¬ (entry.holder = some id ∧ store.hasLease id = true) := by
      rintro ⟨held, known⟩
      rw [falls, List.any_cons, held, known, beq_self_eq_true, Bool.and_true, Bool.true_or] at spared
      cases spared
    exact ih (removeLease_spares stays found) ((falls_removeLease stays).trans spared)

/-- A key that a lease among those that go has held is unlocked, at one of the indices that these take. -/
theorem removeAll_fallen (found : store.entry? key = some entry)
    (fallen : store.falls gone entry = true) :
    ∃ index, store.Takes gone.length index ∧
      Store.entry? (gone.foldl removeLease store) key =
        some { entry with holder := none, modifyIndex := index } := by
  induction gone generalizing store with
  | nil => cases fallen
  | cons id gone ih =>
    have step := removeLease_index store id
    have bit := Bool.toNat_le (store.hasLease id)
    by_cases stays : entry.holder = some id ∧ store.hasLease id = true
    · obtain ⟨held, known⟩ := stays
      have unlocked : Store.entry? (store.removeLease id) key =
          some { entry with holder := none, modifyIndex := store.index + 1 } := by
        rw [removeLease_found, if_pos known, found, Option.map_some, unlockFrom, if_pos held]
      have free : (store.removeLease id).falls gone
          { entry with holder := none, modifyIndex := store.index + 1 } = false := by
        simp [falls]
      have rest : Store.entry? (gone.foldl removeLease (store.removeLease id)) key =
          some { entry with holder := none, modifyIndex := store.index + 1 } :=
        removeAll_spared unlocked free
      refine ⟨store.index + 1, ⟨Nat.lt_succ_self _, ?_⟩, rest⟩
      rw [List.length_cons]
      omega
    · obtain ⟨index, ⟨above, below⟩, later⟩ := ih (removeLease_spares stays found)
        ((falls_removeLease stays).trans fallen)
      refine ⟨index, ⟨by omega, ?_⟩, later⟩
      rw [List.length_cons]
      omega

theorem removeAll_absent (absent : store.entry? key = none) :
    Store.entry? (gone.foldl removeLease store) key = none := by
  induction gone generalizing store with
  | nil => exact absent
  | cons id gone ih =>
    refine ih ?_
    rw [removeLease_found, absent]
    split <;> rfl

/-- The index of a store depends on the leases that it has and on those that go, but not on its keys. -/
theorem removeAll_congr (gone : List String) (leases : one.leases = two.leases)
    (index : one.index = two.index) :
    (gone.foldl removeLease one).index = (gone.foldl removeLease two).index := by
  induction gone generalizing one two with
  | nil => exact index
  | cons id gone ih =>
    refine ih ?_ ?_
    · rw [removeLease_leases, removeLease_leases, leases]
    · rw [removeLease_index, removeLease_index, index, hasLease_congr leases]

theorem removeLease_swap (store : Store) (first second : String) :
    ((store.removeLease first).removeLease second).index =
      ((store.removeLease second).removeLease first).index := by
  have known (id other : String) : (store.removeLease id).hasLease other =
      (store.hasLease other && other ≠ id) := by
    rw [Bool.eq_iff_iff, hasLease_removeLease, Bool.and_eq_true, decide_eq_true_iff]
  simp only [removeLease_index, known]
  by_cases equal : first = second
  · rw [equal]
  · simp [equal, Ne.symm equal, Nat.add_right_comm]

/-- Leases that go take as many indices in any order. -/
theorem removeAll_index (perm : gone.Perm others) (store : Store) :
    (gone.foldl removeLease store).index = (others.foldl removeLease store).index := by
  induction perm generalizing store with
  | nil => rfl
  | cons id _ ih => exact ih (store.removeLease id)
  | trans _ _ first second => exact (first store).trans (second store)
  | swap first second rest =>
    refine removeAll_congr rest ?_ (removeLease_swap store second first)
    simp only [removeLease_leases, List.filter_filter, Bool.and_comm]

/-- Leases that go at once, in whatever orders, leave alike stores alike, as far as the indices that they
take may differ. -/
theorem Akin.removeAll (lenient : Lenient rel) (akin : Akin rel one two) (perm : gone.Perm others)
    (weaker : ∀ {entry other}, rel entry other → wider entry other)
    (unlocks : Unlocks rel wider one gone.length) :
    Akin wider (gone.foldl removeLease one) (others.foldl removeLease two) := by
  constructor
  case leases =>
    rw [removeAll_leases, removeAll_leases, akin.leases]
    refine List.filter_congr fun lease _ => ?_
    rw [decide_eq_decide, perm.mem_iff]
  case index => rw [removeAll_index perm, removeAll_congr others akin.leases akin.index]
  case reachable => rw [removeAll_reachable, removeAll_reachable, akin.reachable]
  case entries =>
    intro key
    rcases akin.paired key with ⟨absent, missing⟩ | ⟨entry, other, found, there, related⟩
    · rw [removeAll_absent absent, removeAll_absent missing]
      exact .none
    · have fall : two.falls others other = one.falls gone entry := by
        have holder := lenient.holder related
        rw [falls, falls, holder, perm.any_eq]
        simp only [hasLease_congr akin.leases]
      cases falls : one.falls gone entry with
      | false =>
        rw [removeAll_spared found falls, removeAll_spared there (fall.trans falls)]
        exact .some (weaker related)
      | true =>
        obtain ⟨index, first, after⟩ := removeAll_fallen found falls
        obtain ⟨later, second, afterwards⟩ := removeAll_fallen there (fall.trans falls)
        rw [after, afterwards]
        rw [Takes, ← akin.index, ← perm.length_eq] at second
        exact .some (unlocks related first second)

/-- A lease that goes alone takes the same index in both stores. -/
theorem Akin.removeLease (lenient : Lenient rel) (akin : Akin rel one two) (id : String) :
    Akin rel (one.removeLease id) (two.removeLease id) := by
  change Akin rel ([id].foldl Store.removeLease one) ([id].foldl Store.removeLease two)
  refine akin.removeAll lenient (.refl _) (fun related => related) ?_
  rintro entry other index later related ⟨above, below⟩ ⟨laterAbove, laterBelow⟩
  rw [List.length_singleton] at below laterBelow
  obtain rfl : index = later := by omega
  obtain ⟨_, rfl⟩ := lenient.redated related
  exact lenient.refl _

/-! ## Requests -/

/-- A request that locks or unlocks a key. -/
inductive Turns (key : String) : Backend.Request → Prop where
  | put {value : List UInt8} {id : String} : Turns key (.put key value id)
  | release {id : String} : Turns key (.release key id)

/-- A store ends a request in one way only. -/
theorem Served.eq (served : Served store now fresh request result next) :
    store.serveLive now fresh request = (result, next) := by
  cases served with
  | created | destroyed | listed | read => rfl
  | renewed known | unrenewed known | unlockable known | unreleasable known => simp [serveLive, known]
  | @locked key _ id known free =>
    cases found : store.entry? key with
    | none => simp [serveLive, known, found, write]
    | some entry =>
      cases held : entry.holder with
      | none => simp [serveLive, known, found, held, write]
      | some holder =>
        obtain rfl : holder = id := free holder (by rw [holder?, found, Option.bind_some, held])
        simp [serveLive, known, found, held, write]
  | taken known held other =>
    obtain ⟨entry, found, held⟩ := Option.bind_eq_some_iff.mp held
    simp [serveLive, known, found, held, other]
  | released known found held => simp [serveLive, known, found, held, write]
  | @unheld key id known other =>
    cases found : store.entry? key with
    | none => simp [serveLive, known, found]
    | some entry =>
      have free : entry.holder ≠ some id := by
        rw [holder?, found, Option.bind_some] at other
        exact other
      simp [serveLive, known, found, free]

/-- A request that locks or unlocks a key leaves the leases and the other keys as they are. -/
theorem Served.elsewhere (turns : Turns key request)
    (served : Served store now fresh request result next) :
    next.leases = store.leases ∧ next.reachable = store.reachable ∧
      ∀ other, key ≠ other → next.entry? other = store.entry? other := by
  cases turns with
  | put =>
    cases served with
    | locked =>
      refine ⟨rfl, rfl, fun other apart => ?_⟩
      rw [write_entry, if_neg apart]
    | taken | unlockable => exact ⟨rfl, rfl, fun _ _ => rfl⟩
  | release =>
    cases served with
    | released _ found =>
      refine ⟨rfl, rfl, fun other apart => ?_⟩
      rw [write_entry, if_neg (key_of_entry found ▸ apart)]
    | unheld | unreleasable => exact ⟨rfl, rfl, fun _ _ => rfl⟩

/-- A request that locks or unlocks a key ends in the same way in two stores with the same leases and
related entries of that key. -/
theorem Served.turn (lenient : Lenient rel) (turns : Turns key request)
    (leases : one.leases = two.leases) (entries : Option.Rel rel (one.entry? key) (two.entry? key))
    (dated : ∀ entry : KeyEntry, rel { entry with modifyIndex := one.index + 1 }
      { entry with modifyIndex := two.index + 1 })
    (served : Served one now fresh request result next) :
    ∃ later, Served two now fresh request result later ∧
      later.index + one.index = next.index + two.index ∧
      Option.Rel rel (next.entry? key) (later.entry? key) := by
  have known := hasLease_congr leases.symm
  have holder : two.holder? key = one.holder? key := by
    rw [holder?, holder?]
    generalize one.entry? key = found, two.entry? key = there at entries
    cases entries with
    | none => rfl
    | some related => exact (lenient.holder related).symm
  cases turns with
  | @put value id =>
    cases served with
    | locked has free =>
      refine ⟨_, .locked ((known _).trans has) (fun other held => free other (holder ▸ held)), ?_, ?_⟩
      · simp only [write]
        omega
      · rw [write_entry, write_entry, if_pos rfl, if_pos rfl]
        exact .some (dated ⟨key, value, some id, 0⟩)
    | taken has held other =>
      exact ⟨two, .taken ((known _).trans has) (holder ▸ held) other, Nat.add_comm .., entries⟩
    | unlockable hasNot =>
      exact ⟨two, .unlockable ((known _).trans hasNot), Nat.add_comm .., entries⟩
  | @release id =>
    cases served with
    | @released _ entry _ has found held =>
      obtain ⟨other, there, related⟩ : ∃ other, two.entry? key = some other ∧ rel entry other := by
        rw [found] at entries
        generalize two.entry? key = there at entries
        cases entries with
        | some related => exact ⟨_, rfl, related⟩
      obtain ⟨index, rfl⟩ := lenient.redated related
      refine ⟨_, .released ((known _).trans has) there held, ?_, ?_⟩
      · simp only [write]
        omega
      · rw [write_entry, write_entry, if_pos (key_of_entry found), if_pos (key_of_entry there)]
        exact .some (dated { entry with holder := none })
    | unheld has other =>
      refine ⟨_, .unheld ((known _).trans has) (holder ▸ other), ?_, entries⟩
      simp only
      omega
    | unreleasable hasNot =>
      exact ⟨two, .unreleasable ((known _).trans hasNot), Nat.add_comm .., entries⟩

/-- A store that is like another one ends a request that locks or unlocks a key in the same way. -/
theorem Akin.turned (lenient : Lenient rel) (akin : Akin rel one two) (turns : Turns key request)
    (served : Served one now fresh request result next) :
    ∃ later, Served two now fresh request result later ∧ Akin rel next later := by
  obtain ⟨later, again, tally, entries⟩ := served.turn lenient turns akin.leases (akin.entries key)
    fun entry => akin.index ▸ lenient.refl _
  obtain ⟨leases, reachable, aside⟩ := served.elsewhere turns
  obtain ⟨leasesToo, reachableToo, asideToo⟩ := again.elsewhere turns
  have index := akin.index
  refine ⟨later, again, by rw [leases, leasesToo, akin.leases], by omega,
    by rw [reachable, reachableToo, akin.reachable], fun other => ?_⟩
  by_cases same : key = other
  · exact same ▸ entries
  · rw [aside other same, asideToo other same]
    exact akin.entries other

/-- A store that is like another one answers a request alike, and stays like it. -/
theorem Akin.served (lenient : Lenient rel) (akin : Akin rel one two)
    (served : Served one now fresh request result next) :
    ∃ reported later, Served two now fresh request reported later ∧
      Answer.Akin rel (.outcome request result) (.outcome request reported) ∧ Akin rel next later := by
  have known := hasLease_congr akin.leases.symm
  cases request with
  | create name ttl =>
    cases served
    refine ⟨_, _, .created, .same, ?_, congrArg (· + 1) akin.index, akin.reachable, akin.entries⟩
    simp only [akin.leases, akin.index]
  | renew id =>
    cases served with
    | renewed has =>
      refine ⟨_, _, .renewed ((known id).trans has), .same, ?_, akin.index, akin.reachable, akin.entries⟩
      simp only [akin.leases]
    | unrenewed hasNot => exact ⟨_, _, .unrenewed ((known id).trans hasNot), .same, akin⟩
  | destroy id =>
    cases served
    exact ⟨_, _, .destroyed, .same, akin.removeLease lenient id⟩
  | list =>
    cases served
    exact ⟨_, _, .listed, akin.leases ▸ .same, akin⟩
  | put key value id =>
    obtain ⟨later, again, next⟩ := akin.turned lenient .put served
    exact ⟨_, later, again, .same, next⟩
  | release key id =>
    obtain ⟨later, again, next⟩ := akin.turned lenient .release served
    exact ⟨_, later, again, .same, next⟩
  | get key =>
    cases served
    refine ⟨_, _, .read, ?_, akin⟩
    rcases akin.paired key with ⟨absent, missing⟩ | ⟨entry, other, found, there, related⟩
    · rw [absent, missing]
      exact .same
    · rw [found, there]
      exact .reported related

/-! ## Events -/

/-- The ids of the leases that go at once when an event comes to a store, before anything else. -/
def leaving (store : Store) (now : Instant) : Event → List String
  | .requested request =>
    if (refusal? request).isNone && store.reachable then store.overdue now else []
  | .admitted request => if (refusal? request).isNone then store.overdue now else []
  | .counted => store.overdue now
  | .wiped => store.ids
  | .switched _ => []

theorem arrange_perm (sweep order : Sweep) (gone : List String) :
    (sweep.arrange gone).Perm (order.arrange gone) := (sweep.perm gone).trans (order.perm gone).symm

theorem Akin.prune (lenient : Lenient rel) (akin : Akin rel one two)
    (weaker : ∀ {entry other}, rel entry other → wider entry other)
    (unlocks : Unlocks rel wider one (one.overdue now).length) (sweep order : Sweep) :
    Akin wider (one.prune sweep now) (two.prune order now) := by
  have overdue : one.overdue now = two.overdue now := by
    rw [Store.overdue, Store.overdue, akin.leases]
  rw [Store.prune, Store.prune, ← overdue]
  refine akin.removeAll lenient (arrange_perm sweep order _) weaker ?_
  rw [(sweep.perm _).length_eq]
  exact unlocks

theorem Akin.wipe (lenient : Lenient rel) (akin : Akin rel one two)
    (weaker : ∀ {entry other}, rel entry other → wider entry other)
    (unlocks : Unlocks rel wider one one.ids.length) (sweep order : Sweep) :
    (two.wipe order).1 = (one.wipe sweep).1 ∧ Akin wider (one.wipe sweep).2 (two.wipe order).2 := by
  have ids : one.leases.map (·.id) = two.leases.map (·.id) := by rw [akin.leases]
  refine ⟨by rw [Store.wipe, Store.wipe, akin.leases], ?_⟩
  rw [Store.wipe, Store.wipe, ← ids]
  refine akin.removeAll lenient (arrange_perm sweep order _) weaker ?_
  rw [(sweep.perm _).length_eq]
  exact unlocks

/-- An event that comes to alike stores is answered alike, and leaves them alike, in whatever orders the
leases go that go at once, as far as the indices that these take may differ. -/
theorem Akin.happen (lenient : Lenient rel) (broad : Lenient wider) (akin : Akin rel one two)
    (weaker : ∀ {entry other}, rel entry other → wider entry other)
    (unlocks : Unlocks rel wider one (one.leaving now event).length) :
    (one.happen sweep now fresh event).1.Akin wider (two.happen order now fresh event).1 ∧
      Akin wider (one.happen sweep now fresh event).2 (two.happen order now fresh event).2 := by
  have same : Akin wider one two := akin.weaken weaker
  have pruned (all : one.leaving now event = one.overdue now) :
      Akin wider (one.prune sweep now) (two.prune order now) :=
    akin.prune lenient weaker (all ▸ unlocks) sweep order
  have live {request : Backend.Request} (all : one.leaving now event = one.overdue now) :
      Answer.Akin wider (.outcome request ((one.prune sweep now).serveLive now fresh request).1)
          (.outcome request ((two.prune order now).serveLive now fresh request).1) ∧
        Akin wider ((one.prune sweep now).serveLive now fresh request).2
          ((two.prune order now).serveLive now fresh request).2 := by
    obtain ⟨reported, later, again, answers, stores⟩ :=
      (pruned all).served broad (served_of_serveLive _ now fresh request)
    rw [again.eq]
    exact ⟨answers, stores⟩
  cases event with
  | requested request =>
    simp only [Store.happen, Store.serve]
    cases accepted : refusal? request with
    | some error => exact ⟨.same, same⟩
    | none =>
      rw [← akin.reachable]
      cases within : one.reachable with
      | false => exact ⟨.same, same⟩
      | true => exact live (by simp [leaving, accepted, within])
  | admitted request =>
    simp only [Store.happen]
    cases accepted : refusal? request with
    | some error => exact ⟨.same, same⟩
    | none => exact live (by simp [leaving, accepted])
  | switched reachable => exact ⟨.same, same.leases, same.index, rfl, same.entries⟩
  | counted =>
    have stores := pruned rfl
    refine ⟨?_, stores⟩
    simp only [Store.happen, count, stores.leases]
    exact .same
  | wiped =>
    obtain ⟨number, stores⟩ := akin.wipe lenient weaker unlocks sweep order
    refine ⟨?_, stores⟩
    simp only [Store.happen, number]
    exact .same

end

end Leasehold.Store
