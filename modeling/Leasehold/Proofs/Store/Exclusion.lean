import Leasehold.Proofs.Store.History

/-! Who holds a key. A key that a lease has locked stays with that lease until the lease unlocks it, is
removed, or is overdue; nothing else that happens to the store lets another lease lock it. -/
namespace Leasehold.Store

/-- The store let a lease lock a key at this moment. -/
def Moment.Locks (moment : Moment) (key id : String) : Prop :=
  ∃ value, moment.answer = .outcome (.put key value id) (.ok true)

/-- The store let a lease unlock a key at this moment. -/
def Moment.Unlocks (moment : Moment) (key id : String) : Prop :=
  moment.answer = .outcome (.release key id) (.ok true)

/-- A lease was in the store and was removed from it at this moment, on request or by the operator. -/
def Moment.Removes (moment : Moment) (id : String) : Prop :=
  (moment.answer = .outcome (.destroy id) (.ok ()) ∨ moment.event = .wiped) ∧
    moment.before.hasLease id = true ∧ moment.after.hasLease id = false

section
variable {store next : Store} {now : Instant} {key id : String} {history earlier : List Moment}
variable {sweep : Sweep} {event : Event} {answer : Answer} {fresh : String}

/-! ## Leases that are gone -/

/-- A lease that is not in the store does not come back under an id that is new. -/
theorem absent_served (served : Served store now fresh request result next)
    (absent : store.hasLease id = false)
    (new : (Answer.outcome request result).grants? id = none) : next.hasLease id = false := by
  cases served with
  | created =>
    have other : fresh ≠ id := by
      rintro rfl
      simp [Answer.grants?] at new
    simp_all [hasLease]
  | renewed =>
    rw [← absent]
    simp only [hasLease, List.any_map]
    congr 1
    funext lease
    simp only [Function.comp]
    split <;> rfl
  | destroyed =>
    rw [Bool.eq_false_iff] at absent ⊢
    exact fun known => absent (hasLease_removeLease.mp known).1
  | _ => exact absent

/-- What is not in the store cannot be renewed. -/
theorem not_renewed_of_absent (served : Served store now fresh request result next)
    (absent : store.hasLease id = false) :
    (Answer.outcome request result).renews id = false := by
  cases served with
  | @renewed renewed known =>
    simp only [Answer.renews, decide_eq_false_iff_not]
    rintro rfl
    rw [absent] at known
    cases known
  | _ => rfl

/-- A lease that is not in the pruned store is not renewed, and is not in the store afterwards, unless
the event does not touch the leases and keys at all. -/
theorem gone_after (course : Course store sweep now fresh event answer next)
    (gone : (store.prune sweep now).hasLease id = false) (new : answer.grants? id = none) :
    answer.renews id = false ∧
      (next.hasLease id = false ∨ next.leases = store.leases ∧ next.keys = store.keys) := by
  cases course with
  | declined => exact ⟨renews_error, .inr ⟨rfl, rfl⟩⟩
  | served about accepted served =>
    exact ⟨not_renewed_of_absent served gone, .inl (absent_served served gone new)⟩
  | switched => exact ⟨rfl, .inr ⟨rfl, rfl⟩⟩
  | counted => exact ⟨rfl, .inl gone⟩
  | wiped =>
    refine ⟨rfl, .inl ?_⟩
    rw [hasLease, wipe_leases]
    rfl

/-- A lease that was made before is not made again. -/
theorem not_granted (unique : ∀ id, (answer.grants? id).isSome → ttl? id history = none)
    (made : ttl? id history = some ttl) : answer.grants? id = none := by
  rw [← Option.not_isSome_iff_eq_none]
  intro granted
  rw [unique id granted] at made
  cases made

/-- A lease that has gone stays away, and its deadline stays what it was. -/
theorem gone_stays (course : Course store sweep now fresh event answer next)
    (unique : ∀ id, (answer.grants? id).isSome → ttl? id history = none)
    (due : deadline? id history = some deadline) (absent : store.hasLease id = false) :
    next.hasLease id = false ∧
      deadline? id (⟨now, store, event, answer, next⟩ :: history) = some deadline := by
  obtain ⟨ttl, made⟩ := ttl?_of_deadline? due
  have new := not_granted unique made
  have gone : (store.prune sweep now).hasLease id = false := by
    rw [Bool.eq_false_iff] at absent ⊢
    exact fun known => absent (hasLease_prune.mp known).1
  obtain ⟨renewed, gone | ⟨leases, _⟩⟩ := gone_after course gone new
  · exact ⟨gone, (deadline?_quiet new renewed).trans due⟩
  · exact ⟨by rw [hasLease, leases]; exact absent, (deadline?_quiet new renewed).trans due⟩

/-! ## Keys that are held -/

/-- What a request that is served does to a key that a lease holds. -/
theorem held_served (served : Served store now fresh request result next)
    (held : store.holder? key = some id) :
    next.holder? key = some id ∨
      Answer.outcome request result = .outcome (.release key id) (.ok true) ∨
      Answer.outcome request result = .outcome (.destroy id) (.ok ()) ∧
        next.hasLease id = false := by
  cases served with
  | @destroyed gone =>
    by_cases same : id = gone
    · subst same
      refine .inr (.inr ⟨rfl, Bool.eq_false_iff.mpr fun stays => ?_⟩)
      exact (hasLease_removeLease.mp stays).2 rfl
    · exact .inl (removeLease_holder.mpr ⟨held, fun gone => same gone.1⟩)
  | @locked written _ owner _ free =>
    left
    rw [write_holder]
    split
    · rename_i same
      cases same
      rw [free id held]
    · exact held
  | @released unlocked entry owner _ found own =>
    by_cases same : unlocked = key
    · subst same
      rw [holder?, found, Option.bind_some, own] at held
      cases held
      exact .inr (.inl rfl)
    · left
      rw [write_holder, if_neg (by rwa [key_of_entry found]), held]
  | _ => exact .inl held

/-- What can become of a key that a lease holds: it is still held, it was unlocked, the lease was
removed, or the lease was overdue and has gone. -/
theorem held_after (sound : Sound history store) (held : store.holder? key = some id)
    (unique : ∀ id, (answer.grants? id).isSome → ttl? id history = none)
    (course : Course store sweep now fresh event answer next) :
    next.holder? key = some id ∨ Moment.Unlocks ⟨now, store, event, answer, next⟩ key id ∨
      Moment.Removes ⟨now, store, event, answer, next⟩ id ∨
      next.hasLease id = false ∧ ∃ deadline, deadline ≤ now ∧
        deadline? id (⟨now, store, event, answer, next⟩ :: history) = some deadline := by
  have known := sound.held key id held
  by_cases overdue : id ∈ store.overdue now
  · have pruned : (store.prune sweep now).hasLease id = false :=
      Bool.eq_false_iff.mpr fun stays => (hasLease_prune.mp stays).2 overdue
    obtain ⟨lease, member, rfl, reached⟩ := mem_overdue.mp overdue
    have new := not_granted unique (sound.made lease member)
    obtain ⟨renewed, gone | ⟨_, keys⟩⟩ := gone_after course pruned new
    · refine .inr (.inr (.inr ⟨gone, lease.deadline, reached, ?_⟩))
      rw [deadline?_quiet new renewed, sound.due lease member]
    · exact .inl (by rw [holder?, entry?, keys]; exact held)
  · have pruned : (store.prune sweep now).holder? key = some id := prune_holder.mpr ⟨held, overdue⟩
    cases course with
    | declined | switched => exact .inl held
    | served about accepted served =>
      rcases held_served served pruned with still | unlocked | ⟨given, gone⟩
      · exact .inl still
      · exact .inr (.inl unlocked)
      · exact .inr (.inr (.inl ⟨.inl given, known, gone⟩))
    | counted => exact .inl pruned
    | wiped =>
      refine .inr (.inr (.inl ⟨.inr rfl, known, ?_⟩))
      rw [hasLease, wipe_leases]
      rfl

/-! ## Along a history -/

/-- A lease that is made or renewed has its deadline ahead. -/
theorem Kept.deadline_ahead (kept : Kept (since ++ history) store)
    (earlier : deadline? id history = some first) (ahead : time < first)
    (order : ∀ moment ∈ since, time ≤ moment.now)
    (due : deadline? id (since ++ history) = some deadline) : time < deadline := by
  induction since generalizing store deadline with
  | nil =>
    rw [List.nil_append, earlier] at due
    cases due
    exact ahead
  | cons moment since ih =>
    have sound := kept.sound
    have reached := order moment List.mem_cons_self
    cases made : moment.answer.grants? id with
    | some ttl =>
      have positive := sound.positive id ttl (by rw [List.cons_append, ttl?_add, made]; rfl)
      rw [List.cons_append, deadline?_granted made] at due
      cases due
      exact Nat.lt_of_le_of_lt reached (Nat.lt_add_of_pos_right positive)
    | none =>
      cases renewed : moment.answer.renews id with
      | true =>
        obtain ⟨ttl, known⟩ := ttl?_of_deadline? due
        have positive := sound.positive id ttl known
        rw [List.cons_append, ttl?_add, made, Option.none_or] at known
        rw [List.cons_append, deadline?_renewed made renewed known] at due
        cases due
        exact Nat.lt_of_le_of_lt reached (Nat.lt_add_of_pos_right positive)
      | false =>
        rw [List.cons_append, deadline?_quiet made renewed] at due
        cases kept with
        | happened kept =>
          exact ih kept (fun moment member => order moment (List.mem_cons_of_mem _ member)) due

/-- A lease that locks a key holds it, and is not overdue. -/
theorem Kept.locked (kept : Kept (moment :: history) store) (locks : moment.Locks key id) :
    store.holder? key = some id ∧
      ∃ deadline, deadline? id (moment :: history) = some deadline ∧ moment.now < deadline := by
  obtain ⟨value, answered⟩ := locks
  cases kept with
  | happened kept order happens unique =>
    simp only at answered
    subst answered
    cases course_of_happen happens with
    | served about accepted served =>
      cases served with
      | locked known free =>
        obtain ⟨lease, member, rfl, ahead⟩ := ahead_of_pruned known
        refine ⟨by rw [write_holder, if_pos rfl], lease.deadline, ?_, ahead⟩
        rw [deadline?_quiet rfl rfl, kept.sound.due lease member]

/-- What became of a lock since it was taken. -/
inductive Tenure (key id : String) (history since : List Moment) (store : Store) : Prop where
  /-- The lease holds the key. -/
  | holds (held : store.holder? key = some id)
  /-- The lease has unlocked the key. -/
  | unlocked (member : moment ∈ since) (unlocks : moment.Unlocks key id)
  /-- The lease was removed. -/
  | removed (member : moment ∈ since) (removes : moment.Removes id)
  /-- The lease was overdue and has gone. -/
  | expired (absent : store.hasLease id = false) (due : deadline? id history = some deadline)
      (member : moment ∈ since) (reached : deadline ≤ moment.now)

/-- A lock that was taken is held, unless the lease has unlocked it, was removed or has expired. -/
theorem Kept.tenure (kept : Kept (since ++ first :: history) store) (locks : first.Locks key id) :
    Tenure key id (since ++ first :: history) since store := by
  induction since generalizing store with
  | nil => exact .holds (kept.locked locks).1
  | cons moment since ih =>
    cases kept with
    | happened kept order happens unique =>
      have course := course_of_happen happens
      have sound := kept.sound
      cases ih kept with
      | unlocked member unlocks => exact .unlocked (List.mem_cons_of_mem _ member) unlocks
      | removed member removes => exact .removed (List.mem_cons_of_mem _ member) removes
      | expired absent due member reached =>
        obtain ⟨gone, same⟩ := gone_stays course unique due absent
        exact .expired gone same (List.mem_cons_of_mem _ member) reached
      | holds held =>
        rcases held_after sound held unique course with
          still | unlocks | removes | ⟨gone, deadline, reached, due⟩
        · exact .holds still
        · exact .unlocked List.mem_cons_self unlocks
        · exact .removed List.mem_cons_self removes
        · exact .expired gone due List.mem_cons_self reached

end

/-- **A lock excludes others.** Between a moment at which the store lets a lease lock a key and a later
one at which it lets another lease lock that key, the first lease has unlocked the key, was removed,
or its deadline was reached. -/
theorem lock_excludes {key owner other : String}
    (kept : Kept (later ++ second :: since ++ first :: earlier) store)
    (locked : first.Locks key owner) (relocked : second.Locks key other) (differ : owner ≠ other) :
    (∃ moment ∈ since, moment.Unlocks key owner) ∨ (∃ moment ∈ since, moment.Removes owner) ∨
      ∃ deadline, deadline? owner (since ++ first :: earlier) = some deadline ∧
        first.now < deadline ∧ deadline ≤ second.now := by
  rw [List.append_assoc] at kept
  obtain ⟨reached, kept⟩ := kept.of_append
  obtain ⟨value, answered⟩ := relocked
  have quiet : deadline? owner (second :: since ++ first :: earlier) =
      deadline? owner (since ++ first :: earlier) :=
    deadline?_quiet (by rw [answered]; rfl) (by rw [answered]; rfl)
  have order : ∀ moment ∈ second :: since, first.now ≤ moment.now := fun moment member =>
    (List.pairwise_append.mp kept.order).2.2 moment member first List.mem_cons_self
  cases kept.tenure locked with
  | holds held =>
    rw [(kept.locked ⟨value, answered⟩).1] at held
    exact absurd (Option.some.inj held).symm differ
  | unlocked member unlocks =>
    rcases List.mem_cons.mp member with rfl | member
    · rw [Moment.Unlocks, answered] at unlocks
      cases unlocks
    · exact .inl ⟨_, member, unlocks⟩
  | removed member removes =>
    rcases List.mem_cons.mp member with rfl | member
    · rcases removes.1 with destroyed | wiped
      · rw [answered] at destroyed
        cases destroyed
      · exact absurd wiped (kept.not_wiped answered)
    · exact .inr (.inl ⟨_, member, removes⟩)
  | @expired deadline moment absent due member reached =>
    obtain ⟨_, start⟩ := kept.of_append
    obtain ⟨_, known, ahead⟩ := (start.locked locked).2
    have latest : moment.now ≤ second.now := by
      rcases List.mem_cons.mp member with rfl | member
      · exact Nat.le_refl _
      · exact List.rel_of_pairwise_cons kept.order (List.mem_append_left _ member)
    exact .inr (.inr ⟨deadline, quiet ▸ due, kept.deadline_ahead known ahead order due,
      Nat.le_trans reached latest⟩)

/-- Two leases, the first of which locks a key, is not renewed in time, and loses the key to the other
when its deadline is reached. Meanwhile the store is out of reach for a while. -/
def inheritance : Option (List Moment × Store) :=
  replay ([], {})
    [(0, "L1", .requested (.create "a" (.seconds 20))),
      (0, "L2", .requested (.create "b" (.seconds 40))),
      (5000000000, "", .requested (.put "foo" [1] "L1")),
      (10000000000, "", .switched false),
      (12000000000, "", .requested (.renew "L1")),
      (15000000000, "", .switched true),
      (16000000000, "", .requested (.put "foo" [2] "L2")),
      (20000000000, "", .requested (.put "foo" [2] "L2"))]

theorem expired_lock_passes_on : ∃ second since first earlier store,
    inheritance = some (second :: since ++ first :: earlier, store) ∧
      first.Locks "foo" "L1" ∧ second.Locks "foo" "L2" ∧
      ((∃ moment ∈ since, moment.Unlocks "foo" "L1") ∨ (∃ moment ∈ since, moment.Removes "L1") ∨
        ∃ deadline, deadline? "L1" (since ++ first :: earlier) = some deadline ∧
          first.now < deadline ∧ deadline ≤ second.now) := by
  have ran : inheritance = some (inheritance.get (by decide)) := (Option.some_get _).symm
  obtain ⟨second, since, first, earlier, store, same, locked, relocked⟩ :
      ∃ second since first earlier store,
        inheritance = some (second :: since ++ first :: earlier, store) ∧
          first.Locks "foo" "L1" ∧ second.Locks "foo" "L2" :=
    ⟨_, [_, _, _, _], _, [_, _], _, rfl, ⟨[1], rfl⟩, ⟨[2], rfl⟩⟩
  have kept : Kept ([] ++ second :: since ++ first :: earlier) store := kept_of_replay .new same
  exact ⟨second, since, first, earlier, store, same, locked, relocked,
    lock_excludes kept locked relocked (by decide)⟩

end Leasehold.Store
