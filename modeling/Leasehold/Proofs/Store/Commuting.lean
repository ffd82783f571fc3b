import Mathlib.Data.List.Forall2
import Leasehold.Proofs.Store.Sweeping

/-! Calls that commute. A renewal touches one lease alone, and calls that lock or unlock different keys touch
no common key. Two such calls made at one instant may be swapped: on a pruned store they close a diamond
(`diamond_renewal`, `diamond_keys`), and neither makes a lease overdue, so that only the first of them prunes
(`swap_of_diamond`). -/
namespace Leasehold.Store

/-! ## Stores that differ in indices of changes only -/

section
variable {one two three : Store} {answer reported shown : Answer} {entry other third : KeyEntry}

theorem Redated.symm (redated : Redated entry other) : Redated other entry := by
  obtain ⟨index, rfl⟩ := redated
  exact ⟨entry.modifyIndex, rfl⟩

theorem Redated.trans (redated : Redated entry other) (again : Redated other third) :
    Redated entry third := by
  obtain ⟨_, rfl⟩ := redated
  obtain ⟨index, rfl⟩ := again
  exact ⟨index, rfl⟩

theorem rel_symm {found there : Option KeyEntry} (related : Option.Rel Redated found there) :
    Option.Rel Redated there found := by
  cases related with
  | none => exact .none
  | some related => exact .some related.symm

theorem Answer.Akin.symm (akin : answer.Akin Redated reported) : reported.Akin Redated answer := by
  cases akin with
  | same => exact .same
  | reported related => exact .reported related.symm

theorem Answer.Akin.trans (akin : answer.Akin Redated reported) (again : reported.Akin Redated shown) :
    answer.Akin Redated shown := by
  cases akin with
  | same => exact again
  | reported related =>
    cases again with
    | same => exact .reported related
    | reported other => exact .reported (related.trans other)

theorem Akin.symm (akin : Akin Redated one two) : Akin Redated two one :=
  ⟨akin.leases.symm, akin.index.symm, akin.reachable.symm, fun key => rel_symm (akin.entries key)⟩

theorem Akin.trans (akin : Akin Redated one two) (again : Akin Redated two three) :
    Akin Redated one three := by
  refine ⟨akin.leases.trans again.leases, akin.index.trans again.index,
    akin.reachable.trans again.reachable, fun key => ?_⟩
  have rest := again.entries key
  rcases akin.paired key with ⟨absent, missing⟩ | ⟨entry, other, found, there, related⟩
  · rw [missing] at rest
    rwa [absent]
  · rw [there] at rest
    rw [found]
    generalize three.entry? key = last at rest
    cases rest with
    | some again => exact .some (related.trans again)

theorem run_two (orders : Nat → Sweep) (store : Store) (now : Instant) (first second : String × Event)
    (rest : List (Instant × String × Event)) :
    let next := store.happen (orders 0) now first.1 first.2
    let last := next.2.happen (orders 1) now second.1 second.2
    run orders store ((now, first) :: (now, second) :: rest) =
      ⟨now, store, first.2, next.1, next.2⟩ :: ⟨now, next.2, second.2, last.1, last.2⟩ ::
        run (fun turn => orders (turn + 2)) last.2 rest := rfl

/-- An event is answered alike by alike stores, in whatever orders leases go. -/
theorem Akin.redated (akin : Akin Redated one two) (sweep order : Sweep) (now : Instant)
    (fresh : String) (event : Event) :
    (one.happen sweep now fresh event).1.Akin Redated (two.happen order now fresh event).1 ∧
      Akin Redated (one.happen sweep now fresh event).2 (two.happen order now fresh event).2 := by
  refine akin.happen lenient_redated lenient_redated (fun related => related) ?_
  rintro entry _ index later ⟨_, rfl⟩ - -
  exact ⟨later, rfl⟩

/-- Alike stores answer the same events alike. -/
theorem Akin.run (akin : Akin Redated one two) (orders others : Nat → Sweep)
    (calls : List (Instant × String × Event)) :
    List.Forall₂ (fun moment twin => moment.answer.Akin Redated twin.answer)
      (run orders one calls) (run others two calls) := by
  induction calls generalizing one two orders others with
  | nil => exact .nil
  | cons call calls ih =>
    obtain ⟨now, fresh, event⟩ := call
    obtain ⟨answers, stores⟩ := akin.redated (orders 0) (others 0) now fresh event
    exact .cons answers (ih stores _ _)

end

/-! ## Calls on a pruned store -/

/-- An event is a request that reaches the store, or has its turn. -/
def Event.Asks (request : Backend.Request) (event : Event) : Prop :=
  event = .requested request ∨ event = .admitted request

/-- An event is such a request, or the operator counts the leases. -/
def Event.IsCall (event : Event) : Prop := event = .counted ∨ ∃ request, Event.Asks request event

/-- What a call makes of a pruned store. -/
inductive Acts (store : Store) (now : Instant) (fresh : String) : Event → Answer → Store → Prop where
  | served (asks : Event.Asks request event) (accepted : refusal? request = none)
      (served : Served store now fresh request result next) :
      Acts store now fresh event (.outcome request result) next
  | counted : Acts store now fresh .counted (.number store.leases.length) store

/-- The leases of a store live on for some time, and so do those that are renewed. -/
def Lively (now : Instant) (store : Store) : Prop :=
  ∀ lease ∈ store.leases, now < lease.deadline ∧ 0 < lease.ttl.nanos

section
variable {store next : Store} {now : Instant} {fresh : String} {event : Event} {answer reply : Answer}
variable {request : Backend.Request} {id : String} {sweep : Sweep}

theorem not_asks_counted : ¬ Event.Asks request .counted := by
  rintro (asks | asks) <;> cases asks

theorem Event.Asks.unique {other : Backend.Request} (asks : Event.Asks request event)
    (again : Event.Asks other event) : request = other := by
  rcases asks with rfl | rfl <;> rcases again with again | again <;> cases again <;> rfl

/-- A call ends on a pruned store in one way only. -/
theorem Acts.unique (acts : Acts store now fresh event answer next)
    (again : Acts store now fresh event reply other) : reply = answer ∧ other = next := by
  cases acts with
  | counted =>
    cases again with
    | counted => exact ⟨rfl, rfl⟩
    | served asks => exact absurd asks not_asks_counted
  | served asks _ served =>
    cases again with
    | counted => exact absurd asks not_asks_counted
    | served asked _ again =>
      obtain rfl := asks.unique asked
      have same := served.eq.symm.trans again.eq
      cases same
      exact ⟨rfl, rfl⟩

/-- A call is answered at once, or acts on the pruned store. Which of the two depends on the event and on
whether the store is in reach. -/
theorem stops_or_acts (isCall : event.IsCall) (sweep : Sweep) (now : Instant) (fresh : String)
    (reachable : Bool) :
    (∃ answer, ∀ store : Store, store.reachable = reachable →
        store.happen sweep now fresh event = (answer, store)) ∨
      ∀ store : Store, store.reachable = reachable → ∃ answer next,
        store.happen sweep now fresh event = (answer, next) ∧
          Acts (store.prune sweep now) now fresh event answer next := by
  rcases isCall with rfl | ⟨request, rfl | rfl⟩
  · exact .inr fun store _ => ⟨_, _, rfl, .counted⟩
  · cases accepted : refusal? request with
    | some error => exact .inl ⟨_, fun store _ => by simp only [happen, serve, accepted]; rfl⟩
    | none =>
      cases reachable with
      | false =>
        refine .inl ⟨.outcome request (.error (.backendUnavailable "in-memory backend is unreachable")),
          fun store away => ?_⟩
        simp only [happen, serve, accepted, away, Bool.false_eq_true, if_false]
      | true =>
        refine .inr fun store within => ⟨_, _, ?_, .served (.inl rfl) accepted (served_of_serveLive ..)⟩
        simp only [happen, serve, accepted, within, if_true]
  · cases accepted : refusal? request with
    | some error => exact .inl ⟨_, fun store _ => by simp only [happen, accepted]; rfl⟩
    | none =>
      refine .inr fun store _ => ⟨_, _, ?_, .served (.inr rfl) accepted (served_of_serveLive ..)⟩
      simp only [happen, accepted]

/-! ## Only the first of two calls prunes -/

theorem prune_lively (lively : store.Lively now) (sweep : Sweep) : store.prune sweep now = store := by
  have none : store.overdue now = [] := by
    rw [List.eq_nil_iff_forall_not_mem]
    intro id due
    obtain ⟨lease, member, -, reached⟩ := mem_overdue.mp due
    exact Nat.not_le_of_lt (lively lease member).1 reached
  rw [prune, none, (sweep.perm []).eq_nil, List.foldl_nil]

theorem lively_pruned (positive : ∀ lease ∈ store.leases, 0 < lease.ttl.nanos) (sweep : Sweep)
    (now : Instant) : (store.prune sweep now).Lively now := by
  intro lease member
  obtain ⟨known, stays⟩ := mem_prune.mp member
  have ahead : ¬ lease.deadline ≤ now := fun due => stays (mem_overdue.mpr ⟨lease, known, rfl, due⟩)
  exact ⟨Nat.lt_of_not_le ahead, positive lease known⟩

/-- A store in which a lease lives on from now, if it is there. -/
def prolong (now : Instant) (id : String) (store : Store) : Store :=
  { store with
    leases := store.leases.map fun lease => if lease.id = id then lease.renewAt now else lease }

theorem Lively.prolong (lively : store.Lively now) (id : String) :
    (store.prolong now id).Lively now := by
  intro lease member
  obtain ⟨old, known, rfl⟩ := List.mem_map.mp member
  obtain ⟨ahead, positive⟩ := lively old known
  split
  · exact ⟨Nat.lt_add_of_pos_right positive, positive⟩
  · exact ⟨ahead, positive⟩

theorem positive_of_accepted {name : String} {ttl : Duration}
    (accepted : refusal? (.create name ttl) = none) : 0 < ttl.nanos := by
  refine Nat.pos_of_ne_zero fun zero => ?_
  have empty : ttl.isZero = true := by rw [Duration.isZero, zero, beq_self_eq_true]
  rw [refusal?, if_pos (.inl empty)] at accepted
  cases accepted

/-- A call leaves no lease overdue. -/
theorem Acts.lively (acts : Acts store now fresh event answer next) (lively : store.Lively now) :
    next.Lively now := by
  cases acts with
  | counted => exact lively
  | served _ accepted served =>
    cases served with
    | created =>
      have positive := positive_of_accepted accepted
      intro lease member
      rcases List.mem_append.mp member with old | last
      · exact lively lease old
      · obtain rfl := List.mem_singleton.mp last
        exact ⟨Nat.lt_add_of_pos_right positive, positive⟩
    | renewed => exact lively.prolong _
    | destroyed => exact fun lease member => lively lease (mem_removeLease.mp member).1
    | _ => exact lively

theorem Acts.reachable (acts : Acts store now fresh event answer next) :
    next.reachable = store.reachable := by
  cases acts with
  | counted => rfl
  | served _ _ served =>
    cases served with
    | destroyed =>
      unfold removeLease
      split <;> rfl
    | _ => rfl

end

/-! ## Calls that are independent -/

/-- Whether a request neither makes nor ends a lease with this id. -/
def Spares (id fresh : String) : Backend.Request → Prop
  | .create _ _ => fresh ≠ id
  | .destroy gone => gone ≠ id
  | _ => True

/-- Calls that are independent of each other. A renewal is independent of a call that neither makes nor ends
the lease, and calls that lock or unlock keys are independent of each other if the keys differ. -/
inductive Independent (first second : String × Event) : Prop where
  | renewal {id : String} {request : Backend.Request} (renews : Event.Asks (.renew id) first.2)
      (asks : Event.Asks request second.2) (spares : Spares id second.1 request)
  | count {id : String} (renews : Event.Asks (.renew id) first.2) (counts : second.2 = .counted)
  | keys {key twin : String} {request other : Backend.Request} (asks : Event.Asks request first.2)
      (asksToo : Event.Asks other second.2) (turns : Turns key request) (turnsToo : Turns twin other)
      (apart : key ≠ twin)

/-! ## Diamonds -/

/-- Two calls on a pruned store are answered alike in either order, and leave related stores. -/
def Diamond (rel : Store → Store → Prop) (store : Store) (now : Instant)
    (first second : String × Event) : Prop :=
  ∀ ⦃answer next reply other⦄, Acts store now first.1 first.2 answer next →
    Acts store now second.1 second.2 reply other →
      ∃ last final, Acts next now second.1 second.2 reply last ∧
        Acts other now first.1 first.2 answer final ∧ rel last final

section
variable {store next other : Store} {now : Instant} {fresh id gone key : String}
variable {request : Backend.Request} {result : request.Outcome}

theorem hasLease_prolong (store : Store) (now : Instant) (id other : String) :
    (store.prolong now id).hasLease other = store.hasLease other := by
  simp only [hasLease, prolong, List.any_map]
  congr 1
  funext lease
  simp only [Function.comp]
  split <;> rfl

theorem prolong_absent (absent : store.hasLease id = false) : store.prolong now id = store := by
  have same : store.leases.map (fun lease => if lease.id = id then lease.renewAt now else lease) =
      store.leases := by
    refine (List.map_congr_left fun lease member => if_neg ?_).trans (List.map_id _)
    rintro rfl
    rw [hasLease_of_mem member] at absent
    cases absent
  rw [prolong, same]

theorem prolong_descriptors (store : Store) (now : Instant) (id : String) :
    (store.prolong now id).leases.map Lease.descriptor = store.leases.map Lease.descriptor := by
  rw [prolong, List.map_map]
  congr 1
  funext lease
  simp only [Function.comp]
  split <;> rfl

theorem prolong_removeLease (store : Store) (now : Instant) (id gone : String) :
    (store.prolong now id).removeLease gone = (store.removeLease gone).prolong now id := by
  unfold removeLease
  rw [hasLease_prolong]
  split
  · have same : (store.prolong now id).leases.filter (·.id != gone) =
        (store.leases.filter (·.id != gone)).map fun lease =>
          if lease.id = id then lease.renewAt now else lease := by
      rw [prolong, List.filter_map]
      congr 2
      funext lease
      simp only [Function.comp]
      split <;> rfl
    rw [same]
    rfl
  · rfl

theorem prolong_comm (store : Store) (now : Instant) (id other : String) :
    (store.prolong now id).prolong now other = (store.prolong now other).prolong now id := by
  rcases eq_or_ne id other with rfl | apart
  · rfl
  · simp only [prolong, List.map_map]
    congr 2
    funext lease
    have renewed : (lease.renewAt now).id = lease.id := rfl
    by_cases here : lease.id = id
    · have elsewhere : lease.id ≠ other := here ▸ apart
      simp [here, renewed, apart]
    · by_cases there : lease.id = other <;> simp [here, there, renewed, apart.symm]

/-- A renewal prolongs the lease, and says whether it is there. -/
theorem served_renewal (store : Store) (now : Instant) (fresh id : String) :
    Served store now fresh (.renew id)
      (if store.hasLease id then .ok () else .error (.sessionNotFound id)) (store.prolong now id) := by
  cases known : store.hasLease id with
  | true => exact .renewed known
  | false =>
    rw [prolong_absent known]
    exact .unrenewed known

/-- A request that spares a lease is answered the same whether or not the lease was prolonged before. -/
theorem Served.prolonged (spares : Spares id fresh request)
    (served : Served store now fresh request result next) :
    Served (store.prolong now id) now fresh request result (next.prolong now id) ∧
      next.hasLease id = store.hasLease id := by
  have known (other : String) : (store.prolong now id).hasLease other = store.hasLease other :=
    hasLease_prolong ..
  cases served with
  | @created name ttl =>
    have apart : fresh ≠ id := spares
    refine ⟨?_, ?_⟩
    · have added : Served (store.prolong now id) now fresh (.create name ttl) (.ok fresh) _ := .created
      simpa [prolong, apart] using added
    · simp [hasLease, apart]
  | @renewed id' has =>
    have again := served_renewal (store.prolong now id) now fresh id'
    rw [known, if_pos has, prolong_comm] at again
    exact ⟨again, hasLease_prolong ..⟩
  | unrenewed hasNot => exact ⟨.unrenewed ((known _).trans hasNot), rfl⟩
  | @destroyed gone =>
    have apart : gone ≠ id := spares
    refine ⟨prolong_removeLease store now id gone ▸ .destroyed, ?_⟩
    rw [Bool.eq_iff_iff, hasLease_removeLease]
    exact ⟨And.left, fun has => ⟨has, apart.symm⟩⟩
  | listed =>
    rw [← prolong_descriptors store now id]
    exact ⟨.listed, rfl⟩
  | locked has free => exact ⟨.locked ((known _).trans has) free, rfl⟩
  | taken has held other => exact ⟨.taken ((known _).trans has) held other, rfl⟩
  | unlockable hasNot => exact ⟨.unlockable ((known _).trans hasNot), rfl⟩
  | released has found held => exact ⟨.released ((known _).trans has) found held, rfl⟩
  | unheld has other => exact ⟨.unheld ((known _).trans has) other, rfl⟩
  | unreleasable hasNot => exact ⟨.unreleasable ((known _).trans hasNot), rfl⟩
  | read => exact ⟨.read, rfl⟩

end

section
variable {store : Store} {now : Instant} {fresh id key twin : String} {first second : String × Event}
variable {request other : Backend.Request} {rel : Store → Store → Prop}

theorem Acts.of_asks (acts : Acts store now fresh event answer next) (asks : Event.Asks request event) :
    refusal? request = none ∧
      ∃ result, answer = .outcome request result ∧ Served store now fresh request result next := by
  cases acts with
  | counted => exact absurd asks not_asks_counted
  | served asked accepted served =>
    obtain rfl := asks.unique asked
    exact ⟨accepted, _, rfl, served⟩

/-- A renewal and a call that spares the lease: the lease is prolonged before or after. -/
theorem diamond_renewal (renews : Event.Asks (.renew id) first.2)
    (spares : second.2 = .counted ∨ ∃ request, Event.Asks request second.2 ∧ Spares id second.1 request) :
    Diamond Eq store now first second := by
  intro answer next reply other acts calls
  obtain ⟨-, result, rfl, served⟩ := acts.of_asks renews
  have renewal (store : Store) : Acts store now first.1 first.2 _ (store.prolong now id) :=
    .served renews rfl (served_renewal store now first.1 id)
  obtain ⟨same, prolonged⟩ := acts.unique (renewal store)
  have again := renewal other
  rw [← prolonged, ← same]
  rcases spares with counted | ⟨request, asks, spared⟩
  · obtain ⟨fresh, event⟩ := second
    obtain rfl : event = .counted := counted
    obtain ⟨rfl, rfl⟩ := calls.unique .counted
    have count : (store.prolong now id).leases.length = store.leases.length := List.length_map ..
    exact ⟨_, _, count ▸ .counted, again, rfl⟩
  · obtain ⟨accepted, result, rfl, served⟩ := calls.of_asks asks
    obtain ⟨later, known⟩ := served.prolonged spared
    rw [known] at again
    exact ⟨_, _, .served asks accepted later, again, rfl⟩

/-- Calls that lock or unlock different keys. -/
theorem diamond_keys (asks : Event.Asks request first.2) (asksToo : Event.Asks other second.2)
    (turns : Turns key request) (turnsToo : Turns twin other) (apart : key ≠ twin) :
    Diamond (Akin Redated) store now first second := by
  intro answer next reply last acts calls
  obtain ⟨accepted, result, rfl, served⟩ := acts.of_asks asks
  obtain ⟨acceptedToo, outcome, rfl, servedToo⟩ := calls.of_asks asksToo
  have dated (one two : Store) (entry : KeyEntry) :
      Redated { entry with modifyIndex := one.index + 1 } { entry with modifyIndex := two.index + 1 } :=
    ⟨_, rfl⟩
  obtain ⟨leases, reachable, aside⟩ := served.elsewhere turns
  obtain ⟨leasesToo, reachableToo, asideToo⟩ := servedToo.elsewhere turnsToo
  have untouched : Option.Rel Redated (store.entry? twin) (next.entry? twin) := by
    rw [aside twin apart]
    exact rel_refl lenient_redated.refl _
  have untouchedToo : Option.Rel Redated (store.entry? key) (last.entry? key) := by
    rw [asideToo key apart.symm]
    exact rel_refl lenient_redated.refl _
  obtain ⟨after, serves, tally, entries⟩ :=
    servedToo.turn lenient_redated turnsToo leases.symm untouched (dated store next)
  obtain ⟨final, servesToo, tallyToo, entriesToo⟩ :=
    served.turn lenient_redated turns leasesToo.symm untouchedToo (dated store last)
  obtain ⟨leasesAfter, reachableAfter, asideAfter⟩ := serves.elsewhere turnsToo
  obtain ⟨leasesFinal, reachableFinal, asideFinal⟩ := servesToo.elsewhere turns
  refine ⟨after, final, .served asksToo acceptedToo serves, .served asks accepted servesToo, ?_⟩
  constructor
  case leases => rw [leasesAfter, leases, leasesFinal, leasesToo]
  case index => omega
  case reachable => rw [reachableAfter, reachable, reachableFinal, reachableToo]
  case entries =>
    intro name
    by_cases here : key = name
    · obtain rfl := here
      rw [asideAfter key apart.symm]
      exact entriesToo
    · rw [asideFinal name here]
      by_cases there : twin = name
      · obtain rfl := there
        exact rel_symm entries
      · rw [asideAfter name there, aside name here, asideToo name there]
        exact rel_refl lenient_redated.refl _

/-- Calls that close a diamond may be swapped. Only the first of them prunes. -/
theorem swap_of_diamond (positive : ∀ lease ∈ store.leases, 0 < lease.ttl.nanos)
    (calls : first.2.IsCall) (callsToo : second.2.IsCall) (sweep : Sweep) (now : Instant)
    (diamond : Diamond rel (store.prune sweep now) now first second)
    (refl : ∀ store, rel store store) :
    ∃ answer reply next other last final,
      store.happen sweep now first.1 first.2 = (answer, next) ∧
        next.happen sweep now second.1 second.2 = (reply, last) ∧
      store.happen sweep now second.1 second.2 = (reply, other) ∧
        other.happen sweep now first.1 first.2 = (answer, final) ∧ rel last final := by
  have lively := lively_pruned positive sweep now
  rcases stops_or_acts calls sweep now first.1 store.reachable with ⟨answer, stops⟩ | acts <;>
    rcases stops_or_acts callsToo sweep now second.1 store.reachable with ⟨reply, stopsToo⟩ | actsToo
  · exact ⟨_, _, _, _, _, _, stops _ rfl, stopsToo _ rfl, stopsToo _ rfl, stops _ rfl, refl _⟩
  · obtain ⟨reply, last, happens, did⟩ := actsToo store rfl
    have reached := did.reachable.trans removeAll_reachable
    exact ⟨_, _, _, _, _, _, stops _ rfl, happens, happens, stops _ reached, refl _⟩
  · obtain ⟨answer, next, happens, did⟩ := acts store rfl
    have reached := did.reachable.trans removeAll_reachable
    exact ⟨_, _, _, _, _, _, happens, stopsToo _ reached, stopsToo _ rfl, happens, refl _⟩
  · obtain ⟨answer, next, happens, did⟩ := acts store rfl
    obtain ⟨reply, other, happensToo, didToo⟩ := actsToo store rfl
    obtain ⟨last, final, onward, onwardToo, related⟩ := diamond did didToo
    obtain ⟨_, _, after, doing⟩ := actsToo next (did.reachable.trans removeAll_reachable)
    obtain ⟨_, _, afterToo, doingToo⟩ := acts other (didToo.reachable.trans removeAll_reachable)
    rw [prune_lively (did.lively lively)] at doing
    rw [prune_lively (didToo.lively lively)] at doingToo
    obtain ⟨rfl, rfl⟩ := onward.unique doing
    obtain ⟨rfl, rfl⟩ := onwardToo.unique doingToo
    exact ⟨_, _, _, _, _, _, happens, after, happensToo, afterToo, related⟩

theorem Independent.calls (independent : Independent first second) :
    first.2.IsCall ∧ second.2.IsCall := by
  cases independent with
  | renewal renews asks => exact ⟨.inr ⟨_, renews⟩, .inr ⟨_, asks⟩⟩
  | count renews counts => exact ⟨.inr ⟨_, renews⟩, .inl counts⟩
  | keys asks asksToo => exact ⟨.inr ⟨_, asks⟩, .inr ⟨_, asksToo⟩⟩

/-- A renewal and an independent call leave the same store in either order. -/
theorem Independent.exact {id : String} (independent : Independent first second)
    (renews : Event.Asks (.renew id) first.2) : Diamond Eq store now first second := by
  cases independent with
  | renewal renews asks spares => exact diamond_renewal renews (.inr ⟨_, asks, spares⟩)
  | count renews counts => exact diamond_renewal renews (.inl counts)
  | keys asks _ turns =>
    obtain rfl := asks.unique renews
    cases turns

/-- Independent calls leave stores that are alike in either order. -/
theorem Independent.diamond (independent : Independent first second) :
    Diamond (Akin Redated) store now first second := by
  have exactly {id : String} (renews : Event.Asks (.renew id) first.2) :
      Diamond (Akin Redated) store now first second := by
    intro answer next reply other acts calls
    obtain ⟨last, final, onward, onwardToo, rfl⟩ := independent.exact renews acts calls
    exact ⟨last, last, onward, onwardToo, .refl lenient_redated last⟩
  cases independent with
  | renewal renews => exact exactly renews
  | count renews => exact exactly renews
  | keys asks asksToo turns turnsToo apart => exact diamond_keys asks asksToo turns turnsToo apart

end

/-- **Independent calls commute.** When two independent calls come to a store at one instant, it does not
matter which of them comes first: each is answered the same, the stores afterwards have the same leases and
keys with the same values and holders, and everything that happens later is answered the same, in whatever
orders leases go that go at once, except that a key may be reported with another index of its last change.
If one of the calls is a renewal and leases go in the same order either way, the indices are the same, too. -/
theorem independent_calls_commute {first second : String × Event} (kept : Kept history store)
    (independent : Independent first second) (now : Instant) (orders others : Nat → Sweep)
    (rest : List (Instant × String × Event)) :
    ∃ one two later another other more,
      run orders store ((now, first) :: (now, second) :: rest) = one :: two :: later ∧
      run others store ((now, second) :: (now, first) :: rest) = another :: other :: more ∧
      one.answer.Akin Redated other.answer ∧ two.answer.Akin Redated another.answer ∧
      Akin Redated two.after other.after ∧
      List.Forall₂ (fun moment twin => moment.answer.Akin Redated twin.answer) later more ∧
      ∀ id, Event.Asks (.renew id) first.2 → orders 0 = orders 1 → others = orders →
        other.answer = one.answer ∧ another.answer = two.answer ∧ more = later := by
  have sound := kept.sound
  have positive : ∀ lease ∈ store.leases, 0 < lease.ttl.nanos := fun lease member =>
    sound.positive _ _ (sound.made lease member)
  obtain ⟨calls, callsToo⟩ := independent.calls
  have self : Akin Redated store store := .refl lenient_redated store
  -- Either order is compared with itself under one order of the leases that go.
  obtain ⟨answer, reply, next, beside, last, final, happens, onward, happensToo, onwardToo, related⟩ :=
    swap_of_diamond positive calls callsToo .oldestFirst now independent.diamond
      (.refl lenient_redated)
  obtain ⟨answers, middle⟩ := self.redated (orders 0) .oldestFirst now first.1 first.2
  rw [happens] at answers middle
  obtain ⟨replies, stores⟩ := middle.redated (orders 1) .oldestFirst now second.1 second.2
  rw [onward] at replies stores
  obtain ⟨repliesToo, middleToo⟩ := self.redated (others 0) .oldestFirst now second.1 second.2
  rw [happensToo] at repliesToo middleToo
  obtain ⟨answersToo, storesToo⟩ := middleToo.redated (others 1) .oldestFirst now first.1 first.2
  rw [onwardToo] at answersToo storesToo
  have alike := (stores.trans related).trans storesToo.symm
  refine ⟨_, _, _, _, _, _, run_two .., run_two .., answers.trans answersToo.symm,
    replies.trans repliesToo.symm, alike, alike.run .., ?_⟩
  rintro id renews same rfl
  obtain ⟨answer, reply, next, beside, last, _, happens, onward, happensToo, onwardToo, rfl⟩ :=
    swap_of_diamond positive calls callsToo (others 0) now (independent.exact renews)
      fun _ => rfl
  rw [← same, happens, onward, happensToo, onwardToo]
  exact ⟨rfl, rfl, rfl⟩

/-- Two leases, the first of which locks a key. -/
def pair : Option (List Moment × Store) :=
  replay ([], {})
    [(0, "L1", .requested (.create "a" (.seconds 20))),
      (0, "L2", .requested (.create "b" (.seconds 20))),
      (5000000000, "", .requested (.put "foo" [1] "L1"))]

theorem renewals_commute_in_pair : ∃ history store, Kept history store ∧
    Independent ("", .requested (.renew "L1")) ("", .requested (.renew "L2")) ∧
    ∃ one two later another other more,
      run (fun _ => .oldestFirst) store
          [(9000000000, "", .requested (.renew "L1")), (9000000000, "", .requested (.renew "L2")),
            (50000000000, "", .requested (.get "foo"))] = one :: two :: later ∧
      run (fun _ => .newestFirst) store
          [(9000000000, "", .requested (.renew "L2")), (9000000000, "", .requested (.renew "L1")),
            (50000000000, "", .requested (.get "foo"))] = another :: other :: more ∧
      one.answer.Akin Redated other.answer ∧ two.answer.Akin Redated another.answer ∧
      Akin Redated two.after other.after ∧
      List.Forall₂ (fun moment twin => moment.answer.Akin Redated twin.answer) later more := by
  have ran : pair = some (pair.get (by decide)) := (Option.some_get _).symm
  have kept : Kept (pair.get (by decide)).1 (pair.get (by decide)).2 := kept_of_replay .new ran
  have independent : Independent ("", .requested (.renew "L1")) ("", .requested (.renew "L2")) :=
    .renewal (.inl rfl) (.inl rfl) trivial
  obtain ⟨one, two, later, another, other, more, first, second, answers, replies, stores, rest, -⟩ :=
    independent_calls_commute kept independent 9000000000 (fun _ => .oldestFirst) (fun _ => .newestFirst)
      [(50000000000, "", .requested (.get "foo"))]
  exact ⟨_, _, kept, independent, one, two, later, another, other, more, first, second, answers, replies,
    stores, rest⟩

/-- The number that the operator is told. -/
def Answer.count? : Answer → Option Nat
  | .number count => some count
  | _ => none

/-- A lease cannot be renewed before it is made, and a renewal prunes leases that a wipe would count. -/
theorem creation_and_wipe_do_not_commute :
    (run (fun _ => .oldestFirst) {} [(0, "L1", .requested (.create "a" (.seconds 20))),
        (0, "", .requested (.renew "L1"))]).map (·.answer.renews "L1") = [false, true] ∧
    (run (fun _ => .oldestFirst) {} [(0, "", .requested (.renew "L1")),
        (0, "L1", .requested (.create "a" (.seconds 20)))]).map (·.answer.renews "L1") = [false, false] ∧
    (run (fun _ => .oldestFirst) {} [(0, "L1", .requested (.create "a" (.seconds 1))),
        (1000000000, "", .requested (.renew "L2")), (1000000000, "", .wiped)]).filterMap
      (·.answer.count?) = [0] ∧
    (run (fun _ => .oldestFirst) {} [(0, "L1", .requested (.create "a" (.seconds 1))),
        (1000000000, "", .wiped), (1000000000, "", .requested (.renew "L2"))]).filterMap
      (·.answer.count?) = [1] := by
  refine ⟨?_, ?_, ?_, ?_⟩ <;> decide

end Leasehold.Store
