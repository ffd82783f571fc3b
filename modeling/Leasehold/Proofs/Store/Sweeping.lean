import Leasehold.Proofs.Store.Likeness

/-! The orders in which leases go that go at once. Whatever they are, a store gives the same answers, but
for one number: a key that was unlocked because its lease went together with others may be reported with
any of the indices that these leases took (`Agree`), until it is locked again. -/
namespace Leasehold.Store

/-- Lets events happen one after the other, each with an order for the leases that go at once. -/
def run (orders : Nat → Sweep) (store : Store) : List (Instant × String × Event) → List Moment
  | [] => []
  | (now, fresh, event) :: rest =>
    let (answer, next) := store.happen (orders 0) now fresh event
    ⟨now, store, event, answer, next⟩ :: run (fun turn => orders (turn + 1)) next rest

/-- The ids of the leases that go at once at a moment, because they are overdue or wiped. -/
def Moment.gone (moment : Moment) : List String := moment.before.leaving moment.now moment.event

/-- An index that a lease took which went at this moment, and not alone. -/
def Moment.Shares (moment : Moment) (index : Nat) : Prop :=
  2 ≤ moment.gone.length ∧ moment.before.index < index ∧
    index ≤ moment.before.index + moment.gone.length

/-- Entries that are the same, or were unlocked when several leases went at once, each at an index that
one of these leases took. -/
inductive Agree (past : List Moment) : KeyEntry → KeyEntry → Prop where
  | same {entry : KeyEntry} : Agree past entry entry
  | unlocked {moment : Moment} {key : String} {value : List UInt8} {index later : Nat}
      (known : moment ∈ past) (first : moment.Shares index) (second : moment.Shares later) :
      Agree past ⟨key, value, none, index⟩ ⟨key, value, none, later⟩

section
variable {past more : List Moment} {entry other : KeyEntry} {moment : Moment} {one two : Store}
variable {now : Instant} {event : Event}

/-- Answers that agree differ in one index at most. -/
theorem Answer.Akin.index {answer reported : Answer} (akin : answer.Akin (Agree past) reported) :
    reported = answer ∨
      ∃ key entry index, answer = .outcome (.get key) (.ok (some entry)) ∧
        reported = .outcome (.get key) (.ok (some { entry with modifyIndex := index })) ∧
        entry.holder = none ∧ ∃ moment ∈ past, moment.Shares entry.modifyIndex ∧ moment.Shares index := by
  cases akin with
  | same => exact .inl rfl
  | reported related =>
    cases related with
    | same => exact .inl rfl
    | unlocked known first second => exact .inr ⟨_, _, _, rfl, rfl, rfl, _, known, first, second⟩

end

/-- Removes leases in the order opposite to that in which they were created. -/
def Sweep.newestFirst : Sweep := ⟨List.reverse, List.reverse_perm⟩

end Leasehold.Store
