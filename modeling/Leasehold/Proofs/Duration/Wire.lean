import Mathlib.Algebra.Ring.Int.Defs
import Leasehold.Duration.Spelled
import Leasehold.Duration.Wire

/-! A span as an agent reads it, by Go's rules for durations. The text is a run of items after a sign that
may be missing; an item is a number and a unit, without blanks. Decimal points are left out: an agent is
never sent one. What `onWire` writes is one item (`goNanos?_item`). -/
namespace Leasehold.Duration

/-- The nanoseconds of the unit that has this name. Microseconds have three names, two of which begin with
different characters that look the same. -/
def goUnit? (name : List Char) : Option Nat :=
  match String.ofList name with
  | "ns" => some 1
  | "us" | "\u00B5s" | "\u03BCs" => some 1000
  | "ms" => some 1000000
  | "s" => some 1000000000
  | "m" => some 60000000000
  | "h" => some 3600000000000
  | _ => none

/-- Where an agent's reader stands. -/
inductive GoPlace where
  /-- Before the first item. -/
  | start
  /-- In the digits of a number. -/
  | number (value : Nat)
  /-- In the unit's name, of which the letters so far are kept with the last one first. -/
  | unit (value : Nat) (letters : List Char)

/-- The nanoseconds of an item that ends where its unit's name ends. -/
def goItem? (value : Nat) (letters : List Char) : Option Nat :=
  (goUnit? letters.reverse).map (value * ·)

/-- The nanoseconds of the items from a place to the end of the text, of which there is at least one. A
unit's name goes on up to the next digit. -/
def goItems? : GoPlace → List Char → Option Nat
  | .start, [] | .number _, [] => none
  | .start, c :: rest => (digit? c).bind fun value => goItems? (.number value) rest
  | .number value, c :: rest =>
    match digit? c with
    | some next => goItems? (.number (value * 10 + next)) rest
    | none => if c = '.' then none else goItems? (.unit value [c]) rest
  | .unit value letters, [] => goItem? value letters
  | .unit value letters, c :: rest =>
    match digit? c with
    | some next => do
      let item ← goItem? value letters
      let items ← goItems? (.number next) rest
      some (item + items)
    | none => if c = '.' then none else goItems? (.unit value (c :: letters)) rest

/-- The nanoseconds of a text without a sign. A zero needs no unit. -/
def goUnsigned? (text : List Char) : Option Nat :=
  if text = ['0'] then some 0 else goItems? .start text

/-- The nanoseconds that a text stands for, however many there are. -/
def goNanos? : List Char → Option Int
  | '-' :: rest => (goUnsigned? rest).map fun nanos => -(nanos : Int)
  | '+' :: rest => (goUnsigned? rest).map Int.ofNat
  | text => (goUnsigned? text).map Int.ofNat

/-- The nanoseconds that an agent reads from a text, which fit a signed 64-bit word. -/
def goRead? (text : String) : Option Int :=
  (goNanos? text.toList).filter fun nanos => -2 ^ 63 ≤ nanos ∧ nanos < 2 ^ 63

example : goRead? "1h30m" = some 5400000000000 := by decide +kernel
example : goRead? "-1.5h" = none := by decide +kernel
example : goRead? "9223372036854775808ns" = none := by decide +kernel

/-! ## Reading one item -/

/-- The name of a unit is neither empty nor broken off. -/
def IsGoName (name : List Char) : Prop := name ≠ [] ∧ ∀ c ∈ name, c.isDigit = false ∧ c ≠ '.'

theorem goItems?_digits (run : List Char) (digits : ∀ c ∈ run, c.isDigit = true) (value : Nat)
    (rest : List Char) :
    goItems? (.number value) (run ++ rest) =
      goItems? (.number (Nat.ofDigitChars 10 run value)) rest := by
  induction run generalizing value with
  | nil => rfl
  | cons c run ih =>
    have digit : digit? c = some (c.toNat - '0'.toNat) := by
      simp [digit?, digits c List.mem_cons_self]
    rw [List.cons_append, goItems?, Nat.ofDigitChars_cons, Nat.mul_comm 10]
    simp only [digit]
    exact ih (fun c member => digits c (List.mem_cons_of_mem _ member)) _

theorem goItems?_letters (name : List Char) (plain : ∀ c ∈ name, c.isDigit = false ∧ c ≠ '.')
    (value : Nat) (letters : List Char) :
    goItems? (.unit value letters) name = goItem? value (name.reverse ++ letters) := by
  induction name generalizing letters with
  | nil => rfl
  | cons c name ih =>
    obtain ⟨digit, point⟩ := plain c List.mem_cons_self
    rw [goItems?, List.reverse_cons, List.append_assoc]
    simp only [digit?, digit, Bool.false_eq_true, ↓reduceIte, if_neg point]
    exact ih (fun c member => plain c (List.mem_cons_of_mem _ member)) _

/-- A number with a unit is read as that many of the unit. -/
theorem goNanos?_item {name : List Char} (named : IsGoName name) (value : Nat) :
    goNanos? (Nat.toDigits 10 value ++ name) = (goUnit? name).map fun unit => ((value * unit : Nat) : Int) := by
  obtain ⟨nonempty, plain⟩ := named
  obtain ⟨letter, letters, rfl⟩ := List.exists_cons_of_ne_nil nonempty
  have digits : ∀ c ∈ Nat.toDigits 10 value, c.isDigit = true :=
    fun c member => Nat.isDigit_of_mem_toDigits (by decide) (by decide) member
  have value_eq : Nat.ofDigitChars 10 (Nat.toDigits 10 value) 0 = value :=
    Nat.ofDigitChars_toDigits (by decide) (by decide)
  obtain ⟨first, run, written⟩ := List.exists_cons_of_ne_nil (Nat.toDigits_ne_nil : Nat.toDigits 10 value ≠ [])
  rw [written] at digits value_eq ⊢
  have digit := digits first List.mem_cons_self
  have opens : digit? first = some (first.toNat - '0'.toNat) := by simp [digit?, digit]
  obtain ⟨other, point⟩ := plain letter List.mem_cons_self
  have items : goItems? .start (first :: run ++ letter :: letters) =
      (goUnit? (letter :: letters)).map (value * ·) := by
    rw [Nat.ofDigitChars_cons, Nat.mul_zero, Nat.zero_add] at value_eq
    rw [List.cons_append, goItems?, opens, Option.bind_some,
      goItems?_digits run (fun c member => digits c (List.mem_cons_of_mem _ member)), value_eq, goItems?]
    simp only [digit?, other, Bool.false_eq_true, ↓reduceIte, if_neg point]
    rw [goItems?_letters letters fun c member => plain c (List.mem_cons_of_mem _ member), goItem?]
    simp
  -- What begins with a digit has no sign, and what ends with a unit is no zero alone.
  have unsigned : goNanos? (first :: run ++ letter :: letters) =
      (goUnsigned? (first :: run ++ letter :: letters)).map Int.ofNat := by
    rw [List.cons_append, goNanos?.eq_3]
    · rintro rest ⟨⟩; cases digit
    · rintro rest ⟨⟩; cases digit
  have several : first :: run ++ letter :: letters ≠ ['0'] := by
    intro same
    simp at same
  rw [unsigned, goUnsigned?, if_neg several, items, Option.map_map]
  rfl

/-- The text of a span is one item: a whole number of seconds, or else of milliseconds, which is as many
nanoseconds as the span has in whole milliseconds. -/
theorem onWire_item (span : Duration) :
    ∃ value name, span.onWire = String.ofList (Nat.toDigits 10 value ++ name) ∧
      (name = ['s'] ∧ value * 1000000000 = span.millis * 1000000 ∨
        name = ['m', 's'] ∧ value = span.millis) := by
  unfold onWire
  split
  · rename_i whole
    refine ⟨span.secs, ['s'], rfl, .inl ⟨rfl, ?_⟩⟩
    unfold subsecNanos at whole
    unfold secs millis
    omega
  · exact ⟨span.millis, ['m', 's'], rfl, .inr ⟨rfl, rfl⟩⟩

/-- **What an agent is told of a span.** It reads the span without what is below a millisecond. -/
theorem goNanos?_onWire (span : Duration) :
    goNanos? span.onWire.toList = some ((span.millis * 1000000 : Nat) : Int) := by
  obtain ⟨value, name, written, ⟨rfl, same⟩ | ⟨rfl, rfl⟩⟩ := onWire_item span
  · have named : IsGoName ['s'] := by simp [IsGoName]
    rw [written, String.toList_ofList, goNanos?_item named, ← same]
    rfl
  · have named : IsGoName ['m', 's'] := by simp [IsGoName]
    rw [written, String.toList_ofList, goNanos?_item named]
    rfl

/-- **A span is told rounded down to whole milliseconds.** Its text is a decimal number of seconds or of
milliseconds, however many there are. What is read from it is the span rounded down, which is the span itself
if that has nothing below a millisecond. A longer span is never read as a shorter one, also where the two are
told in different units. -/
theorem onWire_rounds_down (span : Duration) :
    (∃ value, span.onWire.toList = Nat.toDigits 10 value ++ ['s'] ∨
      span.onWire.toList = Nat.toDigits 10 value ++ ['m', 's']) ∧
    goNanos? span.onWire.toList = some ((span.nanos / 1000000 * 1000000 : Nat) : Int) ∧
    (1000000 ∣ span.nanos → goNanos? span.onWire.toList = some (span.nanos : Int)) ∧
    ∀ longer : Duration, span.nanos ≤ longer.nanos → ∃ less more : Int,
      goNanos? span.onWire.toList = some less ∧ goNanos? longer.onWire.toList = some more ∧
      less ≤ more := by
  refine ⟨?_, goNanos?_onWire span, fun whole => ?_, fun longer le => ?_⟩
  · obtain ⟨value, name, written, ⟨rfl, -⟩ | ⟨rfl, -⟩⟩ := onWire_item span
    · exact ⟨value, .inl (by rw [written, String.toList_ofList])⟩
    · exact ⟨value, .inr (by rw [written, String.toList_ofList])⟩
  · rw [goNanos?_onWire, millis, Nat.div_mul_cancel whole]
  · refine ⟨_, _, goNanos?_onWire span, goNanos?_onWire longer, ?_⟩
    exact Int.ofNat_le.mpr (Nat.mul_le_mul_right _ (Nat.div_le_div_right le))

/-- The last span before a second is told in milliseconds, and the second in seconds. -/
theorem onWire_rounds_down_below_second :
    goNanos? (⟨999999999, by decide⟩ : Duration).onWire.toList = some 999000000 ∧
      goNanos? (seconds 1).onWire.toList = some 1000000000 ∧
      ∃ less more : Int, goNanos? (⟨999999999, by decide⟩ : Duration).onWire.toList = some less ∧
        goNanos? (seconds 1).onWire.toList = some more ∧ less ≤ more := by
  obtain ⟨-, rounded, -, ordered⟩ := onWire_rounds_down ⟨999999999, by decide⟩
  obtain ⟨-, -, exact_, -⟩ := onWire_rounds_down (seconds 1)
  exact ⟨rounded, exact_ (by decide), ordered (seconds 1) (by decide)⟩

end Leasehold.Duration
