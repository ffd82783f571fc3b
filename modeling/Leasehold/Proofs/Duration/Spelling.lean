import Mathlib.Algebra.Ring.Nat
import Mathlib.Data.List.Forall2
import Leasehold.Duration.Spelled

/-! Spans read back from their spelled form. A spelled span is a list of texts, each of which `Spells`
one item; the reader finds those items again, whatever the texts are, and the items of a span add up to
it without leaving the range on the way. -/
namespace Leasehold.Duration

/-! ## Reading items -/

/-- A name whose letters end neither with a blank nor with a digit. -/
def IsWritten (name : List Char) : Prop :=
  name ≠ [] ∧ ∀ c ∈ name, isUnitLetter c = true ∧ c.isDigit = false ∧ Text.isBlank c = false

instance (name : List Char) : Decidable (IsWritten name) :=
  have : Decidable (∀ c ∈ name, isUnitLetter c = true ∧ c.isDigit = false ∧ Text.isBlank c = false) :=
    List.decidableBAll _ name
  inferInstanceAs (Decidable (_ ∧ _))

/-- A text that spells one item without a fraction. -/
inductive Spells : List Char → Item → Prop where
  | plain (number : Nat) (fits : number < 18446744073709551616)
      (named : TimeUnit.ofName? name = some unit) (written : IsWritten name) :
      Spells (Nat.toDigits 10 number ++ name) ⟨number, none, unit⟩

theorem le_ofDigitChars (run : List Char) (number : Nat) : number ≤ Nat.ofDigitChars 10 run number := by
  induction run generalizing number with
  | nil => exact Nat.le_refl _
  | cons c run ih =>
    have later := ih (10 * number + (c.toNat - '0'.toNat))
    rw [Nat.ofDigitChars_cons]
    omega

/-- Digits go on with the number before them. -/
theorem items?_digits (run : List Char) (digits : ∀ c ∈ run, c.isDigit = true) {number : Nat}
    (fits : Nat.ofDigitChars 10 run number < 18446744073709551616) (rest : List Char) :
    items? (.whole number) (run ++ rest) = items? (.whole (Nat.ofDigitChars 10 run number)) rest := by
  induction run generalizing number with
  | nil => rfl
  | cons c run ih =>
    have digit : digit? c = some (c.toNat - '0'.toNat) := by
      simp [digit?, digits c List.mem_cons_self]
    rw [Nat.ofDigitChars_cons] at fits ⊢
    have small : word? (number * 10 + (c.toNat - '0'.toNat)) =
        some (10 * number + (c.toNat - '0'.toNat)) := by
      have below := le_ofDigitChars run (10 * number + (c.toNat - '0'.toNat))
      rw [Nat.mul_comm number 10, word?, if_pos (Nat.lt_of_le_of_lt below fits)]
    rw [List.cons_append, items?]
    simp only [digit, small]
    exact ih (fun c member => digits c (List.mem_cons_of_mem _ member)) fits

/-- Letters go on with the name before them. -/
theorem items?_letters (name : List Char)
    (written : ∀ c ∈ name, isUnitLetter c = true ∧ c.isDigit = false ∧ Text.isBlank c = false)
    (number : Nat) (letters rest : List Char) :
    items? (.unit number none letters) (name ++ rest) =
      items? (.unit number none (name.reverse ++ letters)) rest := by
  induction name generalizing letters with
  | nil => rfl
  | cons c name ih =>
    obtain ⟨letter, digit, blank⟩ := written c List.mem_cons_self
    have later := ih (fun c member => written c (List.mem_cons_of_mem _ member)) (c :: letters)
    rw [List.cons_append, items?]
    simp only [digit?, digit, blank, letter, Bool.false_eq_true, ↓reduceIte, later]
    simp

/-- A number and its unit bring the reader to the end of the unit's name. -/
theorem items?_item {name : List Char} (written : IsWritten name) (number : Nat)
    (fits : number < 18446744073709551616) (rest : List Char) :
    items? .gap (Nat.toDigits 10 number ++ name ++ rest) =
      items? (.unit number none name.reverse) rest := by
  obtain ⟨some_letter, letters⟩ := written
  obtain ⟨first, others, name_eq⟩ := List.exists_cons_of_ne_nil some_letter
  have digits : ∀ c ∈ Nat.toDigits 10 number, c.isDigit = true :=
    fun c member => Nat.isDigit_of_mem_toDigits (by decide) (by decide) member
  have value : Nat.ofDigitChars 10 (Nat.toDigits 10 number) 0 = number :=
    Nat.ofDigitChars_toDigits (by decide) (by decide)
  -- The first digit opens the number, and the first letter closes it.
  obtain ⟨digit, run, run_eq⟩ := List.exists_cons_of_ne_nil (Nat.toDigits_ne_nil (n := number) (b := 10))
  rw [run_eq] at digits value
  rw [Nat.ofDigitChars_cons] at value
  have opens : digit? digit = some (digit.toNat - '0'.toNat) := by
    simp [digit?, digits digit List.mem_cons_self]
  obtain ⟨letter, number_over, blank⟩ := letters first (by simp [name_eq])
  have small : Nat.ofDigitChars 10 run (10 * 0 + (digit.toNat - '0'.toNat)) < 18446744073709551616 := by
    rw [value]
    exact fits
  have onward := items?_digits run (fun c member => digits c (List.mem_cons_of_mem _ member)) small
    (name ++ rest)
  rw [value, Nat.mul_zero, Nat.zero_add] at onward
  rw [run_eq, List.append_assoc, List.cons_append, items?]
  simp only [opens, onward]
  subst name_eq
  rw [List.cons_append, items?]
  simp only [digit?, number_over, blank, letter, Bool.false_eq_true, ↓reduceIte]
  rw [items?_letters others (fun c member => letters c (List.mem_cons_of_mem _ member))]
  simp

theorem Spells.alone {text : List Char} {item : Item} (spells : Spells text item) :
    items? .gap text = some [item] := by
  obtain ⟨number, fits, named, written⟩ := spells
  have read := items?_item written number fits []
  rw [List.append_nil] at read
  rw [read, items?, finish?, List.reverse_reverse, named]
  rfl

theorem Spells.before {text : List Char} {item : Item} (spells : Spells text item) (rest : List Char) :
    items? .gap (text ++ ' ' :: rest) = (items? .gap rest).map (item :: ·) := by
  obtain ⟨number, fits, named, written⟩ := spells
  have space : digit? ' ' = none := by decide
  have blank : Text.isBlank ' ' = true := by decide
  rw [items?_item written number fits, items?]
  simp only [space, blank, ↓reduceIte, finish?, List.reverse_reverse, named, Option.map_some]
  cases items? .gap rest <;> rfl

/-- The reader finds the items of a text with single spaces between them. -/
theorem items?_intercalate {texts : List (List Char)} {items : List Item}
    (spells : List.Forall₂ Spells texts items) :
    items? .gap ([' '].intercalate texts) = some items := by
  induction spells with
  | nil => rfl
  | @cons text item texts items spelled others ih =>
    cases others with
    | nil => simpa [List.intercalate] using spelled.alone
    | @cons next later texts items _ _ =>
      have joined : [' '].intercalate (text :: next :: texts) =
          text ++ ' ' :: [' '].intercalate (next :: texts) := by
        simp [List.intercalate]
      rw [joined, spelled.before, ih]
      rfl

/-! ## Adding items -/

/-- The length of an item without its fraction, in nanoseconds. -/
def Item.nanos (item : Item) : Nat :=
  item.whole * (item.unit.secs * 1000000000 + item.unit.subsecNanos)

/-- An item can be added as it is if the sum is in range and the item has less than a second beyond
its whole seconds. -/
theorem addItem?_plain {span : Duration} {item : Item} (plain : item.fraction = none)
    (short : item.whole * item.unit.subsecNanos < 1000000000)
    (fits : span.nanos + item.nanos < 18446744073709551616000000000) :
    addItem? span item = some ⟨span.nanos + item.nanos, fits⟩ := by
  have whole : item.nanos =
      item.whole * item.unit.secs * 1000000000 + item.whole * item.unit.subsecNanos := by
    rw [Item.nanos, Nat.mul_add, Nat.mul_assoc]
  have split := span.nanos_eq_secs_add_subsec
  have below : span.subsecNanos < 1000000000 := Nat.mod_lt _ (by decide)
  have total : ofNanos? ((span.secs + item.whole * item.unit.secs) * 1000000000 +
      (span.subsecNanos + item.whole * item.unit.subsecNanos)) =
        some ⟨span.nanos + item.nanos, fits⟩ := by
    rw [ofNanos?_eq_some_iff]
    dsimp only
    omega
  have added : addWhole? span item = some ⟨span.nanos + item.nanos, fits⟩ := by
    simp only [addWhole?, add?, word?, bind, Option.bind]
    rw [if_pos (by omega), if_pos (by omega)]
    dsimp only
    rw [if_pos (by omega)]
    exact total
  simp [addItem?, added, plain]

/-- Items can be added one after the other if their sum is in range. -/
theorem foldlM_addItem? {items : List Item} (plain : ∀ item ∈ items, item.fraction = none)
    (short : ∀ item ∈ items, item.whole * item.unit.subsecNanos < 1000000000) {span : Duration}
    (fits : span.nanos + (items.map Item.nanos).sum < 18446744073709551616000000000) :
    items.foldlM addItem? span = some ⟨span.nanos + (items.map Item.nanos).sum, fits⟩ := by
  induction items generalizing span with
  | nil => rfl
  | cons item items ih =>
    rw [List.map_cons, List.sum_cons, ← Nat.add_assoc] at fits
    have inRange : span.nanos + item.nanos < 18446744073709551616000000000 := by omega
    have first := addItem?_plain (plain item List.mem_cons_self) (short item List.mem_cons_self) inRange
    rw [List.foldlM_cons, first]
    simp only [Option.bind_eq_bind, Option.bind_some]
    rw [ih (fun item member => plain item (List.mem_cons_of_mem _ member))
      (fun item member => short item (List.mem_cons_of_mem _ member)) fits]
    simp [Nat.add_assoc]

/-! ## The items of a span -/

/-- An item, unless it is zero. -/
def part (unit : TimeUnit) (amount : Nat) : List Item :=
  if amount = 0 then [] else [⟨amount, none, unit⟩]

/-- The items that a span is spelled with. -/
def parts (span : Duration) : List Item :=
  let inYear := span.secs % 31557600
  let inMonth := inYear % 2630016
  let inDay := inMonth % 86400
  part .year (span.secs / 31557600)
    ++ part .month (inYear / 2630016)
    ++ part .day (inMonth / 86400)
    ++ part .hour (inDay / 3600)
    ++ part .minute (inDay % 3600 / 60)
    ++ part .second (inDay % 60)
    ++ part .millisecond (span.subsecNanos / 1000000)
    ++ part .microsecond (span.subsecNanos / 1000 % 1000)
    ++ part .nanosecond (span.subsecNanos % 1000)

theorem shortItem_spells {name : List Char} {unit : TimeUnit} {amount : Nat}
    (named : TimeUnit.ofName? name = some unit) (written : IsWritten name)
    (fits : amount < 18446744073709551616) :
    List.Forall₂ Spells (shortItem name amount) (part unit amount) := by
  unfold shortItem part
  by_cases zero : amount = 0
  · simp [zero]
  · rw [if_neg zero, if_neg zero]
    exact .cons (.plain amount fits named written) .nil

theorem countedItem_spells {name : List Char} {unit : TimeUnit} {amount : Nat}
    (one : TimeUnit.ofName? name = some unit) (many : TimeUnit.ofName? (name ++ ['s']) = some unit)
    (written : IsWritten name) (plural : IsWritten (name ++ ['s']))
    (fits : amount < 18446744073709551616) :
    List.Forall₂ Spells (countedItem name amount) (part unit amount) := by
  unfold countedItem part
  by_cases zero : amount = 0
  · simp [zero]
  · rw [if_neg zero, if_neg zero]
    by_cases single : amount = 1
    · rw [if_pos single]
      exact .cons (.plain amount fits one written) .nil
    · rw [if_neg single, List.append_assoc]
      exact .cons (.plain amount fits many plural) .nil

/-- A span is spelled by its items. -/
theorem spelledItems_spells (span : Duration) : List.Forall₂ Spells (spelledItems span) (parts span) := by
  have bound := span.bounded
  unfold spelledItems parts
  dsimp only
  refine List.rel_append (List.rel_append (List.rel_append (List.rel_append (List.rel_append
    (List.rel_append (List.rel_append (List.rel_append ?years ?months) ?days) ?hours) ?minutes)
    ?seconds) ?millis) ?micros) ?nanos
  case years =>
    apply countedItem_spells (by decide) (by decide) (by decide) (by decide)
    unfold secs
    omega
  case months | days =>
    apply countedItem_spells (by decide) (by decide) (by decide) (by decide)
    omega
  case hours | minutes | seconds =>
    apply shortItem_spells (by decide) (by decide)
    omega
  case millis | micros | nanos =>
    apply shortItem_spells (by decide) (by decide)
    unfold subsecNanos
    omega

theorem sum_part (unit : TimeUnit) (amount : Nat) :
    ((part unit amount).map Item.nanos).sum = amount * (unit.secs * 1000000000 + unit.subsecNanos) := by
  unfold part
  by_cases zero : amount = 0
  · rw [if_pos zero, zero, Nat.zero_mul]
    rfl
  · rw [if_neg zero, List.map_singleton, List.sum_singleton, Item.nanos]

/-- The items of a span add up to it. -/
theorem sum_parts (span : Duration) : ((parts span).map Item.nanos).sum = span.nanos := by
  have split := span.nanos_eq_secs_add_subsec
  simp only [parts, List.map_append, List.sum_append, sum_part, TimeUnit.secs, TimeUnit.subsecNanos]
  omega

/-- No item of a span has a fraction, and those below a second stay below it. -/
theorem parts_plain (span : Duration) :
    ∀ item ∈ parts span,
      item.fraction = none ∧ item.whole * item.unit.subsecNanos < 1000000000 := by
  have within (unit : TimeUnit) (amount : Nat) (small : amount * unit.subsecNanos < 1000000000) :
      ∀ item ∈ part unit amount,
        item.fraction = none ∧ item.whole * item.unit.subsecNanos < 1000000000 := by
    intro item member
    unfold part at member
    split at member
    · cases member
    · rw [List.mem_singleton] at member
      subst member
      exact ⟨rfl, small⟩
  have below : span.subsecNanos < 1000000000 := Nat.mod_lt _ (by decide)
  unfold parts
  dsimp only
  simp only [List.forall_mem_append]
  refine ⟨⟨⟨⟨⟨⟨⟨⟨?_, ?_⟩, ?_⟩, ?_⟩, ?_⟩, ?_⟩, ?_⟩, ?_⟩, ?_⟩ <;> apply within <;>
    simp only [TimeUnit.subsecNanos] <;> omega

/-- The sum of the items of a span is the span, and it is in range on the way. -/
theorem sum?_parts (span : Duration) : sum? (parts span) = some span := by
  have plain := parts_plain span
  have total : zero.nanos + ((parts span).map Item.nanos).sum = span.nanos := by
    rw [sum_parts]
    exact Nat.zero_add _
  have fits := span.bounded
  rw [← total] at fits
  rw [sum?, foldlM_addItem? (fun item member => (plain item member).1)
    (fun item member => (plain item member).2) fits]
  obtain ⟨nanos, bounded⟩ := span
  simpa using total

/-- A span is read back from its spelled form. -/
theorem ofString?_spell (span : Duration) : ofString? span.spell = some span := by
  have spells := spelledItems_spells span
  have read := items?_intercalate spells
  have sum := sum?_parts span
  unfold spell
  split
  · -- Without items the sum is zero, which has a form of its own.
    rename_i nothing
    rw [nothing] at spells
    rw [List.forall₂_nil_left_iff.mp spells] at sum
    have empty : zero = span := Option.some.inj sum
    rw [← empty]
    decide
  · rename_i something
    cases items : parts span with
    | nil =>
      rw [items] at spells
      exact absurd (List.forall₂_nil_right_iff.mp spells) something
    | cons item items' =>
      rw [items] at read sum
      have other : [' '].intercalate (spelledItems span) ≠ ['0'] := by
        intro same
        rw [same] at read
        cases read
      rw [ofString?, String.toList_ofList, read?, if_neg other, read]
      exact sum

end Leasehold.Duration
