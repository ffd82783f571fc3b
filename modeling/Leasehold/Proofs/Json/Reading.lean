import Leasehold.Json.Reader

/-! The parts of JSON texts that have no parts themselves. Each reader of such a part gives the part and what
follows it, so that the laws of the parts hold in any context; only a number has to end where its context
goes on (`Apart`). -/
namespace Leasehold.Json

open Text (Symbol symbolsOf)

variable {rest : List Symbol}

/-! ## Numbers -/

/-- What follows a number does not go on with it. -/
def Apart : List Symbol → Prop
  | some c :: _ => c.isDigit = false ∧ c ≠ '.' ∧ c ≠ 'e' ∧ c ≠ 'E'
  | _ => True

/-- A run of at least one digit. -/
def IsRun (run : List Char) : Prop := run ≠ [] ∧ ∀ c ∈ run, c.isDigit = true

/-- The fraction of a number, which may be missing. -/
inductive IsFraction : List Char → Prop where
  | absent : IsFraction []
  | present {run : List Char} (whole : IsRun run) : IsFraction ('.' :: run)

/-- The exponent of a number, which may be missing. -/
inductive IsExponent : List Char → Prop where
  | absent : IsExponent []
  | present {c : Char} {sign run : List Char} (letter : c = 'e' ∨ c = 'E')
      (signed : sign = [] ∨ sign = ['+'] ∨ sign = ['-']) (whole : IsRun run) :
      IsExponent (c :: (sign ++ run))

/-- A number whose tail is a fraction and an exponent. -/
def Number.IsSpelled (value : Number) : Prop :=
  ∃ fraction exponent, value.tail = fraction ++ exponent ∧ IsFraction fraction ∧ IsExponent exponent

theorem digits_append {run : List Char} (all : ∀ c ∈ run, c.isDigit = true)
    (ends : ∀ c later, rest = some c :: later → c.isDigit = false) :
    digits (run.map some ++ rest) = (run, rest) := by
  induction run with
  | nil =>
    match rest with
    | [] => rfl
    | none :: _ => rfl
    | some c :: later =>
      rw [List.map_nil, List.nil_append, digits, if_neg]
      rw [ends c later rfl]
      exact Bool.false_ne_true
  | cons c run ih =>
    have later := ih fun c member => all c (List.mem_cons_of_mem _ member)
    rw [List.map_cons, List.cons_append, digits, if_pos (all c List.mem_cons_self), later]

theorem Apart.ends (apart : Apart rest) : ∀ c later, rest = some c :: later → c.isDigit = false := by
  rintro c later rfl
  exact apart.1

/-- An exponent is read back. -/
theorem exponent?_append {exponent : List Char} (spelled : IsExponent exponent) (apart : Apart rest) :
    exponent? (exponent.map some ++ rest) = some (exponent, rest) := by
  cases spelled with
  | absent =>
    match rest, apart with
    | [], _ => rfl
    | none :: _, _ => rfl
    | some c :: later, apart =>
      obtain ⟨-, -, small, large⟩ := apart
      rw [List.map_nil, List.nil_append, exponent?, if_neg (not_or.mpr ⟨small, large⟩)]
  | @present c sign run letter signed whole =>
    obtain ⟨nonempty, all⟩ := whole
    have found : digits (run.map Option.some ++ rest) = (run, rest) := digits_append all apart.ends
    obtain ⟨first, others, rfl⟩ := List.exists_cons_of_ne_nil nonempty
    have split : exponentSign (sign.map Option.some ++ ((first :: others).map Option.some ++ rest)) =
        (sign, (first :: others).map Option.some ++ rest) := by
      rcases signed with rfl | rfl | rfl
      · have digit := all first List.mem_cons_self
        rw [List.map_nil, List.nil_append, List.map_cons, List.cons_append, exponentSign, if_neg]
        rintro (rfl | rfl) <;> cases digit
      · rfl
      · rfl
    rw [List.map_cons, List.map_append, List.cons_append, List.append_assoc, exponent?,
      if_pos letter, split]
    simp only [found, List.cons_append]

/-- What follows a fraction does not go on with it. -/
theorem exponent_ends {exponent : List Char} (spelled : IsExponent exponent) (apart : Apart rest) :
    ∀ c later, exponent.map some ++ rest = some c :: later → c.isDigit = false ∧ c ≠ '.' := by
  intro c later same
  cases spelled with
  | absent =>
    rw [List.map_nil, List.nil_append] at same
    subst same
    exact ⟨apart.1, apart.2.1⟩
  | present letter =>
    simp only [List.cons_append, List.map_cons, List.cons.injEq, Option.some.injEq] at same
    obtain ⟨rfl, -⟩ := same
    rcases letter with rfl | rfl <;> decide

/-- A fraction is read back. -/
theorem fraction?_append {fraction : List Char} (spelled : IsFraction fraction)
    (ends : ∀ c later, rest = some c :: later → c.isDigit = false ∧ c ≠ '.') :
    fraction? (fraction.map some ++ rest) = some (fraction, rest) := by
  cases spelled with
  | absent =>
    match rest with
    | [] => rfl
    | none :: _ => rfl
    | some c :: later => rw [List.map_nil, List.nil_append, fraction?, if_neg (ends c later rfl).2]
  | @present run whole =>
    obtain ⟨nonempty, all⟩ := whole
    have found : digits (run.map Option.some ++ rest) = (run, rest) :=
      digits_append all fun c later same => (ends c later same).1
    obtain ⟨first, others, rfl⟩ := List.exists_cons_of_ne_nil nonempty
    rw [List.map_cons, List.cons_append, fraction?, if_pos rfl]
    simp only [found]

theorem toDigits_begins (number : Nat) :
    ∃ first others, Nat.toDigits 10 number = first :: others ∧ first.isDigit = true := by
  obtain ⟨first, others, written⟩ := List.exists_cons_of_ne_nil
    (Nat.toDigits_ne_nil : Nat.toDigits 10 number ≠ [])
  exact ⟨first, others, written,
    Nat.isDigit_of_mem_toDigits (by decide) (by decide) (written ▸ List.mem_cons_self)⟩

/-- Only zero begins with a zero. -/
theorem head?_toDigits {number : Nat} (zero : (Nat.toDigits 10 number).head? = some '0') : number = 0 := by
  induction number using Nat.strongRecOn with
  | _ number ih =>
    by_cases small : number < 10
    · rw [Nat.toDigits_of_lt_base small] at zero
      have digit : ∀ value < 10, Nat.digitChar value = '0' → value = 0 := by decide
      exact digit number small (by simpa using zero)
    · have later : (Nat.toDigits 10 (number / 10)).head? = some '0' := by
        obtain ⟨first, others, written, -⟩ := toDigits_begins (number / 10)
        rw [Nat.toDigits_of_base_le (by decide) (by omega), written] at zero
        rw [written]
        exact zero
      have less := ih (number / 10) (by omega) later
      omega

theorem decimalValue_toDigits (number : Nat) : decimalValue (Nat.toDigits 10 number) = number := by
  calc decimalValue (Nat.toDigits 10 number)
      = Nat.ofDigitChars 10 (Nat.toDigits 10 number) 0 := by
        simp only [decimalValue, Nat.ofDigitChars, Nat.mul_comm]
    _ = number := Nat.ofDigitChars_toDigits (by decide) (by decide)

/-- A number is read back after its sign. -/
theorem number?_append {value : Number} (spelled : value.IsSpelled) (apart : Apart rest) :
    number? value.negative ((Nat.toDigits 10 value.whole ++ value.tail).map some ++ rest) =
      some (value, rest) := by
  obtain ⟨negative, whole, tail⟩ := value
  obtain ⟨fraction, exponent, rfl, isFraction, isExponent⟩ := spelled
  have ends := exponent_ends isExponent apart
  have tail := fraction?_append isFraction ends
  have run : digits ((Nat.toDigits 10 whole).map some ++
      (fraction.map some ++ (exponent.map some ++ rest))) =
        (Nat.toDigits 10 whole, fraction.map some ++ (exponent.map some ++ rest)) := by
    apply digits_append fun c member => Nat.isDigit_of_mem_toDigits (by decide) (by decide) member
    intro c later same
    cases isFraction with
    | absent => exact (ends c later same).1
    | present => cases same; rfl
  have proper : ((Nat.toDigits 10 whole).isEmpty ||
      ((Nat.toDigits 10 whole).head? == some '0' && (Nat.toDigits 10 whole).length != 1)) = false := by
    rw [Bool.or_eq_false_iff, List.isEmpty_eq_false_iff]
    refine ⟨Nat.toDigits_ne_nil, ?_⟩
    by_cases zero : (Nat.toDigits 10 whole).head? = some '0'
    · rw [head?_toDigits zero]
      decide
    · simp [zero]
  simp only [List.map_append, List.append_assoc, number?, run, proper, Bool.false_eq_true, ↓reduceIte,
    tail, exponent?_append isExponent apart, Option.bind_eq_bind, Option.bind_some,
    decimalValue_toDigits]

/-! ## Values -/

/-- A value whose numbers are spelled as numbers are. -/
inductive IsSpelled : Json → Prop where
  | null : IsSpelled .null
  | bool (value : Bool) : IsSpelled (.bool value)
  | number {value : Number} (spelled : value.IsSpelled) : IsSpelled (.number value)
  | string (text : Option String) : IsSpelled (.string text)
  | array {items : List Json} (each : ∀ item ∈ items, IsSpelled item) : IsSpelled (.array items)
  | object {members : List (Option String × Json)} (each : ∀ member ∈ members, IsSpelled member.2) :
      IsSpelled (.object members)

theorem isSpelled_record {members : List (String × Json)}
    (each : ∀ member ∈ members, member.2.IsSpelled) : (record members).IsSpelled := by
  apply IsSpelled.object
  intro member isMember
  obtain ⟨named, isNamed, rfl⟩ := List.mem_map.mp isMember
  exact each named isNamed

theorem isSpelled_nat (value : Nat) : (nat value).IsSpelled :=
  .number ⟨[], [], rfl, .absent, .absent⟩

theorem isSpace_digit {c : Char} (digit : c.isDigit = true) : isSpace c = false := by
  rw [isSpace, Bool.eq_false_iff]
  intro space
  simp only [Bool.or_eq_true, beq_iff_eq] at space
  rcases space with ((rfl | rfl) | rfl) | rfl <;> cases digit

/-- A number begins with a character that neither stands between values nor ends a list of them. -/
theorem number_begins (value : Number) :
    ∃ first others, value.chars = first :: others ∧ isSpace first = false ∧ first ≠ ']' := by
  obtain ⟨negative, whole, tail⟩ := value
  cases negative with
  | true => exact ⟨'-', _, rfl, rfl, by decide⟩
  | false =>
    obtain ⟨first, others, written, digit⟩ := toDigits_begins whole
    refine ⟨first, others ++ tail, ?_, isSpace_digit digit, ?_⟩
    · rw [Number.chars, written]
      rfl
    · rintro rfl
      cases digit

/-- A value is read back in front of what does not go on with it. -/
def ReadsBack (json : Json) : Prop :=
  ∀ rest fuel, Apart rest → json.chars.length ≤ fuel →
    value? fuel (json.chars.map some ++ rest) = some (json, rest)

theorem next?_cons {c : Char} (space : isSpace c = false) : next? c (some c :: rest) = some rest := by
  simp [next?, skip, space, expect?]

theorem next?_other {c d : Char} (space : isSpace d = false) (other : c ≠ d) :
    next? c (some d :: rest) = none := by
  simp [next?, skip, space, expect?, other]

/-- A value without parts is read back after its first character. -/
theorem value?_scalar {json : Json} {first : Char} {others : List Char} (written : json.chars = first :: others)
    (space : isSpace first = false) (object : first ≠ '\x7b') (array : first ≠ '[')
    (read : ∀ rest, Apart rest → scalar? first (others.map some ++ rest) = some (json, rest)) :
    json.ReadsBack := by
  intro rest fuel apart enough
  rw [written, List.length_cons] at enough
  obtain ⟨fuel, rfl⟩ : ∃ less, fuel = less + 1 := ⟨fuel - 1, by omega⟩
  rw [written, List.map_cons, List.cons_append, value?, skip, if_neg (by rw [space]; exact Bool.false_ne_true)]
  simp only [if_neg object, if_neg array]
  exact read rest apart

theorem ne_of_isDigit {c d : Char} (digit : c.isDigit = true) (other : d.isDigit = false) : c ≠ d := by
  rintro rfl
  rw [digit] at other
  cases other

/-- A number without a sign is known by its first digit. -/
theorem scalar?_digit {first : Char} (digit : first.isDigit = true) (input : List Symbol) :
    scalar? first input =
      (number? false (some first :: input)).map fun (value, rest) => (.number value, rest) := by
  have other {c : Char} : c.isDigit = false → first ≠ c := ne_of_isDigit digit
  rw [scalar?, if_neg (other rfl), if_neg (other rfl), if_neg (other rfl), if_neg (other rfl),
    if_neg (other rfl)]

theorem readsBack_number {value : Number} (spelled : value.IsSpelled) : (number value).ReadsBack := by
  obtain ⟨negative, whole, tail⟩ := value
  cases negative with
  | true =>
    have begins : (number ⟨true, whole, tail⟩).chars = '-' :: (Nat.toDigits 10 whole ++ tail) := rfl
    apply value?_scalar begins rfl (by decide) (by decide)
    intro rest apart
    have read := number?_append spelled apart
    simp only at read
    simp only [scalar?, Char.reduceEq, ↓reduceIte, read, Option.map_some]
  | false =>
    obtain ⟨first, others, written, digit⟩ := toDigits_begins whole
    have other {c : Char} : c.isDigit = false → first ≠ c := ne_of_isDigit digit
    have begins : (number ⟨false, whole, tail⟩).chars = first :: (others ++ tail) := by
      rw [chars, Number.chars, written]
      rfl
    apply value?_scalar begins (isSpace_digit digit) (other rfl) (other rfl)
    intro rest apart
    have read := number?_append spelled apart
    rw [written] at read
    rw [scalar?_digit digit]
    simp only [List.cons_append, List.map_cons] at read
    rw [read, Option.map_some]

theorem readsBack_null : null.ReadsBack := by
  apply value?_scalar rfl rfl (by decide) (by decide)
  intro rest _
  simp [scalar?, expect?]

theorem readsBack_bool (value : Bool) : (bool value).ReadsBack := by
  cases value <;>
  · apply value?_scalar rfl rfl (by decide) (by decide)
    intro rest _
    simp [scalar?, expect?]

end Leasehold.Json
