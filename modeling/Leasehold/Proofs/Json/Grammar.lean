import Mathlib.Data.List.Forall2
import Leasehold.Proofs.Json.Reading
import Leasehold.Proofs.Text.Utf8

/-! Every spelling of a JSON value is read as the value. `Spells` is the grammar: blanks may stand around each
value and each name, and a character of a string may stand for itself, or be escaped by a letter or by the
codes of its 16-bit units. A reader may leave blanks behind a value, which the reader of the next token skips,
so that a value and what follows it are tied by what is left after blanks (`Reads`). -/
namespace Leasehold.Json

open Text (Symbol symbolsOf)

/-! ## Spellings -/

/-- A part of a string literal: a character, or a 16-bit unit that is given by its code. -/
inductive Piece where
  | char (c : Char)
  | unit (code : Nat)

/-- The characters that some parts of a literal stand for. Two surrogates in a row that make a pair stand
for one character, and no other surrogate stands for anything. -/
def textOf? : List Piece → Option (List Char)
  | [] => some []
  | .char c :: rest => (textOf? rest).map (c :: ·)
  | .unit high :: rest =>
    if 0xD800 ≤ high ∧ high < 0xDC00 then
      match rest with
      | .unit low :: rest =>
        if 0xDC00 ≤ low ∧ low < 0xE000 then
          (textOf? rest).map (Char.ofNat (0x10000 + (high - 0xD800) * 0x400 + (low - 0xDC00)) :: ·)
        else none
      | _ => none
    else if 0xDC00 ≤ high ∧ high < 0xE000 then none
    else (textOf? rest).map (Char.ofNat high :: ·)

/-- The letters that stand for characters after a backslash. -/
def escapes : List (Char × Char) :=
  [('"', '"'), ('\\', '\\'), ('/', '/'), ('b', '\x08'), ('f', '\x0C'), ('n', '\n'), ('r', '\r'),
    ('t', '\t')]

/-- A hexadecimal digit with its value, in either case. -/
def IsHex (value : Nat) (digit : Char) : Prop :=
  value < 16 ∧ (digit = Nat.digitChar value ∨ digit = (Nat.digitChar value).toUpper)

/-- The spellings of a part of a literal. -/
inductive Piece.Spells : Piece → List Char → Prop where
  | plain {c : Char} (unquoted : c ≠ '"') (unescaped : c ≠ '\\') (shown : ¬ c.toNat < 0x20) :
      Spells (.char c) [c]
  | escaped {letter c : Char} (named : (letter, c) ∈ escapes) : Spells (.char c) ['\\', letter]
  | coded {a b c d : Nat} {first second third fourth : Char} (hexA : IsHex a first) (hexB : IsHex b second)
      (hexC : IsHex c third) (hexD : IsHex d fourth) :
      Spells (.unit (a * 4096 + b * 256 + c * 16 + d)) ['\\', 'u', first, second, third, fourth]

/-- The spellings of a string. -/
def SpellsText (value : Option String) (text : List Char) : Prop :=
  ∃ pieces parts, List.Forall₂ Piece.Spells pieces parts ∧ value = (textOf? pieces).map String.ofList ∧
    text = '"' :: parts.flatten ++ ['"']

/-- Characters that may stand between tokens. -/
def IsBlank (text : List Char) : Prop := ∀ c ∈ text, isSpace c = true

/-- The spellings of the name of a member, with the blanks around it. -/
def SpellsName (name : Option String) (text : List Char) : Prop :=
  ∃ before inner after, IsBlank before ∧ IsBlank after ∧ SpellsText name inner ∧
    text = before ++ (inner ++ after)

/-- Texts with commas between them. -/
def joined : List (List Char) → List Char
  | [] => []
  | [text] => text
  | text :: texts => text ++ ',' :: joined texts

/-- The spellings of a value. -/
inductive Spells : Json → List Char → Prop where
  | null : Spells .null ['n', 'u', 'l', 'l']
  | true : Spells (.bool true) ['t', 'r', 'u', 'e']
  | false : Spells (.bool false) ['f', 'a', 'l', 's', 'e']
  | number {value : Number} (spelled : value.IsSpelled) : Spells (.number value) value.chars
  | string {value : Option String} {text : List Char} (spells : SpellsText value text) :
      Spells (.string value) text
  | emptyArray {blanks : List Char} (blank : IsBlank blanks) :
      Spells (.array []) ('[' :: blanks ++ [']'])
  | array {rows : List (Json × List Char)} (some : rows ≠ []) (each : ∀ row ∈ rows, Spells row.1 row.2) :
      Spells (.array (rows.map Prod.fst)) ('[' :: joined (rows.map Prod.snd) ++ [']'])
  | emptyObject {blanks : List Char} (blank : IsBlank blanks) :
      Spells (.object []) ('\x7b' :: blanks ++ ['\x7d'])
  | object {rows : List ((Option String × List Char) × Json × List Char)} (some : rows ≠ [])
      (names : ∀ row ∈ rows, SpellsName row.1.1 row.1.2)
      (each : ∀ row ∈ rows, Spells row.2.1 row.2.2) :
      Spells (.object (rows.map fun row => (row.1.1, row.2.1)))
        ('\x7b' :: joined (rows.map fun row => row.1.2 ++ ':' :: row.2.2) ++ ['\x7d'])
  | padded {value : Json} {before text after : List Char} (front : IsBlank before)
      (spells : Spells value text) (back : IsBlank after) : Spells value (before ++ text ++ after)

/-! ## String literals -/

section
variable {state : Partial} {rest : List Symbol} {part : List Char} {piece : Piece}

/-- The text of a literal after one more part. -/
def Partial.take (state : Partial) : Piece → Partial
  | .char c => state.push c
  | .unit code => state.pushUnit code

theorem hexDigit?_digitChar : ∀ value < 16, hexDigit? (Nat.digitChar value) = some value := by decide

theorem hexDigit?_isHex {value : Nat} {digit : Char} (hex : IsHex value digit) :
    hexDigit? digit = some value := by
  obtain ⟨small, rfl | rfl⟩ := hex
  · exact hexDigit?_digitChar value small
  · have upper : ∀ value < 16, hexDigit? (Nat.digitChar value).toUpper = some value := by decide
    exact upper value small

theorem escaped?_mem {letter c : Char} (named : (letter, c) ∈ escapes) :
    escaped? letter = some c ∧ letter ≠ 'u' := by
  have all : ∀ pair ∈ escapes, escaped? pair.1 = some pair.2 ∧ pair.1 ≠ 'u' := by decide
  exact all _ named

/-- A part of a literal is read. -/
theorem literal?_piece (spells : piece.Spells part) :
    literal? state (part.map some ++ rest) = literal? (state.take piece) rest := by
  cases spells with
  | plain unquoted unescaped shown =>
    rw [List.map_singleton, List.singleton_append, literal?.eq_def]
    simp only [if_neg unquoted, if_neg unescaped, if_neg shown, Partial.take]
  | escaped named =>
    obtain ⟨known, other⟩ := escaped?_mem named
    simp only [List.map_cons, List.map_nil, List.cons_append, List.nil_append]
    rw [literal?.eq_def]
    simp [other, known, Partial.take]
  | @coded a b c d first second third fourth hexA hexB hexC hexD =>
    have code : unit? (some first) (some second) (some third) (some fourth) =
        some (a * 4096 + b * 256 + c * 16 + d) := by
      simp only [unit?, Option.bind_some, Option.bind_eq_bind, hexDigit?_isHex hexA,
        hexDigit?_isHex hexB, hexDigit?_isHex hexC, hexDigit?_isHex hexD]
    simp only [List.map_cons, List.map_nil, List.cons_append, List.nil_append]
    rw [literal?.eq_def]
    simp [code, Partial.take]

theorem literal?_pieces {pieces : List Piece} {parts : List (List Char)}
    (spells : List.Forall₂ Piece.Spells pieces parts) :
    literal? state (parts.flatten.map some ++ rest) = literal? (pieces.foldl Partial.take state) rest := by
  induction spells generalizing state with
  | nil => rfl
  | cons first _ ih =>
    rw [List.flatten_cons, List.map_append, List.append_assoc, literal?_piece first, ih, List.foldl_cons]

theorem finish_broken (pieces : List Piece) : (pieces.foldl Partial.take .broken).finish = none := by
  induction pieces with
  | nil => rfl
  | cons piece pieces ih => cases piece <;> exact ih

theorem finish_grown (c : Char) (before : List Char) (found : Option (List Char)) :
    (found.map fun text => String.ofList ((c :: before).reverse ++ text)) =
      (found.map (c :: ·)).map fun text => String.ofList (before.reverse ++ text) := by
  rw [Option.map_map]
  congr 1
  funext text
  rw [List.reverse_cons, List.append_assoc, List.singleton_append]
  rfl

/-- The parts of a literal make up its text. -/
theorem finish_pieces (pieces : List Piece) : ∀ before,
    (pieces.foldl Partial.take (.good before)).finish =
      (textOf? pieces).map fun text => String.ofList (before.reverse ++ text) := by
  fun_induction textOf? pieces with
  | case1 => simp [Partial.finish]
  | case2 c rest ih =>
    intro before
    rw [← finish_grown]
    exact ih (c :: before)
  | case3 high isHigh low rest isLow ih =>
    intro before
    have pair : ((Partial.good before).take (.unit high)).take (.unit low) =
        .good (Char.ofNat (0x10000 + (high - 0xD800) * 0x400 + (low - 0xDC00)) :: before) := by
      simp only [Partial.take, Partial.pushUnit, if_pos isHigh, if_pos isLow]
    rw [← finish_grown, List.foldl_cons, List.foldl_cons, pair]
    exact ih _
  | case4 high isHigh low rest other =>
    intro before
    have alone : ((Partial.good before).take (.unit high)).take (.unit low) = .broken := by
      simp only [Partial.take, Partial.pushUnit, if_pos isHigh, if_neg other]
    rw [List.foldl_cons, List.foldl_cons, alone, finish_broken, Option.map_none]
  | case5 high rest isHigh noUnit =>
    intro before
    have waits : (Partial.good before).take (.unit high) = .high before high := by
      simp only [Partial.take, Partial.pushUnit, if_pos isHigh]
    rw [List.foldl_cons, waits, Option.map_none]
    cases rest with
    | nil => rfl
    | cons piece rest =>
      cases piece with
      | char c => exact finish_broken rest
      | unit low => exact (noUnit low rest rfl).elim
  | case6 high rest notHigh isLow =>
    intro before
    have alone : (Partial.good before).take (.unit high) = .broken := by
      simp only [Partial.take, Partial.pushUnit, if_neg notHigh, if_pos isLow]
    rw [List.foldl_cons, alone, finish_broken, Option.map_none]
  | case7 high rest notHigh notLow ih =>
    intro before
    have whole : (Partial.good before).take (.unit high) = .good (Char.ofNat high :: before) := by
      simp only [Partial.take, Partial.pushUnit, if_neg notHigh, if_neg notLow]
    rw [← finish_grown, List.foldl_cons, whole]
    exact ih _

theorem literal?_quote (before : Partial) :
    literal? before (some '"' :: rest) = some (before.finish, rest) := by
  rw [literal?.eq_def]
  simp

/-- A string is read after its opening quote. -/
theorem literal?_spelled {value : Option String} {text : List Char} (spells : SpellsText value text) :
    ∃ inner, text = '"' :: inner ∧
      ∀ rest, literal? (.good []) (inner.map some ++ rest) = some (value, rest) := by
  obtain ⟨pieces, parts, each, rfl, rfl⟩ := spells
  refine ⟨parts.flatten ++ ['"'], rfl, fun rest => ?_⟩
  rw [List.map_append, List.append_assoc, literal?_pieces each, List.map_singleton,
    List.singleton_append, literal?_quote, finish_pieces]
  rfl

end

/-! ## Blanks -/

section
variable {rest input : List Symbol} {blanks text : List Char} {c : Char} {json : Json}

theorem skip_blanks (blank : IsBlank blanks) : skip (blanks.map some ++ rest) = skip rest := by
  induction blanks with
  | nil => rfl
  | cons c blanks ih =>
    rw [List.map_cons, List.cons_append, skip, if_pos (blank c List.mem_cons_self)]
    exact ih fun d member => blank d (List.mem_cons_of_mem _ member)

theorem next?_blanks (blank : IsBlank blanks) : next? c (blanks.map some ++ rest) = next? c rest := by
  rw [next?, next?, skip_blanks blank]

theorem value?_blanks (blank : IsBlank blanks) (fuel : Nat) :
    value? fuel (blanks.map some ++ rest) = value? fuel rest := by
  cases fuel with
  | zero => rfl
  | succ fuel => rw [value?, value?, skip_blanks blank]

/-- What follows a value after blanks does not go on with it. -/
theorem apart_blanks (blank : IsBlank blanks) (apart : Apart rest) : Apart (blanks.map some ++ rest) := by
  cases blanks with
  | nil => exact apart
  | cons c blanks =>
    have space := blank c List.mem_cons_self
    simp only [isSpace, Bool.or_eq_true, beq_iff_eq] at space
    rcases space with ((rfl | rfl) | rfl) | rfl <;> exact ⟨rfl, by decide, by decide, by decide⟩

/-! ## Values -/

/-- A text is read as a value in front of what does not go on with it, and what is left after blanks is what
follows. -/
def Reads (json : Json) (text : List Char) : Prop :=
  ∀ rest fuel, Apart rest → text.length ≤ fuel →
    ∃ left, value? fuel (text.map some ++ rest) = some (json, left) ∧ skip left = skip rest

/-- A text begins, after blanks, with a character that does not end an array. -/
def Begins (text : List Char) : Prop :=
  ∃ first, isSpace first = false ∧ first ≠ ']' ∧
    ∀ rest, ∃ others, skip (text.map some ++ rest) = some first :: others

theorem reads_of_readsBack (reads : json.ReadsBack) : Reads json json.chars :=
  fun rest fuel apart enough => ⟨rest, reads rest fuel apart enough, rfl⟩

theorem begins_cons {first : Char} {others : List Char} (space : isSpace first = false)
    (other : first ≠ ']') : Begins (first :: others) := by
  refine ⟨first, space, other, fun rest => ⟨others.map some ++ rest, ?_⟩⟩
  rw [List.map_cons, List.cons_append, skip, if_neg (by rw [space]; exact Bool.false_ne_true)]

theorem Spells.begins (spells : Spells json text) : Begins text := by
  induction spells with
  | null | true | false | emptyArray | array | emptyObject | object =>
    exact begins_cons rfl (by decide)
  | string spells =>
    obtain ⟨inner, rfl, -⟩ := literal?_spelled spells
    exact begins_cons rfl (by decide)
  | @number value _ =>
    obtain ⟨first, others, written, space, other⟩ := number_begins value
    rw [written]
    exact begins_cons space other
  | padded front _ back ih =>
    obtain ⟨first, space, other, begins⟩ := ih
    refine ⟨first, space, other, fun rest => ?_⟩
    simp only [List.map_append, List.append_assoc, skip_blanks front]
    exact begins _

theorem next?_skipped {left more : List Symbol} (found : skip left = some c :: more) :
    next? c left = some more := by
  simp [next?, found, expect?]

theorem next?_unlike {d : Char} {left more : List Symbol} (found : skip left = some d :: more)
    (other : c ≠ d) : next? c left = none := by
  simp [next?, found, expect?, other]

/-- A mark after a value does not go on with it. -/
theorem apart_mark {mark : Char} (isMark : mark = ',' ∨ mark = ']' ∨ mark = '\x7d') :
    Apart (some mark :: rest) := by
  rcases isMark with rfl | rfl | rfl <;> exact ⟨rfl, by decide, by decide, by decide⟩

theorem joined_cons (first second : List Char) (texts : List (List Char)) :
    joined (first :: second :: texts) = first ++ ',' :: joined (second :: texts) := rfl

/-! ## Arrays -/

theorem items?_last {fuel : Nat} {left : List Symbol} {item : Json}
    (read : value? fuel input = some (item, left)) (ends : skip left = some ']' :: rest) :
    items? (fuel + 1) input = some ([item], rest) := by
  have apart : next? ',' left = none := next?_unlike ends (by decide)
  simp only [items?, read, apart, next?_skipped ends, Option.map_some]

theorem items?_more {fuel : Nat} {left more : List Symbol} {item : Json} {items : List Json}
    (read : value? fuel input = some (item, left)) (comma : skip left = some ',' :: more)
    (others : items? fuel more = some (items, rest)) :
    items? (fuel + 1) input = some (item :: items, rest) := by
  simp only [items?, read, next?_skipped comma, others, Option.map_some]

/-- The items of an array are read with its end. -/
theorem items?_joined {row : Json × List Char} {rows : List (Json × List Char)}
    (each : ∀ found ∈ row :: rows, Reads found.1 found.2) {fuel : Nat}
    (enough : (joined ((row :: rows).map Prod.snd)).length < fuel) :
    items? fuel ((joined ((row :: rows).map Prod.snd)).map some ++ some ']' :: rest) =
      some ((row :: rows).map Prod.fst, rest) := by
  induction rows generalizing row fuel with
  | nil =>
    obtain ⟨fuel, rfl⟩ : ∃ less, fuel = less + 1 := ⟨fuel - 1, by omega⟩
    obtain ⟨left, read, same⟩ := each row List.mem_cons_self (some ']' :: rest) fuel
      (apart_mark (.inr (.inl rfl))) (Nat.le_of_lt_succ enough)
    exact items?_last read same
  | cons next rows ih =>
    simp only [List.map_cons, joined_cons, List.length_append, List.length_cons] at enough
    obtain ⟨fuel, rfl⟩ : ∃ less, fuel = less + 1 := ⟨fuel - 1, by omega⟩
    obtain ⟨left, read, same⟩ := each row List.mem_cons_self
      (some ',' :: ((joined ((next :: rows).map Prod.snd)).map some ++ some ']' :: rest)) fuel
      (apart_mark (.inl rfl)) (by omega)
    have others := ih (fun found member => each found (List.mem_cons_of_mem _ member))
      (show _ < fuel by rw [List.map_cons]; omega)
    simp only [List.map_cons, joined_cons, List.map_append, List.append_assoc, List.cons_append]
      at read same others ⊢
    exact items?_more read same others

theorem reads_array {row : Json × List Char} {rows : List (Json × List Char)}
    (each : ∀ found ∈ row :: rows, Reads found.1 found.2) (begins : Begins row.2) :
    Reads (.array ((row :: rows).map Prod.fst)) ('[' :: joined ((row :: rows).map Prod.snd) ++ [']']) := by
  intro rest fuel apart enough
  rw [List.cons_append, List.length_cons, List.length_append, List.length_singleton] at enough
  obtain ⟨fuel, rfl⟩ : ∃ less, fuel = less + 1 := ⟨fuel - 1, by omega⟩
  have read : items? fuel ((joined ((row :: rows).map Prod.snd)).map some ++ some ']' :: rest) =
      some ((row :: rows).map Prod.fst, rest) := items?_joined each (by omega)
  have begun : next? ']' ((joined ((row :: rows).map Prod.snd)).map some ++ some ']' :: rest) = none := by
    obtain ⟨first, space, other, begins⟩ := begins
    cases rows with
    | nil =>
      obtain ⟨others, found⟩ := begins (some ']' :: rest)
      exact next?_unlike found other.symm
    | cons next rows =>
      obtain ⟨others, found⟩ := begins
        (some ',' :: ((joined ((next :: rows).map Prod.snd)).map some ++ some ']' :: rest))
      simp only [List.map_cons, joined_cons, List.map_append, List.append_assoc, List.cons_append]
        at found ⊢
      exact next?_unlike found other.symm
  refine ⟨rest, ?_, rfl⟩
  simp only [List.cons_append, List.map_cons, List.map_append, List.append_assoc, List.map_nil,
    List.nil_append] at read begun ⊢
  simp only [value?, skip, isSpace, Char.reduceBEq, Bool.or_self, Bool.false_eq_true, ↓reduceIte,
    Char.reduceEq, begun, read, Option.map_some]

theorem reads_emptyArray {blanks : List Char} (blank : IsBlank blanks) :
    Reads (.array []) ('[' :: blanks ++ [']']) := by
  intro rest fuel apart enough
  rw [List.cons_append, List.length_cons] at enough
  obtain ⟨fuel, rfl⟩ : ∃ less, fuel = less + 1 := ⟨fuel - 1, by omega⟩
  have ends : next? ']' (blanks.map some ++ some ']' :: rest) = some rest :=
    (next?_blanks blank).trans (next?_cons rfl)
  refine ⟨rest, ?_, rfl⟩
  simp only [List.cons_append, List.map_cons, List.map_append, List.append_assoc, List.map_nil,
    List.nil_append]
  simp only [value?, skip, isSpace, Char.reduceBEq, Bool.or_self, Bool.false_eq_true, ↓reduceIte,
    Char.reduceEq, ends]

/-! ## Objects -/

/-- A member is read up to what its value leaves. -/
theorem members?_named {name : Option String} {value : Json} {fuel : Nat} {left : List Symbol}
    (spells : SpellsName name text) (read : value? fuel input = some (value, left)) :
    members? (fuel + 1) (text.map some ++ some ':' :: input) =
      (next? ',' left).elim ((next? '\x7d' left).map ([(name, value)], ·)) fun more =>
        (members? fuel more).map fun (members, rest) => ((name, value) :: members, rest) := by
  obtain ⟨before, literal, after, front, back, spells, rfl⟩ := spells
  obtain ⟨inner, rfl, named⟩ := literal?_spelled spells
  have opens (rest : List Symbol) : next? '"' (before.map some ++ some '"' :: rest) = some rest :=
    (next?_blanks front).trans (next?_cons rfl)
  have colon : next? ':' (after.map some ++ some ':' :: input) = some input :=
    (next?_blanks back).trans (next?_cons rfl)
  simp only [List.map_append, List.map_cons, List.append_assoc, List.cons_append, members?, opens,
    Option.bind_eq_bind, Option.bind_some, named, colon, read]
  cases next? ',' left <;> rfl

/-- The members of an object are read with its end. -/
theorem members?_joined {row : (Option String × List Char) × Json × List Char}
    {rows : List ((Option String × List Char) × Json × List Char)}
    (names : ∀ found ∈ row :: rows, SpellsName found.1.1 found.1.2)
    (each : ∀ found ∈ row :: rows, Reads found.2.1 found.2.2) {fuel : Nat}
    (enough : (joined ((row :: rows).map fun row => row.1.2 ++ ':' :: row.2.2)).length < fuel) :
    members? fuel ((joined ((row :: rows).map fun row => row.1.2 ++ ':' :: row.2.2)).map some ++
      some '\x7d' :: rest) = some ((row :: rows).map fun row => (row.1.1, row.2.1), rest) := by
  induction rows generalizing row fuel with
  | nil =>
    simp only [List.map_cons, List.map_nil, joined, List.length_append, List.length_cons] at enough
    obtain ⟨fuel, rfl⟩ : ∃ less, fuel = less + 1 := ⟨fuel - 1, by omega⟩
    obtain ⟨left, read, same⟩ := each row List.mem_cons_self (some '\x7d' :: rest) fuel
      (apart_mark (.inr (.inr rfl))) (by omega)
    have ends : skip left = some '\x7d' :: rest := same
    have apart : next? ',' left = none := next?_unlike ends (by decide)
    have first := members?_named (names row List.mem_cons_self) read
    rw [apart, next?_skipped ends, Option.elim_none, Option.map_some] at first
    simp only [List.map_cons, List.map_nil, joined, List.map_append, List.append_assoc,
      List.cons_append, first]
  | cons next rows ih =>
    simp only [List.map_cons, joined_cons, List.length_append, List.length_cons] at enough
    obtain ⟨fuel, rfl⟩ : ∃ less, fuel = less + 1 := ⟨fuel - 1, by omega⟩
    obtain ⟨left, read, same⟩ := each row List.mem_cons_self
      (some ',' :: ((joined ((next :: rows).map fun row => row.1.2 ++ ':' :: row.2.2)).map some ++
        some '\x7d' :: rest)) fuel (apart_mark (.inl rfl)) (by omega)
    have comma : skip left = some ',' :: ((joined ((next :: rows).map fun row =>
        row.1.2 ++ ':' :: row.2.2)).map some ++ some '\x7d' :: rest) := same
    have others := ih (fun found member => names found (List.mem_cons_of_mem _ member))
      (fun found member => each found (List.mem_cons_of_mem _ member))
      (show _ < fuel by rw [List.map_cons]; omega)
    have first := members?_named (names row List.mem_cons_self) read
    rw [next?_skipped comma, Option.elim_some, others, Option.map_some] at first
    simp only [List.map_cons, joined_cons, List.map_append, List.append_assoc, List.cons_append]
      at first ⊢
    exact first

theorem reads_object {row : (Option String × List Char) × Json × List Char}
    {rows : List ((Option String × List Char) × Json × List Char)}
    (names : ∀ found ∈ row :: rows, SpellsName found.1.1 found.1.2)
    (each : ∀ found ∈ row :: rows, Reads found.2.1 found.2.2) :
    Reads (.object ((row :: rows).map fun row => (row.1.1, row.2.1)))
      ('\x7b' :: joined ((row :: rows).map fun row => row.1.2 ++ ':' :: row.2.2) ++ ['\x7d']) := by
  intro rest fuel apart enough
  rw [List.cons_append, List.length_cons, List.length_append, List.length_singleton] at enough
  obtain ⟨fuel, rfl⟩ : ∃ less, fuel = less + 1 := ⟨fuel - 1, by omega⟩
  have read : members? fuel ((joined ((row :: rows).map fun row => row.1.2 ++ ':' :: row.2.2)).map some ++
      some '\x7d' :: rest) = some ((row :: rows).map fun row => (row.1.1, row.2.1), rest) :=
    members?_joined names each (by omega)
  have begun : next? '\x7d' ((joined ((row :: rows).map fun row => row.1.2 ++ ':' :: row.2.2)).map some ++
      some '\x7d' :: rest) = none := by
    obtain ⟨before, literal, after, front, -, spells, same⟩ := names row List.mem_cons_self
    obtain ⟨inner, rfl, -⟩ := literal?_spelled spells
    have quote (rest : List Symbol) : next? '\x7d' (before.map some ++ some '"' :: rest) = none :=
      (next?_blanks front).trans (next?_other rfl (by decide))
    cases rows <;>
      simp only [List.map_cons, List.map_nil, joined, same, List.map_append, List.append_assoc,
        List.cons_append, quote]
  refine ⟨rest, ?_, rfl⟩
  simp only [List.cons_append, List.map_cons, List.map_append, List.append_assoc, List.map_nil,
    List.nil_append] at read begun ⊢
  simp only [value?, skip, isSpace, Char.reduceBEq, Bool.or_self, Bool.false_eq_true, ↓reduceIte,
    begun, read, Option.map_some]

theorem reads_emptyObject {blanks : List Char} (blank : IsBlank blanks) :
    Reads (.object []) ('\x7b' :: blanks ++ ['\x7d']) := by
  intro rest fuel apart enough
  rw [List.cons_append, List.length_cons] at enough
  obtain ⟨fuel, rfl⟩ : ∃ less, fuel = less + 1 := ⟨fuel - 1, by omega⟩
  have ends : next? '\x7d' (blanks.map some ++ some '\x7d' :: rest) = some rest :=
    (next?_blanks blank).trans (next?_cons rfl)
  refine ⟨rest, ?_, rfl⟩
  simp only [List.cons_append, List.map_cons, List.map_append, List.append_assoc, List.map_nil,
    List.nil_append]
  simp only [value?, skip, isSpace, Char.reduceBEq, Bool.or_self, Bool.false_eq_true, ↓reduceIte, ends]

/-! ## Every spelling is read -/

theorem Reads.padded {before after : List Char} (reads : Reads json text) (front : IsBlank before)
    (back : IsBlank after) : Reads json (before ++ text ++ after) := by
  intro rest fuel apart enough
  rw [List.length_append, List.length_append] at enough
  obtain ⟨left, read, same⟩ := reads (after.map some ++ rest) fuel (apart_blanks back apart) (by omega)
  refine ⟨left, ?_, same.trans (skip_blanks back)⟩
  rw [List.map_append, List.map_append, List.append_assoc, List.append_assoc, value?_blanks front]
  exact read

theorem Spells.reads (spells : Spells json text) : Reads json text := by
  induction spells with
  | null => exact reads_of_readsBack readsBack_null
  | true => exact reads_of_readsBack (readsBack_bool _)
  | false => exact reads_of_readsBack (readsBack_bool _)
  | number spelled => exact reads_of_readsBack (readsBack_number spelled)
  | string spells =>
    obtain ⟨inner, rfl, read⟩ := literal?_spelled spells
    intro rest fuel apart enough
    rw [List.length_cons] at enough
    obtain ⟨fuel, rfl⟩ : ∃ less, fuel = less + 1 := ⟨fuel - 1, by omega⟩
    refine ⟨rest, ?_, rfl⟩
    simp [value?, skip, isSpace, scalar?, read]
  | emptyArray blank => exact reads_emptyArray blank
  | @array rows some each ih =>
    cases rows with
    | nil => exact absurd rfl some
    | cons row rows => exact reads_array ih (each row List.mem_cons_self).begins
  | emptyObject blank => exact reads_emptyObject blank
  | @object rows some names _ ih =>
    cases rows with
    | nil => exact absurd rfl some
    | cons row rows => exact reads_object names ih
  | padded front _ back ih => exact ih.padded front back

/-- The symbols of a spelling are read as the value. -/
theorem read?_spelled (spells : Spells json text) : read? (text.map some) = some json := by
  obtain ⟨left, read, same⟩ := spells.reads [] (2 * text.length + 2) trivial (by omega)
  rw [List.append_nil] at read
  have ends : skip left = [] := same
  rw [read?, List.length_map, read]
  simp only [ends, List.isEmpty_nil, ↓reduceIte]

/-- The bytes of a spelling are read as the value. -/
theorem ofBytes?_spelled (spells : Spells json text) :
    ofBytes? (Text.encode (String.ofList text)) = some json := by
  rw [ofBytes?, Text.symbols_encode, symbolsOf, String.toList_ofList, read?_spelled spells]

end

/-! ## The compact text -/

/-- A character of a literal as it is written compactly. -/
theorem spells_escapeChar (c : Char) :
    ∃ piece : Piece, piece.Spells (escapeChar c) ∧
      ∀ rest, textOf? (piece :: rest) = (textOf? rest).map (c :: ·) := by
  have escaped {letter : Char} (named : (letter, c) ∈ escapes) :
      ∃ piece : Piece, piece.Spells ['\\', letter] ∧
        ∀ rest, textOf? (piece :: rest) = (textOf? rest).map (c :: ·) :=
    ⟨.char c, .escaped named, fun rest => by rw [textOf?]⟩
  unfold escapeChar
  iterate 7
    split
    · subst c
      exact escaped (by decide)
  split
  · rename_i control
    have high : IsHex (c.toNat / 16) (Nat.digitChar (c.toNat / 16)) := ⟨by omega, .inl rfl⟩
    have low : IsHex (c.toNat % 16) (Nat.digitChar (c.toNat % 16)) := ⟨by omega, .inl rfl⟩
    have zero : IsHex 0 '0' := ⟨by omega, .inl rfl⟩
    have code : 0 * 4096 + 0 * 256 + c.toNat / 16 * 16 + c.toNat % 16 = c.toNat := by omega
    have spells := Piece.Spells.coded zero zero high low
    rw [code] at spells
    refine ⟨.unit c.toNat, spells, fun rest => ?_⟩
    rw [textOf?.eq_def]
    simp only [Char.ofNat_toNat, if_neg (by omega : ¬ (0xD800 ≤ c.toNat ∧ c.toNat < 0xDC00)),
      if_neg (by omega : ¬ (0xDC00 ≤ c.toNat ∧ c.toNat < 0xE000))]
  · rename_i unquoted unescaped _ _ _ _ _ shown
    exact ⟨.char c, .plain unquoted unescaped shown, fun rest => by rw [textOf?]⟩

theorem spellsText_literal (value : Option String) : SpellsText value (literal value) := by
  cases value with
  | none =>
    have hex (value : Nat) (small : value < 16) : IsHex value (Nat.digitChar value) := ⟨small, .inl rfl⟩
    exact ⟨[.unit 0xD800], [_],
      .cons (.coded (hex 13 (by decide)) (hex 8 (by decide)) (hex 0 (by decide)) (hex 0 (by decide))) .nil,
      rfl, rfl⟩
  | some value =>
    have all (text : List Char) : ∃ pieces, List.Forall₂ Piece.Spells pieces (text.map escapeChar) ∧
        textOf? pieces = some text := by
      induction text with
      | nil => exact ⟨[], .nil, rfl⟩
      | cons c text ih =>
        obtain ⟨pieces, each, whole⟩ := ih
        obtain ⟨piece, first, grows⟩ := spells_escapeChar c
        exact ⟨piece :: pieces, .cons first each, by rw [grows, whole, Option.map_some]⟩
    obtain ⟨pieces, each, whole⟩ := all value.toList
    refine ⟨pieces, _, each, ?_, ?_⟩
    · rw [whole, Option.map_some, String.ofList_toList]
    · rw [literal, List.flatMap_def]

theorem joined_itemChars (item : Json) (items : List Json) :
    item.chars ++ itemChars items = joined ((item :: items).map chars) ++ [']'] := by
  induction items generalizing item with
  | nil => rfl
  | cons next items ih =>
    rw [itemChars, ih]
    simp only [List.map_cons, joined_cons, List.append_assoc, List.cons_append]

theorem joined_memberChars (member : Option String × Json) (members : List (Option String × Json)) :
    literal member.1 ++ ':' :: (member.2.chars ++ memberChars members) =
      joined ((member :: members).map fun member => literal member.1 ++ ':' :: member.2.chars) ++
        ['\x7d'] := by
  induction members generalizing member with
  | nil => simp [memberChars, joined]
  | cons next members ih =>
    rw [memberChars, ih]
    simp only [List.map_cons, joined_cons, List.append_assoc, List.cons_append]

/-- The compact text of a value is a spelling of it. -/
theorem IsSpelled.spells {json : Json} (spelled : json.IsSpelled) : Spells json json.chars := by
  induction spelled with
  | null => exact .null
  | bool value => cases value <;> [exact .false; exact .true]
  | number spelled => exact .number spelled
  | string text => exact .string (spellsText_literal text)
  | @array items _ ih =>
    cases items with
    | nil => exact .emptyArray fun _ member => (List.not_mem_nil member).elim
    | cons item items =>
      have each : ∀ row ∈ (item :: items).map fun item => (item, item.chars), Spells row.1 row.2 := by
        intro row isRow
        obtain ⟨found, member, rfl⟩ := List.mem_map.mp isRow
        exact ih found member
      have spells := Spells.array (by simp) each
      rw [chars, joined_itemChars]
      simpa only [List.map_map, Function.comp_def, List.map_id', List.cons_append] using spells
  | @object members _ ih =>
    cases members with
    | nil => exact .emptyObject fun _ member => (List.not_mem_nil member).elim
    | cons member members =>
      let row (member : Option String × Json) := ((member.1, literal member.1), member.2, member.2.chars)
      have names : ∀ found ∈ (member :: members).map row, SpellsName found.1.1 found.1.2 := by
        intro found isRow
        obtain ⟨named, -, rfl⟩ := List.mem_map.mp isRow
        exact ⟨[], _, [], fun _ none => (List.not_mem_nil none).elim,
          fun _ none => (List.not_mem_nil none).elim, spellsText_literal named.1, (List.append_nil _).symm⟩
      have each : ∀ found ∈ (member :: members).map row, Spells found.2.1 found.2.2 := by
        intro found isRow
        obtain ⟨named, isMember, rfl⟩ := List.mem_map.mp isRow
        exact ih named isMember
      have spells := Spells.object (by simp) names each
      rw [chars, joined_memberChars]
      simpa only [List.map_map, Function.comp_def, row, List.map_id', List.cons_append]
        using spells

/-- The compact text of a value gives the value back. -/
theorem ofString?_render {json : Json} (spelled : json.IsSpelled) : ofString? json.render = some json := by
  rw [ofString?, render, symbolsOf, String.toList_ofList, read?_spelled spelled.spells]

end Leasehold.Json
