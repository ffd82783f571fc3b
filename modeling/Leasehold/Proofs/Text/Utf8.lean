import Leasehold.Text.Utf8

/-! The bytes of a text are read back as the text. The lead byte of a character says how many bytes follow
and bounds the second one, and the bounds hold because the code point is neither small enough for a shorter
form nor a surrogate. -/
namespace Leasehold.Text

variable {rest : List UInt8}

/-- A byte of a character that is not its last one. -/
theorem symbolsFrom_inside {left code low high byte : Nat} (more : 1 < left) (above : low ≤ byte)
    (below : byte ≤ high) (small : byte < 256) :
    symbolsFrom (.inside left code low high) (UInt8.ofNat byte :: rest) =
      symbolsFrom (.inside (left - 1) (code * 64 + (byte - 0x80)) 0x80 0xBF) rest := by
  rw [symbolsFrom, UInt8.toNat_ofNat_of_lt' small, if_pos ⟨above, below⟩]
  simp only [if_neg (by omega : ¬ left ≤ 1)]

/-- The last byte of a character. -/
theorem symbolsFrom_last {code low high byte : Nat} (total : Nat) (above : low ≤ byte) (below : byte ≤ high)
    (small : byte < 256) (whole : code * 64 + (byte - 0x80) = total) :
    symbolsFrom (.inside 1 code low high) (UInt8.ofNat byte :: rest) =
      some (Char.ofNat total) :: symbolsFrom .start rest := by
  rw [symbolsFrom, UInt8.toNat_ofNat_of_lt' small, if_pos ⟨above, below⟩, whole]
  simp only [Nat.le_refl, ↓reduceIte]

/-- The first byte of a character of several bytes. -/
theorem symbolsFrom_opens {byte : Nat} {state : Utf8State} (small : byte < 256)
    (opens : utf8Lead byte = .opens state) :
    symbolsFrom .start (UInt8.ofNat byte :: rest) = symbolsFrom state rest := by
  rw [symbolsFrom, UInt8.toNat_ofNat_of_lt' small, opens]

theorem utf8Lead_two {byte : Nat} (above : 0xC2 ≤ byte) (below : byte < 0xE0) :
    utf8Lead byte = .opens (.inside 1 (byte - 0xC0) 0x80 0xBF) := by
  rw [utf8Lead, if_neg (by omega), if_neg (by omega), if_pos below]

theorem utf8Lead_three {byte : Nat} (above : 0xE0 ≤ byte) (below : byte < 0xF0) :
    utf8Lead byte = .opens (.inside 2 (byte - 0xE0) (if byte = 0xE0 then 0xA0 else 0x80)
      (if byte = 0xED then 0x9F else 0xBF)) := by
  rw [utf8Lead, if_neg (by omega), if_neg (by omega), if_neg (by omega)]
  by_cases first : byte = 0xE0
  · subst first
    rfl
  by_cases surrogates : byte = 0xED
  · subst surrogates
    rfl
  rw [if_neg first, if_neg first, if_neg surrogates, if_neg surrogates, if_pos below]

theorem utf8Lead_four {byte : Nat} (above : 0xF0 ≤ byte) (below : byte < 0xF5) :
    utf8Lead byte = .opens (.inside 3 (byte - 0xF0) (if byte = 0xF0 then 0x90 else 0x80)
      (if byte = 0xF4 then 0x8F else 0xBF)) := by
  rw [utf8Lead, if_neg (by omega), if_neg (by omega), if_neg (by omega), if_neg (by omega),
    if_neg (by omega), if_neg (by omega)]
  by_cases first : byte = 0xF0
  · subst first
    rfl
  by_cases last : byte = 0xF4
  · subst last
    rfl
  rw [if_neg first, if_neg first, if_neg last, if_neg last, if_pos (by omega)]

/-- A character is read back from its bytes. -/
theorem symbolsFrom_char (c : Char) :
    symbolsFrom .start (String.utf8EncodeChar c ++ rest) = some c :: symbolsFrom .start rest := by
  have whole : Char.ofNat c.toNat = c := Char.ofNat_toNat c
  have scalar : c.toNat < 0xD800 ∨ 0xDFFF < c.toNat ∧ c.toNat < 0x110000 := c.valid
  unfold String.utf8EncodeChar
  dsimp only
  rw [show c.val.toNat = c.toNat from rfl]
  generalize c.toNat = code at whole scalar
  subst whole
  by_cases one : code ≤ 0x7F
  · have small : code < 256 := by omega
    have lead : utf8Lead code = .whole code := by rw [utf8Lead, if_pos (by omega)]
    rw [if_pos one, List.singleton_append, symbolsFrom, UInt8.toNat_ofNat_of_lt' small, lead]
  rw [if_neg one]
  by_cases two : code ≤ 0x7FF
  · rw [if_pos two, List.cons_append, List.singleton_append,
      symbolsFrom_opens (by omega) (utf8Lead_two (by omega) (by omega)),
      symbolsFrom_last code (by omega) (by omega) (by omega) (by omega)]
  rw [if_neg two]
  by_cases three : code ≤ 0xFFFF
  · rw [if_pos three, List.cons_append, List.cons_append, List.singleton_append,
      symbolsFrom_opens (by omega) (utf8Lead_three (by omega) (by omega)),
      symbolsFrom_inside (by omega) (by split <;> omega) (by split <;> omega) (by omega),
      symbolsFrom_last code (by omega) (by omega) (by omega) (by omega)]
  · rw [if_neg three, List.cons_append, List.cons_append, List.cons_append, List.singleton_append,
      symbolsFrom_opens (by omega) (utf8Lead_four (by omega) (by omega)),
      symbolsFrom_inside (by omega) (by split <;> omega) (by split <;> omega) (by omega),
      symbolsFrom_inside (by omega) (by omega) (by omega) (by omega),
      symbolsFrom_last code (by omega) (by omega) (by omega) (by omega)]

theorem symbols_chars (text : List Char) :
    symbolsFrom .start (text.flatMap String.utf8EncodeChar) = text.map some := by
  induction text with
  | nil => rfl
  | cons c text ih => rw [List.flatMap_cons, symbolsFrom_char, ih, List.map_cons]

/-- The bytes of a text have no holes. -/
theorem symbols_encode (text : String) : symbols (encode text) = symbolsOf text := by
  have bytes : encode text = text.toList.flatMap String.utf8EncodeChar := by
    rw [encode, String.toUTF8_eq_toByteArray, ← String.utf8Encode_toList, List.utf8Encode,
      List.data_toByteArray]
  rw [symbols, bytes, symbols_chars, symbolsOf]

/-- The bytes of a text hold just the text. -/
theorem decode?_encode (text : String) : decode? (encode text) = some text.toList := by
  have noHoles : text.toList.mapM (pure : Char → Option Char) = some text.toList := by
    rw [List.mapM_pure, List.map_id']
    rfl
  rw [decode?, symbols_encode, symbolsOf, List.mapM_map]
  exact noHoles

end Leasehold.Text
