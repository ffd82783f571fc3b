import Leasehold.Text.Percent
import Leasehold.Text.Split

/-! What a percent-encoded text stands for. Encoding more of a text does not change that, a slash
separates what stands before it from what stands behind it, and a text either stands for its own bytes
or for fewer. -/
namespace Leasehold.Text

/-! ## Bytes -/

/-- The bytes of a text. -/
def bytes (text : List Char) : List UInt8 := text.flatMap charBytes

@[simp] theorem bytes_nil : bytes [] = [] := rfl

@[simp] theorem bytes_cons (c : Char) (rest : List Char) :
    bytes (c :: rest) = charBytes c ++ bytes rest :=
  rfl

@[simp] theorem bytes_append (front rest : List Char) :
    bytes (front ++ rest) = bytes front ++ bytes rest :=
  List.flatMap_append

theorem charBytes_pos (c : Char) : 0 < (charBytes c).length := by
  rw [charBytes, String.length_utf8EncodeChar]
  exact c.utf8Size_pos

/-- No two texts have the same bytes. -/
theorem bytes_injective {text other : List Char} (same : bytes text = bytes other) : text = other := by
  have encoded : text.utf8Encode = other.utf8Encode := congrArg List.toByteArray same
  have strings : String.ofList text = String.ofList other := by
    rw [← String.toByteArray_inj]
    simpa using encoded
  exact String.ofList_injective strings

/-- A text that has lost characters has fewer bytes. -/
theorem bytes_of_sublist {text other : List Char} (fewer : text.Sublist other) :
    text = other ∨ (bytes text).length < (bytes other).length := by
  induction fewer with
  | slnil => exact .inl rfl
  | cons c fewer ih =>
    have positive := charBytes_pos c
    right
    rw [bytes_cons, List.length_append]
    rcases ih with rfl | shorter <;> omega
  | cons_cons c fewer ih =>
    rw [bytes_cons, bytes_cons, List.length_append, List.length_append]
    rcases ih with rfl | shorter
    · exact .inl rfl
    · exact .inr (Nat.add_lt_add_left shorter _)

/-! ## Reading -/

theorem hexPair?_eq_some_iff {text : List Char} {byte : UInt8} {rest : List Char} :
    hexPair? text = some (byte, rest) ↔ ∃ high low upper lower, text = high :: low :: rest ∧
      hexValue? high = some upper ∧ hexValue? low = some lower ∧
      UInt8.ofNat (upper * 16 + lower) = byte := by
  constructor
  · intro found
    unfold hexPair? at found
    split at found
    · rename_i high low after
      obtain ⟨upper, first, found⟩ := Option.bind_eq_some_iff.mp found
      obtain ⟨lower, second, found⟩ := Option.bind_eq_some_iff.mp found
      cases found
      exact ⟨high, low, upper, lower, rfl, first, second, rfl⟩
    · cases found
  · rintro ⟨high, low, upper, lower, rfl, first, second, rfl⟩
    simp [hexPair?, first, second]

@[simp] theorem percentDecode_nil : percentDecode [] = [] := by simp [percentDecode]

theorem percentDecode_cons {c : Char} (other : c ≠ '%') (rest : List Char) :
    percentDecode (c :: rest) = charBytes c ++ percentDecode rest := by
  rw [percentDecode, if_neg other]

theorem percentDecode_pair {rest after : List Char} {byte : UInt8}
    (found : hexPair? rest = some (byte, after)) :
    percentDecode ('%' :: rest) = byte :: percentDecode after := by
  rw [percentDecode, if_pos rfl]
  split <;> simp_all

theorem percentDecode_sign {rest : List Char} (found : hexPair? rest = none) :
    percentDecode ('%' :: rest) = charBytes '%' ++ percentDecode rest := by
  rw [percentDecode, if_pos rfl]
  split <;> simp_all

/-- What a text stands for is its bytes, or it is shorter. -/
theorem percentDecode_or_shorter (text : List Char) :
    percentDecode text = bytes text ∨ (percentDecode text).length < (bytes text).length := by
  fun_induction percentDecode text with
  | case1 => exact .inl rfl
  | case2 rest byte after found ih =>
    obtain ⟨high, low, _, _, rfl, _⟩ := hexPair?_eq_some_iff.mp found
    have first := charBytes_pos high
    right
    simp only [bytes_cons, List.length_append, List.length_cons]
    have bound : (percentDecode after).length ≤ (bytes after).length := by
      rcases ih with same | shorter
      · exact Nat.le_of_eq (congrArg _ same)
      · exact Nat.le_of_lt shorter
    have sign : (charBytes '%').length = 1 := rfl
    omega
  | case3 rest found ih | case4 c rest other ih =>
    rw [bytes_cons]
    rcases ih with same | shorter
    · exact .inl (by rw [same])
    · exact .inr (by simpa using shorter)

/-- A text without percent signs stands for its bytes. -/
theorem percentDecode_of_not_mem {text : List Char} (plain : '%' ∉ text) :
    percentDecode text = bytes text := by
  induction text with
  | nil => exact percentDecode_nil
  | cons c rest ih =>
    rw [List.mem_cons, not_or] at plain
    rw [percentDecode_cons (Ne.symm plain.1), ih plain.2, bytes_cons]

/-- A text that is not empty stands for something. -/
theorem percentDecode_pos (c : Char) (rest : List Char) : 0 < (percentDecode (c :: rest)).length := by
  have positive := charBytes_pos c
  by_cases sign : c = '%'
  · subst sign
    cases found : hexPair? rest with
    | none => rw [percentDecode_sign found, List.length_append]; omega
    | some pair => rw [percentDecode_pair found, List.length_cons]; omega
  · rw [percentDecode_cons sign, List.length_append]
    omega

/-- A character that is neither a percent sign nor a digit separates what stands on both sides. -/
theorem percentDecode_append {separator : Char} (plain : separator ≠ '%')
    (stray : hexValue? separator = none) (front rest : List Char) :
    percentDecode (front ++ separator :: rest) =
      percentDecode front ++ charBytes separator ++ percentDecode rest := by
  fun_induction percentDecode front with
  | case1 => exact percentDecode_cons plain rest
  | case2 inner byte after found ih =>
    obtain ⟨high, low, upper, lower, rfl, first, second, value⟩ := hexPair?_eq_some_iff.mp found
    have pair : hexPair? (high :: low :: (after ++ separator :: rest)) =
        some (byte, after ++ separator :: rest) :=
      hexPair?_eq_some_iff.mpr ⟨high, low, upper, lower, rfl, first, second, value⟩
    rw [List.cons_append, List.cons_append, List.cons_append, percentDecode_pair pair, ih]
    rfl
  | case3 inner found ih =>
    have unpaired : hexPair? (inner ++ separator :: rest) = none := by
      match inner with
      | [] => cases rest <;> simp [hexPair?, stray]
      | [high] => cases first : hexValue? high <;> simp [hexPair?, stray, first]
      | high :: low :: after => simpa [hexPair?] using found
    rw [List.cons_append, percentDecode_sign unpaired, ih]
    simp
  | case4 c inner other ih =>
    rw [List.cons_append, percentDecode_cons other, ih]
    simp

/-- A slash separates what stands on both sides. -/
theorem percentDecode_slash (front rest : List Char) :
    percentDecode (front ++ '/' :: rest) = percentDecode front ++ 47 :: percentDecode rest := by
  rw [percentDecode_append (by decide) (by decide), List.append_assoc]
  rfl

/-! ## Writing -/

theorem hexValue?_upperHex : ∀ value < 16, hexValue? (upperHex value) = some value := by decide

theorem hexPair?_percentByte (byte : UInt8) (rest : List Char) :
    hexPair? (upperHex (byte.toNat / 16) :: upperHex (byte.toNat % 16) :: rest) =
      some (byte, rest) := by
  have bound := byte.toNat_lt
  refine hexPair?_eq_some_iff.mpr ⟨_, _, _, _, rfl, hexValue?_upperHex _ (by omega),
    hexValue?_upperHex _ (Nat.mod_lt _ (by decide)), ?_⟩
  rw [Nat.div_add_mod']
  exact UInt8.ofNat_toNat

theorem percentDecode_percentBytes (written : List UInt8) (rest : List Char) :
    percentDecode (written.flatMap percentByte ++ rest) = written ++ percentDecode rest := by
  induction written with
  | nil => rfl
  | cons byte written ih =>
    rw [List.flatMap_cons, List.append_assoc, List.cons_append, ← ih]
    exact percentDecode_pair (hexPair?_percentByte byte _)

section
variable {mustEncode : Char → Bool}

theorem percentEncode_kept {c : Char} (kept : mustEncode c = false) (rest : List Char) :
    percentEncode mustEncode (c :: rest) = c :: percentEncode mustEncode rest := by
  simp [percentEncode, kept]

theorem percentEncode_written {c : Char} (written : mustEncode c = true) (rest : List Char) :
    percentEncode mustEncode (c :: rest) =
      (charBytes c).flatMap percentByte ++ percentEncode mustEncode rest := by
  simp [percentEncode, written]

/-- A text is encoded with its first character in front, or with a percent sign. -/
theorem percentEncode_cons (mustEncode : Char → Bool) (c : Char) (rest : List Char) :
    percentEncode mustEncode (c :: rest) = c :: percentEncode mustEncode rest ∨
      ∃ tail, percentEncode mustEncode (c :: rest) = '%' :: tail := by
  cases written : mustEncode c with
  | false => exact .inl (percentEncode_kept written rest)
  | true =>
    obtain ⟨byte, more, same⟩ := List.exists_cons_of_length_pos (charBytes_pos c)
    rw [percentEncode_written written, same]
    exact .inr ⟨_, rfl⟩

/-- Encoding makes no pair of digits. -/
theorem hexPair?_percentEncode {text : List Char} (found : hexPair? text = none) :
    hexPair? (percentEncode mustEncode text) = none := by
  have sign (tail : List Char) : hexPair? ('%' :: tail) = none := by
    cases tail <;> rfl
  match text with
  | [] => rfl
  | [high] =>
    rcases percentEncode_cons mustEncode high [] with kept | ⟨tail, written⟩
    · rw [kept]; rfl
    · rw [written, sign]
  | high :: low :: rest =>
    rcases percentEncode_cons mustEncode high (low :: rest) with
      kept | ⟨tail, written⟩
    · rw [kept]
      rcases percentEncode_cons mustEncode low rest with kept | ⟨tail, written⟩
      · rw [kept]
        simpa [hexPair?] using found
      · rw [written]
        simp [hexPair?, hexValue?]
    · rw [written, sign]

/-- Which characters are encoded makes no difference, as long as percent signs and digits are not. -/
theorem percentDecode_percentEncode
    (spares : ∀ c, mustEncode c = true → c ≠ '%' ∧ hexValue? c = none) (text : List Char) :
    percentDecode (percentEncode mustEncode text) = percentDecode text := by
  have sign : mustEncode '%' = false := Bool.eq_false_iff.mpr fun written => (spares _ written).1 rfl
  have digit {c : Char} {value : Nat} (found : hexValue? c = some value) : mustEncode c = false := by
    refine Bool.eq_false_iff.mpr fun written => ?_
    rw [(spares c written).2] at found
    cases found
  fun_induction percentDecode text with
  | case1 => exact percentDecode_nil
  | case2 rest byte after found ih =>
    obtain ⟨high, low, upper, lower, rfl, first, second, value⟩ := hexPair?_eq_some_iff.mp found
    rw [percentEncode_kept sign, percentEncode_kept (digit first), percentEncode_kept (digit second),
      percentDecode_pair (hexPair?_eq_some_iff.mpr ⟨_, _, _, _, rfl, first, second, value⟩), ih]
  | case3 rest found ih =>
    rw [percentEncode_kept sign, percentDecode_sign (hexPair?_percentEncode found), ih]
  | case4 c rest other ih =>
    cases written : mustEncode c with
    | false => rw [percentEncode_kept written, percentDecode_cons other, ih]
    | true => rw [percentEncode_written written, percentDecode_percentBytes, ih]

end

/-! ## Segments -/

/-- The parts of two texts with a separator in between are those of both. -/
theorem splitAt_append (separator : Char) (front rest : List Char) :
    splitAt separator (front ++ separator :: rest) =
      splitAt separator front ++ splitAt separator rest := by
  induction front with
  | nil => simp [splitAt]
  | cons c front ih =>
    rw [List.cons_append, splitAt, splitAt, ih]
    split
    · rfl
    · cases parts : splitAt separator front with
      | nil => exact absurd parts (splitAt_ne_nil separator front)
      | cons part parts => rfl

/-- The parts of a text with separators in front of them are the text again. -/
theorem join_splitAt (separator : Char) (text : List Char) :
    (splitAt separator text).flatMap (separator :: ·) = separator :: text := by
  induction text with
  | nil => rfl
  | cons c text ih =>
    rw [splitAt]
    split
    · rename_i same
      rw [List.flatMap_cons, ih, same]
      rfl
    · cases parts : splitAt separator text with
      | nil => exact absurd parts (splitAt_ne_nil separator text)
      | cons part parts =>
        rw [parts, List.flatMap_cons, List.cons_append, List.cons.injEq] at ih
        rw [List.flatMap_cons, List.cons_append, List.cons_append, ih.2]

end Leasehold.Text
