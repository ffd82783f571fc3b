import Mathlib.Logic.Basic
import Leasehold.Text.Base64

/-! Base64 is decoded exactly when it is what some bytes are encoded as, and then to these bytes. -/
namespace Leasehold.Text.Base64

/-! ## Symbols -/

theorem value?_symbol {value : Nat} (small : value < 64) : value? (symbol value) = some value := by
  have all : ∀ value < 64, value? (symbol value) = some value := by decide
  exact all value small

/-- A byte that has a value is the symbol of the value. -/
theorem eq_symbol {byte : UInt8} {value : Nat} (found : value? byte = some value) :
    byte = symbol value ∧ value < 64 := by
  have same : UInt8.ofNat byte.toNat = byte := UInt8.ofNat_toNat
  unfold value? at found
  dsimp only at found
  split at found
  · obtain rfl := Option.some.inj found
    refine ⟨?_, by omega⟩
    rw [symbol, if_pos (by omega), Nat.add_sub_of_le (by omega), same]
  split at found
  · obtain rfl := Option.some.inj found
    refine ⟨?_, by omega⟩
    rw [symbol, if_neg (by omega), if_pos (by omega), Nat.add_sub_cancel,
      Nat.add_sub_of_le (by omega), same]
  split at found
  · obtain rfl := Option.some.inj found
    refine ⟨?_, by omega⟩
    rw [symbol, if_neg (by omega), if_neg (by omega), if_pos (by omega), Nat.add_sub_cancel,
      Nat.add_sub_of_le (by omega), same]
  split at found
  · rename_i code
    obtain rfl := Option.some.inj found
    exact ⟨by rw [← same, code]; rfl, by decide⟩
  split at found
  · rename_i code
    obtain rfl := Option.some.inj found
    exact ⟨by rw [← same, code]; rfl, by decide⟩
  · cases found

theorem value?_pad : value? pad = none := by decide

theorem symbol_ne_pad {value : Nat} (small : value < 64) : symbol value ≠ pad := by
  intro same
  have found := value?_symbol small
  rw [same, value?_pad] at found
  cases found

/-- A byte has a value, and is its symbol, or has none. -/
theorem symbol_or (byte : UInt8) :
    value? byte = none ∨ ∃ value, value? byte = some value ∧ byte = symbol value ∧ value < 64 := by
  cases found : value? byte with
  | none => exact .inl rfl
  | some value => exact .inr ⟨value, rfl, eq_symbol found⟩

theorem values_cons {offset : Nat} {byte : UInt8} {text : List UInt8} {found : List Nat} :
    values offset (byte :: text) = .ok found ↔
      ∃ value others, byte = symbol value ∧ value < 64 ∧ found = value :: others ∧
        values (offset + 1) text = .ok others := by
  rw [values]
  constructor
  · intro read
    rcases symbol_or byte with unknown | ⟨value, known, rfl, small⟩
    · rw [unknown] at read
      cases read
    · rw [known] at read
      cases rest : values (offset + 1) text with
      | error fault =>
        rw [rest] at read
        cases read
      | ok others =>
        rw [rest] at read
        cases read
        exact ⟨value, others, rfl, small, rfl, rfl⟩
  · rintro ⟨value, others, rfl, small, rfl, rest⟩
    rw [value?_symbol small]
    dsimp only
    rw [rest]
    rfl

/-- Values are read of their symbols only. -/
theorem values_eq_ok {offset : Nat} {text : List UInt8} {found : List Nat} :
    values offset text = .ok found ↔ text = found.map symbol ∧ ∀ value ∈ found, value < 64 := by
  induction text generalizing offset found with
  | nil =>
    rw [values, Except.ok.injEq]
    constructor
    · rintro rfl
      exact ⟨rfl, fun _ member => (List.not_mem_nil member).elim⟩
    · rintro ⟨nothing, -⟩
      exact (List.map_eq_nil_iff.mp nothing.symm).symm
  | cons byte text ih =>
    rw [values_cons]
    constructor
    · rintro ⟨value, others, rfl, small, rfl, rest⟩
      obtain ⟨rfl, all⟩ := ih.mp rest
      exact ⟨rfl, List.forall_mem_cons.mpr ⟨small, all⟩⟩
    · rintro ⟨same, all⟩
      cases found with
      | nil => cases same
      | cons value others =>
        cases same
        obtain ⟨small, all⟩ := List.forall_mem_cons.mp all
        exact ⟨value, others, rfl, small, rfl, ih.mpr ⟨rfl, all⟩⟩

/-! ## Padding -/

section
variable {start index : Nat} {byte : UInt8} {text : List UInt8} {found : List Nat} {padding : Nat}

/-- Padding has no place before the third of the last places, and nothing else follows it. -/
theorem split_pad :
    split start index (pad :: text) = .ok (found, padding) ↔
      2 ≤ index ∧ text = List.replicate text.length pad ∧ found = [] ∧ padding = text.length + 1 := by
  have filled : text.all (· == pad) = true ↔ text = List.replicate text.length pad := by
    simp [List.eq_replicate_iff]
  rw [split, if_pos rfl]
  by_cases early : index < 2
  · rw [if_pos early]
    exact iff_of_false nofun fun late => Nat.not_le_of_lt early late.1
  rw [if_neg early]
  by_cases all : text.all (· == pad) = true
  · rw [if_pos all, Except.ok.injEq, Prod.mk.injEq, eq_comm, eq_comm (b := padding)]
    exact ⟨fun ends => ⟨Nat.le_of_not_lt early, filled.mp all, ends⟩, fun ends => ends.2.2⟩
  · rw [if_neg all]
    exact iff_of_false nofun fun ends => all (filled.mpr ends.2.1)

theorem split_symbol (unpadded : byte ≠ pad) :
    split start index (byte :: text) = .ok (found, padding) ↔
      ∃ value others, byte = symbol value ∧ value < 64 ∧ found = value :: others ∧
        split start (index + 1) text = .ok (others, padding) := by
  rw [split, if_neg unpadded]
  constructor
  · intro read
    rcases symbol_or byte with unknown | ⟨value, known, rfl, small⟩
    · rw [unknown] at read
      cases read
    · rw [known] at read
      cases rest : split start (index + 1) text with
      | error fault =>
        rw [rest] at read
        cases read
      | ok others =>
        rw [rest] at read
        cases read
        exact ⟨value, others.1, rfl, small, rfl, rfl⟩
  · rintro ⟨value, others, rfl, small, rfl, rest⟩
    rw [value?_symbol small]
    dsimp only
    rw [rest]
    rfl

/-- The last places are read as symbols and padding. -/
theorem split_eq_ok :
    split start index text = .ok (found, padding) ↔
      text = found.map symbol ++ List.replicate padding pad ∧ (∀ value ∈ found, value < 64) ∧
        (padding = 0 ∨ 2 ≤ index + found.length) := by
  induction text generalizing index found with
  | nil =>
    rw [split, Except.ok.injEq, Prod.mk.injEq]
    constructor
    · rintro ⟨rfl, rfl⟩
      exact ⟨rfl, fun _ member => (List.not_mem_nil member).elim, .inl rfl⟩
    · rintro ⟨nothing, -⟩
      obtain ⟨symbols, padless⟩ := List.append_eq_nil_iff.mp nothing.symm
      exact ⟨(List.map_eq_nil_iff.mp symbols).symm, ((List.replicate_eq_nil_iff _).mp padless).symm⟩
  | cons byte text ih =>
    by_cases padded : byte = pad
    · subst padded
      rw [split_pad]
      constructor
      · rintro ⟨late, rest, rfl, rfl⟩
        refine ⟨?_, fun _ member => (List.not_mem_nil member).elim, .inr late⟩
        rw [List.map_nil, List.nil_append, List.replicate_succ, ← rest]
      · rintro ⟨same, all, enough⟩
        cases found with
        | cons value others =>
          exact absurd (List.cons.inj same).1.symm (symbol_ne_pad (List.forall_mem_cons.mp all).1)
        | nil =>
          cases padding with
          | zero => cases same
          | succ less =>
            obtain rfl : text = List.replicate less pad := (List.cons.inj same).2
            rw [List.length_replicate]
            exact ⟨enough.resolve_left (Nat.succ_ne_zero less), rfl, rfl, rfl⟩
    · rw [split_symbol padded]
      constructor
      · rintro ⟨value, others, rfl, small, rfl, rest⟩
        obtain ⟨rfl, all, enough⟩ := ih.mp rest
        refine ⟨rfl, List.forall_mem_cons.mpr ⟨small, all⟩, ?_⟩
        rw [List.length_cons]
        omega
      · rintro ⟨same, all, enough⟩
        cases found with
        | nil =>
          cases padding with
          | zero => cases same
          | succ less => exact absurd (List.cons.inj same).1 padded
        | cons value others =>
          cases same
          obtain ⟨small, all⟩ := List.forall_mem_cons.mp all
          rw [List.length_cons] at enough
          exact ⟨value, others, rfl, small, rfl, ih.mpr ⟨rfl, all, by omega⟩⟩

end

/-! ## Places -/

section
variable {start : Nat} {text bytes rest : List UInt8} {a b c d : Nat}

/-- The byte that four symbols begin with. -/
def firstByte (a b : Nat) : UInt8 := UInt8.ofNat (a * 4 + b / 16)

/-- The byte after it. -/
def secondByte (b c : Nat) : UInt8 := UInt8.ofNat (b % 16 * 16 + c / 4)

/-- The byte that four symbols end with. -/
def thirdByte (c d : Nat) : UInt8 := UInt8.ofNat (c % 4 * 64 + d)

theorem firstByte_toNat (smallA : a < 64) (smallB : b < 64) : (firstByte a b).toNat = a * 4 + b / 16 :=
  UInt8.toNat_ofNat_of_lt' (show _ < 256 by omega)

theorem secondByte_toNat (smallC : c < 64) : (secondByte b c).toNat = b % 16 * 16 + c / 4 :=
  UInt8.toNat_ofNat_of_lt' (show _ < 256 by omega)

theorem thirdByte_toNat (smallD : d < 64) : (thirdByte c d).toNat = c % 4 * 64 + d :=
  UInt8.toNat_ofNat_of_lt' (show _ < 256 by omega)

theorem encode_one (smallA : a < 64) (smallB : b < 64) (even : b % 16 = 0) :
    encode [firstByte a b] = [symbol a, symbol b, pad, pad] := by
  have first : (a * 4 + b / 16) / 4 = a := by omega
  have second : (a * 4 + b / 16) % 4 * 16 = b := by omega
  rw [encode, firstByte_toNat smallA smallB, first, second]

theorem encode_two (smallA : a < 64) (smallB : b < 64) (smallC : c < 64) (even : c % 4 = 0) :
    encode [firstByte a b, secondByte b c] = [symbol a, symbol b, symbol c, pad] := by
  have first : (a * 4 + b / 16) / 4 = a := by omega
  have second : (a * 4 + b / 16) % 4 * 16 + (b % 16 * 16 + c / 4) / 16 = b := by omega
  have third : (b % 16 * 16 + c / 4) % 16 * 4 = c := by omega
  rw [encode, firstByte_toNat smallA smallB, secondByte_toNat smallC, first, second, third]

theorem encode_three (smallA : a < 64) (smallB : b < 64) (smallC : c < 64) (smallD : d < 64) :
    encode (firstByte a b :: secondByte b c :: thirdByte c d :: rest) =
      symbol a :: symbol b :: symbol c :: symbol d :: encode rest := by
  have first : (a * 4 + b / 16) / 4 = a := by omega
  have second : (a * 4 + b / 16) % 4 * 16 + (b % 16 * 16 + c / 4) / 16 = b := by omega
  have third : (b % 16 * 16 + c / 4) % 16 * 4 + (c % 4 * 64 + d) / 64 = c := by omega
  have fourth : (c % 4 * 64 + d) % 64 = d := by omega
  rw [encode, firstByte_toNat smallA smallB, secondByte_toNat smallC, thirdByte_toNat smallD, first,
    second, third, fourth]

theorem ofNat_eq {code : Nat} {byte : UInt8} (equal : code = byte.toNat) : UInt8.ofNat code = byte := by
  rw [equal, UInt8.ofNat_toNat]

/-- A byte is what two symbols stand for, the second of which has bits to spare. -/
theorem exists_one (x : UInt8) : ∃ a b, a < 64 ∧ b < 64 ∧ b % 16 = 0 ∧ firstByte a b = x := by
  have bound := x.toNat_lt
  exact ⟨x.toNat / 4, x.toNat % 4 * 16, by omega, by omega, by omega, ofNat_eq (by omega)⟩

/-- Two bytes are what three symbols stand for, the third of which has bits to spare. -/
theorem exists_two (x y : UInt8) : ∃ a b c, a < 64 ∧ b < 64 ∧ c < 64 ∧ c % 4 = 0 ∧
    firstByte a b = x ∧ secondByte b c = y := by
  have boundX := x.toNat_lt
  have boundY := y.toNat_lt
  exact ⟨x.toNat / 4, x.toNat % 4 * 16 + y.toNat / 16, y.toNat % 16 * 4, by omega, by omega, by omega,
    by omega, ofNat_eq (by omega), ofNat_eq (by omega)⟩

/-- Three bytes are what four symbols stand for. -/
theorem exists_three (x y z : UInt8) : ∃ a b c d, a < 64 ∧ b < 64 ∧ c < 64 ∧ d < 64 ∧
    firstByte a b = x ∧ secondByte b c = y ∧ thirdByte c d = z := by
  have boundX := x.toNat_lt
  have boundY := y.toNat_lt
  have boundZ := z.toNat_lt
  exact ⟨x.toNat / 4, x.toNat % 4 * 16 + y.toNat / 16, y.toNat % 16 * 4 + z.toNat / 64, z.toNat % 64,
    by omega, by omega, by omega, by omega, ofNat_eq (by omega), ofNat_eq (by omega),
    ofNat_eq (by omega)⟩

theorem encode_length (bytes : List UInt8) : (encode bytes).length % 4 = 0 := by
  fun_induction encode bytes with
  | case1 | case2 | case3 => simp
  | case4 a b c rest ih =>
    simp only [List.length_cons]
    omega

theorem encode_eq_nil (nothing : encode bytes = []) : bytes = [] := by
  fun_cases encode bytes with
  | case1 => rfl
  | case2 | case3 | case4 => simp [encode] at nothing

/-- What the values of the last places stand for, when padding fills them up. -/
def lastBytes (start : Nat) : List Nat → Except Fault (List UInt8)
  | [a, b] =>
    if b % 16 ≠ 0 then .error (.invalidLastSymbol (start + 1) (symbol b)) else .ok [firstByte a b]
  | [a, b, c] =>
    if c % 4 ≠ 0 then .error (.invalidLastSymbol (start + 2) (symbol c))
    else .ok [firstByte a b, secondByte b c]
  | [a, b, c, d] => .ok [firstByte a b, secondByte b c, thirdByte c d]
  | _ => .ok []

theorem decodeLast_places {found : List Nat} {padding : Nat}
    (places : split start 0 text = .ok (found, padding)) :
    decodeLast start text =
      if text ≠ [] ∧ found.length < 2 then .error (.invalidLength (start + found.length))
      else if (found.length + padding) % 4 ≠ 0 then .error .invalidPadding
      else lastBytes start found := by
  rw [decodeLast, places]
  rfl

/-- Places that are filled up encode the bytes that they stand for. -/
theorem encode_lastBytes {found : List Nat} {padding : Nat} (all : ∀ value ∈ found, value < 64)
    (short : found.length + padding ≤ 4) (full : (found.length + padding) % 4 = 0)
    (several : padding = 0 ∧ found = [] ∨ 2 ≤ found.length)
    (read : lastBytes start found = .ok bytes) :
    found.map symbol ++ List.replicate padding pad = encode bytes := by
  match found with
  | [] =>
    obtain ⟨rfl, -⟩ := several.resolve_right (by decide)
    cases read
    rfl
  | [a] =>
    rcases several with ⟨-, nothing⟩ | two
    · cases nothing
    · exact absurd two (Nat.not_succ_le_self 1)
  | [a, b] =>
    obtain rfl : padding = 2 := by simp only [List.length_cons, List.length_nil] at short full; omega
    simp only [List.forall_mem_cons] at all
    simp only [lastBytes] at read
    split at read
    · cases read
    · rename_i even
      cases read
      exact (encode_one all.1 all.2.1 (not_not.mp even)).symm
  | [a, b, c] =>
    obtain rfl : padding = 1 := by simp only [List.length_cons, List.length_nil] at short full; omega
    simp only [List.forall_mem_cons] at all
    simp only [lastBytes] at read
    split at read
    · cases read
    · rename_i even
      cases read
      exact (encode_two all.1 all.2.1 all.2.2.1 (not_not.mp even)).symm
  | [a, b, c, d] =>
    obtain rfl : padding = 0 := by simp only [List.length_cons, List.length_nil] at short; omega
    simp only [List.forall_mem_cons] at all
    cases read
    have whole : encode [firstByte a b, secondByte b c, thirdByte c d] = _ :=
      encode_three all.1 all.2.1 all.2.2.1 all.2.2.2.1
    exact whole.symm
  | a :: b :: c :: d :: e :: more =>
    simp only [List.length_cons] at short
    omega

theorem decodeLast_filled {found : List Nat} (padding : Nat) (all : ∀ value ∈ found, value < 64)
    (full : (found.length + padding) % 4 = 0) (several : 2 ≤ found.length)
    (read : lastBytes start found = .ok bytes) :
    decodeLast start (found.map symbol ++ List.replicate padding pad) = .ok bytes := by
  have places : split start 0 (found.map symbol ++ List.replicate padding pad) = .ok (found, padding) :=
    split_eq_ok.mpr ⟨rfl, all, .inr (by omega)⟩
  rw [decodeLast_places places, if_neg (fun few => by omega), if_neg (not_not.mpr full), read]

/-- The last places of a text are read when they encode at most three bytes. -/
theorem decodeLast_eq_ok (short : text.length ≤ 4) :
    decodeLast start text = .ok bytes ↔ text = encode bytes := by
  constructor
  · intro read
    cases places : split start 0 text with
    | error fault =>
      rw [decodeLast, places] at read
      cases read
    | ok found =>
      obtain ⟨found, padding⟩ := found
      rw [decodeLast_places places] at read
      obtain ⟨rfl, all, -⟩ := split_eq_ok.mp places
      rw [List.length_append, List.length_map, List.length_replicate] at short
      split at read
      · cases read
      split at read
      · cases read
      rename_i several full
      refine encode_lastBytes all short (not_not.mp full) ?_ read
      by_cases nothing : found.map symbol ++ List.replicate padding pad = []
      · obtain ⟨symbols, padless⟩ := List.append_eq_nil_iff.mp nothing
        exact .inl ⟨(List.replicate_eq_nil_iff _).mp padless, List.map_eq_nil_iff.mp symbols⟩
      · exact .inr (Nat.le_of_not_lt fun few => several ⟨nothing, few⟩)
  · rintro rfl
    match bytes with
    | [] => rfl
    | [x] =>
      obtain ⟨a, b, smallA, smallB, even, rfl⟩ := exists_one x
      have small : ∀ value ∈ [a, b], value < 64 := by simp [smallA, smallB]
      have whole : lastBytes start [a, b] = .ok [firstByte a b] := if_neg (not_not.mpr even)
      rw [encode_one smallA smallB even]
      exact decodeLast_filled 2 small (by simp) (Nat.le_refl 2) whole
    | [x, y] =>
      obtain ⟨a, b, c, smallA, smallB, smallC, even, rfl, rfl⟩ := exists_two x y
      have small : ∀ value ∈ [a, b, c], value < 64 := by simp [smallA, smallB, smallC]
      have whole : lastBytes start [a, b, c] = .ok [firstByte a b, secondByte b c] :=
        if_neg (not_not.mpr even)
      rw [encode_two smallA smallB smallC even]
      exact decodeLast_filled 1 small (by simp) (Nat.le_succ 2) whole
    | x :: y :: z :: rest =>
      obtain ⟨a, b, c, d, smallA, smallB, smallC, smallD, rfl, rfl, rfl⟩ := exists_three x y z
      have small : ∀ value ∈ [a, b, c, d], value < 64 := by simp [smallA, smallB, smallC, smallD]
      rw [encode_three smallA smallB smallC smallD] at short ⊢
      simp only [List.length_cons] at short
      have nothing : encode rest = [] := List.eq_nil_of_length_eq_zero (by omega)
      obtain rfl := encode_eq_nil nothing
      exact decodeLast_filled 0 small (by simp) (by simp) rfl

/-- Four symbols in front are read before the rest. -/
theorem decodeFrom_cons (smallA : a < 64) (smallB : b < 64) (smallC : c < 64) (smallD : d < 64)
    (start : Nat) (byte : UInt8) (rest : List UInt8) :
    decodeFrom start (symbol a :: symbol b :: symbol c :: symbol d :: byte :: rest) =
      (decodeFrom (start + 4) (byte :: rest)).map fun bytes =>
        firstByte a b :: secondByte b c :: thirdByte c d :: bytes := by
  have places : values start [symbol a, symbol b, symbol c, symbol d] = .ok [a, b, c, d] :=
    values_eq_ok.mpr ⟨rfl, by simp [smallA, smallB, smallC, smallD]⟩
  rw [decodeFrom, places]
  cases decodeFrom (start + 4) (byte :: rest) <;> rfl

/-- Four symbols are read in front when more than four bytes are. -/
theorem decodeFrom_front {first second third fourth byte : UInt8}
    (read : decodeFrom start (first :: second :: third :: fourth :: byte :: rest) = .ok bytes) :
    ∃ a b c d others, (a < 64 ∧ b < 64 ∧ c < 64 ∧ d < 64) ∧
      [first, second, third, fourth] = [symbol a, symbol b, symbol c, symbol d] ∧
      decodeFrom (start + 4) (byte :: rest) = .ok others ∧
      bytes = firstByte a b :: secondByte b c :: thirdByte c d :: others := by
  cases places : values start [first, second, third, fourth] with
  | error fault =>
    rw [decodeFrom, places] at read
    cases read
  | ok found =>
    obtain ⟨symbols, all⟩ := values_eq_ok.mp places
    match found, symbols with
    | [a, b, c, d], symbols =>
      cases symbols
      simp only [List.forall_mem_cons] at all
      obtain ⟨smallA, smallB, smallC, smallD, -⟩ := all
      rw [decodeFrom_cons smallA smallB smallC smallD] at read
      cases later : decodeFrom (start + 4) (byte :: rest) with
      | error fault =>
        rw [later] at read
        cases read
      | ok others =>
        rw [later] at read
        cases read
        exact ⟨a, b, c, d, others, ⟨smallA, smallB, smallC, smallD⟩, rfl, rfl, rfl⟩

/-- A text is read from a place on when it encodes bytes. -/
theorem decodeFrom_eq_ok : decodeFrom start text = .ok bytes ↔ text = encode bytes := by
  induction start, text using decodeFrom.induct generalizing bytes with
  | case1 start first second third fourth fifth rest ih =>
    constructor
    · intro read
      obtain ⟨a, b, c, d, others, ⟨smallA, smallB, smallC, smallD⟩, symbols, later, rfl⟩ :=
        decodeFrom_front read
      cases symbols
      rw [encode_three smallA smallB smallC smallD, ← ih.mp later]
    · intro same
      match bytes with
      | [x] | [x, y] => simp [encode] at same
      | x :: y :: z :: others =>
        obtain ⟨a, b, c, d, smallA, smallB, smallC, smallD, rfl, rfl, rfl⟩ := exists_three x y z
        rw [encode_three smallA smallB smallC smallD] at same
        simp only [List.cons.injEq] at same
        obtain ⟨rfl, rfl, rfl, rfl, later⟩ := same
        rw [decodeFrom_cons smallA smallB smallC smallD, ih.mpr later]
        rfl
  | case2 start text short =>
    have few : text.length ≤ 4 := by
      refine Nat.le_of_not_lt fun many => ?_
      match text, short with
      | _ :: _ :: _ :: _ :: _ :: _, short => exact short _ _ _ _ _ _ rfl
      | [], _ | [_], _ | [_, _], _ | [_, _, _], _ | [_, _, _, _], _ =>
        simp only [List.length_cons, List.length_nil] at many
        omega
    rw [decodeFrom]
    · exact decodeLast_eq_ok few
    · exact short

/-- A text is decoded exactly when it encodes the bytes. -/
theorem decode_eq_ok : decode text = .ok bytes ↔ text = encode bytes := by
  have whole : decodeFrom 0 text = .ok bytes ↔ text = encode bytes := decodeFrom_eq_ok
  rw [decode]
  cases found : text.getLast? with
  | none =>
    obtain rfl := List.getLast?_eq_none_iff.mp found
    exact whole
  | some last =>
    dsimp only
    split
    · rename_i odd
      refine iff_of_false (fun read => by cases read) ?_
      rintro rfl
      have filled := encode_length bytes
      omega
    · exact whole

end

end Leasehold.Text.Base64
