/-!
Punycode, the form of a label with characters beyond ASCII in a host name. The ASCII characters come
first, then the others in rising order, each as the distance from the one before in a variable-length
number to base 36, whose thresholds adapt to the distances seen so far.
-/
namespace Leasehold.Text.Punycode

/-- The digit of a value below 36: a letter, then a decimal digit. -/
def digit (value : Nat) : Char :=
  if value < 26 then Char.ofNat ('a'.toNat + value) else Char.ofNat ('0'.toNat + (value - 26))

/-- The threshold of the digit at a place. -/
def threshold (place bias : Nat) : Nat :=
  if place ≤ bias then 1 else min 26 (place - bias)

/-- Divides a distance by 35 until it is small, and counts 36 for each time. -/
def shrink : Nat → Nat → Nat → Nat × Nat
  | 0, distance, count => (distance, count)
  | fuel + 1, distance, count =>
    if 455 < distance then shrink fuel (distance / 35) (count + 36) else (distance, count)

/-- The bias after a distance, when so many characters are written. -/
def adapt (distance written : Nat) (isFirst : Bool) : Nat :=
  let distance := if isFirst then distance / 700 else distance / 2
  let (distance, count) := shrink (distance + 1) (distance + distance / written) 0
  count + 36 * distance / (distance + 38)

/-- A distance as a variable-length number. -/
def number (bias : Nat) : Nat → Nat → Nat → List Char
  | 0, _, _ => []
  | fuel + 1, place, value =>
    let t := threshold place bias
    if value < t then [digit value]
    else digit (t + (value - t) % (36 - t)) :: number bias fuel (place + 36) ((value - t) / (36 - t))

/-- An encoder between two characters. -/
structure Encoder where
  /-- The digits so far. -/
  digits : List Char := []
  /-- The distance from the last character that was written. -/
  distance : Nat := 0
  /-- The present bias. -/
  bias : Nat := 72
  /-- How many characters are written. -/
  written : Nat

/-- Passes one character of the label, while the code point `code` is being written. -/
def Encoder.pass (basic code : Nat) (encoder : Encoder) (c : Char) : Encoder :=
  if c.toNat < code then { encoder with distance := encoder.distance + 1 }
  else if c.toNat = code then
    { digits :=
        encoder.digits ++ number encoder.bias (encoder.distance + 1) 36 encoder.distance
      distance := 0
      bias := adapt encoder.distance (encoder.written + 1) (encoder.written = basic)
      written := encoder.written + 1 }
  else encoder

/-- Writes the code points of a label one after the other, beginning with `from`. -/
def Encoder.run (label : List Char) (basic : Nat) : Nat → List Nat → Encoder → Encoder
  | _, [], encoder => encoder
  | start, code :: codes, encoder =>
    let distance := encoder.distance + (code - start) * (encoder.written + 1)
    let encoder := label.foldl (Encoder.pass basic code) { encoder with distance }
    run label basic (code + 1) codes { encoder with distance := encoder.distance + 1 }

/-- Puts a code point into a rising list without repetitions. -/
def insertCode (code : Nat) : List Nat → List Nat
  | [] => [code]
  | first :: codes =>
    if code < first then code :: first :: codes
    else if code = first then first :: codes
    else first :: insertCode code codes

/-- The form of a label. -/
def encode (label : List Char) : List Char :=
  let basic := label.filter (·.toNat < 128)
  let codes := (label.filter (128 ≤ ·.toNat)).foldl (fun codes c => insertCode c.toNat codes) []
  let encoder := Encoder.run label basic.length 128 codes { written := basic.length }
  (if basic.isEmpty then [] else basic ++ ['-']) ++ encoder.digits

/-! ## Reading -/

/-- The value of a digit. -/
def digitValue? (c : Char) : Option Nat :=
  if 'a' ≤ c ∧ c ≤ 'z' then some (c.toNat - 'a'.toNat)
  else if '0' ≤ c ∧ c ≤ '9' then some (c.toNat - '0'.toNat + 26)
  else none

/-- A number that fits a word of 32 bits. -/
def word? (number : Nat) : Option Nat := if number < 4294967296 then some number else none

/-- Reads a variable-length number onto a sum, from the digit at a place that counts `weight`, and
gives the rest of the text. -/
def readNumber? (bias : Nat) : List Char → Nat → Nat → Nat → Option (Nat × List Char)
  | [], _, _, _ => none
  | c :: rest, place, weight, sum => do
    let digit ← digitValue? c
    let sum ← word? (sum + digit * weight)
    let t := threshold place bias
    if digit < t then some (sum, rest)
    else do
      let weight ← word? (weight * (36 - t))
      readNumber? bias rest (place + 36) weight sum

/-- A number has at least one digit. -/
theorem readNumber?_shorter {bias : Nat} {text : List Char} {place weight sum : Nat}
    {found : Nat × List Char} (read : readNumber? bias text place weight sum = some found) :
    found.2.length < text.length := by
  induction text generalizing place weight sum with
  | nil => simp [readNumber?] at read
  | cons c rest ih =>
    simp only [readNumber?, Option.bind_eq_bind, Option.bind_eq_some_iff] at read
    obtain ⟨digit, -, total, -, read⟩ := read
    by_cases isLast : digit < threshold place bias
    · simp only [isLast, ↓reduceIte, Option.some.injEq] at read
      simp [← read]
    · simp only [isLast, ↓reduceIte, Option.bind_eq_some_iff] at read
      obtain ⟨heavier, -, read⟩ := read
      have := ih read
      simp only [List.length_cons]
      omega

/-- The character with a code point. -/
def charAt? (code : Nat) : Option Char :=
  if code.isValidChar then some (Char.ofNat code) else none

/-- Reads the distances in a text one after the other, and puts the characters that they stand for
among those that were read before. The last character had the code point `code` and stands before
`position`. -/
def insertAll (bias code position : Nat) (label text : List Char) : Option (List Char) :=
  if text.isEmpty then some label
  else
    match _read : readNumber? bias text 36 1 position with
    | none => none
    | some (sum, rest) =>
      let count := label.length + 1
      let code := code + sum / count
      match charAt? code with
      | none => none
      | some c =>
        insertAll (adapt (sum - position) count (position = 0)) code (sum % count + 1)
          (label.insertIdx (sum % count) c) rest
termination_by text.length
decreasing_by exact readNumber?_shorter _read

/-- The label of a form, if it is one. -/
def decode? (form : List Char) : Option (List Char) :=
  let digits := (form.reverse.takeWhile (· ≠ '-')).reverse
  let basic := form.take (form.length - digits.length - 1)
  if basic.isEmpty then insertAll 72 128 0 [] form else insertAll 72 128 0 basic digits

example : encode "bücher".toList = "bcher-kva".toList := by decide +kernel
example : encode "münchen".toList = "mnchen-3ya".toList := by decide +kernel
example : encode "日本語".toList = "wgv71a119e".toList := by decide +kernel
example : decode? "bcher-kva".toList = some "bücher".toList := by decide +kernel
example : decode? "wgv71a119e".toList = some "日本語".toList := by decide +kernel
example : decode? "-kva".toList = none := by decide +kernel
example : decode? "9999999".toList = none := by decide +kernel

end Leasehold.Text.Punycode
