import Leasehold.Text.Utf8
/-!
Percent-encoding. A character that must not stand for itself is written as its UTF-8 bytes, each as a
percent sign and two upper-case hexadecimal digits. Decoding gives bytes; a percent sign without two
digits after it stands for itself.
-/
namespace Leasehold.Text

/-- An upper-case hexadecimal digit. -/
def upperHex (value : Nat) : Char := (Nat.digitChar value).toUpper

/-- The value of a hexadecimal digit of either case. -/
def hexValue? (c : Char) : Option Nat :=
  if '0' ≤ c ∧ c ≤ '9' then some (c.toNat - '0'.toNat)
  else if 'a' ≤ c ∧ c ≤ 'f' then some (c.toNat - 'a'.toNat + 10)
  else if 'A' ≤ c ∧ c ≤ 'F' then some (c.toNat - 'A'.toNat + 10)
  else none

/-- The bytes of a character. -/
def charBytes (c : Char) : List UInt8 := String.utf8EncodeChar c

/-- One byte in percent-encoded form. -/
def percentByte (byte : UInt8) : List Char :=
  ['%', upperHex (byte.toNat / 16), upperHex (byte.toNat % 16)]

/-- A text with those characters percent-encoded that must not stand for themselves. -/
def percentEncode (mustEncode : Char → Bool) (text : List Char) : List Char :=
  text.flatMap fun c => if mustEncode c then (charBytes c).flatMap percentByte else [c]

/-- The byte of two hexadecimal digits in front of a text, and the rest after them. -/
def hexPair? : List Char → Option (UInt8 × List Char)
  | high :: low :: rest => do
    let high ← hexValue? high
    let low ← hexValue? low
    some (UInt8.ofNat (high * 16 + low), rest)
  | _ => none

theorem hexPair?_shorter {text : List Char} {byte : UInt8} {rest : List Char}
    (found : hexPair? text = some (byte, rest)) : rest.length < text.length := by
  unfold hexPair? at found
  split at found
  · simp only [Option.bind_eq_bind, Option.bind_eq_some_iff, Option.some.injEq, Prod.mk.injEq]
      at found
    obtain ⟨_, _, _, _, _, rfl⟩ := found
    simp only [List.length_cons]
    omega
  · cases found

/-- The bytes that a percent-encoded text stands for. -/
def percentDecode : List Char → List UInt8
  | [] => []
  | c :: rest =>
    if c = '%' then
      match _found : hexPair? rest with
      | some (byte, after) => byte :: percentDecode after
      | none => charBytes c ++ percentDecode rest
    else charBytes c ++ percentDecode rest
termination_by text => text.length
decreasing_by
  · have := hexPair?_shorter _found
    simp only [List.length_cons]
    omega
  · simp
  · simp

end Leasehold.Text
