import Leasehold.Domain
import Leasehold.Url
/-!
Reading the host of a URL.

1. Brackets hold an address of eight pieces in hexadecimal, where two colons stand for a run of zeros
   and the last two pieces may be an address of four bytes.
2. Everything else is percent-decoded and read as a domain name. If its last part is a number, it is
   an address of up to four numbers, each decimal, octal after a "0" or hexadecimal after "0x".
3. The hosts of URLs with other schemes are taken as they are, but for a few characters that have no
   place in them.
-/
namespace Leasehold.Url

/-- The value of digits to a base. Other characters are refused. -/
def digits? (base : Nat) (text : List Char) : Option Nat :=
  text.foldlM (fun value c =>
    match Text.hexValue? c with
    | some digit => if digit < base then some (value * base + digit) else none
    | none => none) 0

/-! ## Addresses of four bytes -/

/-- A number of an address: decimal, octal or hexadecimal. -/
def addressNumber? (text : List Char) : Option Nat :=
  if text.isEmpty then none
  else if text.take 2 = ['0', 'x'] ∨ text.take 2 = ['0', 'X'] then digits? 16 (text.drop 2)
  else if 2 ≤ text.length ∧ text.head? = some '0' then digits? 8 (text.drop 1)
  else digits? 10 text

/-- The parts of a name or an address between its dots, without an empty one at the end. -/
def dotParts (text : List Char) : List (List Char) :=
  let parts := Text.splitAt '.' text
  if parts.getLast? = some [] ∧ 1 < parts.length then parts.dropLast else parts

/-- Whether the last part of a host is a number. -/
def endsInNumber (text : List Char) : Bool :=
  match (dotParts text).getLast? with
  | some last => (!last.isEmpty && last.all Char.isDigit) || (addressNumber? last).isSome
  | none => false

/-- An address of up to four numbers. The last one fills all bytes that are left. -/
def ipv4? (text : List Char) : Option Nat := do
  let parts := dotParts text
  if 4 < parts.length then none
  else
    let numbers ← parts.mapM addressNumber?
    let last ← numbers.getLast?
    let first := numbers.dropLast
    if Nat.pow 256 (4 - first.length) ≤ last ∨ first.any (255 < ·) then none
    else some (first.zipIdx.foldl (fun sum (number, index) => sum + number * Nat.pow 256 (3 - index)) last)

/-! ## Addresses of eight pieces -/

/-- A piece in hexadecimal. -/
def piece? (text : List Char) : Option Nat :=
  if text.isEmpty ∨ 4 < text.length then none else digits? 16 text

/-- A byte in decimal, without leading zeros. -/
def byte? (text : List Char) : Option Nat :=
  if text.isEmpty ∨ (text.head? = some '0' ∧ 1 < text.length) then none
  else (digits? 10 text).filter (· < 256)

/-- The pieces at the end of an address, which may be written as four bytes. -/
def lastPieces? (text : List Char) : Option (List Nat) :=
  if text.contains '.' then
    match (Text.splitAt '.' text).mapM byte? with
    | some [a, b, c, d] => some [a * 256 + b, c * 256 + d]
    | _ => none
  else (piece? text).map fun value => [value]

/-- Pieces with colons between them. Nothing at all is no piece. -/
def pieces? (text : List Char) : Option (List Nat) :=
  if text.isEmpty then some []
  else do
    let parts := Text.splitAt ':' text
    let first ← parts.dropLast.mapM piece?
    let last ← lastPieces? (parts.getLast?.getD [])
    some (first ++ last)

/-- The texts before and after the first two colons in a row. -/
def splitAtRun? : List Char → Option (List Char × List Char)
  | ':' :: ':' :: rest => some ([], rest)
  | c :: rest => (splitAtRun? rest).map fun (before, after) => (c :: before, after)
  | [] => none

/-- An address of eight pieces. -/
def ipv6? (text : List Char) : Option (List Nat) :=
  match splitAtRun? text with
  | some (before, after) => do
    let first ← if before.contains '.' then none else pieces? before
    let last ← pieces? after
    if first.length + last.length < 8 then
      some (first ++ List.replicate (8 - first.length - last.length) 0 ++ last)
    else none
  | none => (pieces? text).filter (·.length = 8)

/-! ## Hosts -/

/-- The host of a URL with a special scheme. -/
def host? (text : List Char) : Option Host :=
  match text with
  | '[' :: rest =>
    if rest.getLast? = some ']' then (ipv6? rest.dropLast).map .ipv6 else none
  | text => do
    let name ← Domain.toAscii? (Text.lossy (Text.percentDecode text))
    if name.isEmpty then none
    else if endsInNumber name then (ipv4? name).map .ipv4
    else some (.domain name)

/-- Whether a character has no place in the host of a URL with another scheme. -/
def isForbiddenElsewhere (c : Char) : Bool := "\x00\t\n\r #/:<>?@[\\]^|".toList.contains c

/-- The host of a URL with another scheme. -/
def plainHost? (text : List Char) : Option Host :=
  match text with
  | '[' :: rest =>
    if rest.getLast? = some ']' then (ipv6? rest.dropLast).map .ipv6 else none
  | text =>
    if text.any isForbiddenElsewhere then none
    else some (.domain (Text.percentEncode (fun c => c.toNat < 0x20 || 0x7F ≤ c.toNat) text))

example : host? "HOST.Example".toList = some (.domain "host.example".toList) := by decide +kernel
example : host? "0x7f.1".toList = some (.ipv4 2130706433) := by decide +kernel
example : host? "1.2.3.256".toList = none := by decide +kernel
example : host? "[::1]".toList = some (.ipv6 [0, 0, 0, 0, 0, 0, 0, 1]) := by decide +kernel
example : host? "[1::2::3]".toList = none := by decide +kernel

end Leasehold.Url
