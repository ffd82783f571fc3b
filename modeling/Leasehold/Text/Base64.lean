/-!
Base64 with the standard alphabet and padding. Decoding accepts exactly what encoding produces, and
says of any other text what is wrong with it first.
-/
namespace Leasehold.Text.Base64

/-- What is wrong with a text. -/
inductive Fault where
  /-- A byte has no place where it stands. -/
  | invalidSymbol (offset : Nat) (byte : UInt8)
  /-- The last symbol has bits that no byte takes up. -/
  | invalidLastSymbol (offset : Nat) (byte : UInt8)
  /-- The text ends with a single symbol. -/
  | invalidLength (length : Nat)
  /-- The padding does not fill up the last four places. -/
  | invalidPadding
deriving DecidableEq, Repr

/-- The text of a fault. -/
def Fault.message : Fault → String
  | .invalidSymbol offset byte =>
    "Invalid symbol " ++ Nat.repr byte.toNat ++ ", offset " ++ Nat.repr offset ++ "."
  | .invalidLastSymbol offset byte =>
    "Invalid last symbol " ++ Nat.repr byte.toNat ++ ", offset " ++ Nat.repr offset ++ "."
  | .invalidLength length => "Invalid input length: " ++ Nat.repr length
  | .invalidPadding => "Invalid padding"

/-- The padding byte. -/
def pad : UInt8 := 61

/-- The symbol of a value below 64. -/
def symbol (value : Nat) : UInt8 :=
  if value < 26 then UInt8.ofNat (65 + value)
  else if value < 52 then UInt8.ofNat (97 + (value - 26))
  else if value < 62 then UInt8.ofNat (48 + (value - 52))
  else if value = 62 then 43
  else 47

/-- The value of a symbol. -/
def value? (byte : UInt8) : Option Nat :=
  let code := byte.toNat
  if 65 ≤ code ∧ code ≤ 90 then some (code - 65)
  else if 97 ≤ code ∧ code ≤ 122 then some (code - 97 + 26)
  else if 48 ≤ code ∧ code ≤ 57 then some (code - 48 + 52)
  else if code = 43 then some 62
  else if code = 47 then some 63
  else none

/-- The text for some bytes. -/
def encode : List UInt8 → List UInt8
  | [] => []
  | [a] => [symbol (a.toNat / 4), symbol (a.toNat % 4 * 16), pad, pad]
  | [a, b] =>
    [symbol (a.toNat / 4), symbol (a.toNat % 4 * 16 + b.toNat / 16), symbol (b.toNat % 16 * 4), pad]
  | a :: b :: c :: rest =>
    symbol (a.toNat / 4) :: symbol (a.toNat % 4 * 16 + b.toNat / 16)
      :: symbol (b.toNat % 16 * 4 + c.toNat / 64) :: symbol (c.toNat % 64) :: encode rest

/-- The values of symbols, up to the first byte that is none. -/
def values (offset : Nat) : List UInt8 → Except Fault (List Nat)
  | [] => .ok []
  | byte :: rest =>
    match value? byte with
    | some value => do
      let values ← values (offset + 1) rest
      .ok (value :: values)
    | none => .error (.invalidSymbol offset byte)

/-- The symbols and the number of padding bytes at the end of a text, whose last four places begin at
`start`. Padding has no place before the third of them, and nothing but padding may follow it. -/
def split (start : Nat) : Nat → List UInt8 → Except Fault (List Nat × Nat)
  | _, [] => .ok ([], 0)
  | index, byte :: rest =>
    if byte = pad then
      if index < 2 then .error (.invalidSymbol (start + index) byte)
      else if rest.all (· == pad) then .ok ([], rest.length + 1)
      else .error (.invalidSymbol (start + index) pad)
    else
      match value? byte with
      | some value => do
        let (values, padding) ← split start (index + 1) rest
        .ok (value :: values, padding)
      | none => .error (.invalidSymbol (start + index) byte)

/-- The bytes of the last places of a text, which begin at `start`. -/
def decodeLast (start : Nat) (bytes : List UInt8) : Except Fault (List UInt8) := do
  let (values, padding) ← split start 0 bytes
  if bytes ≠ [] ∧ values.length < 2 then .error (.invalidLength (start + values.length))
  else if (values.length + padding) % 4 ≠ 0 then .error .invalidPadding
  else
    match values with
    | [a, b] =>
      if b % 16 ≠ 0 then .error (.invalidLastSymbol (start + 1) (symbol b))
      else .ok [UInt8.ofNat (a * 4 + b / 16)]
    | [a, b, c] =>
      if c % 4 ≠ 0 then .error (.invalidLastSymbol (start + 2) (symbol c))
      else .ok [UInt8.ofNat (a * 4 + b / 16), UInt8.ofNat (b % 16 * 16 + c / 4)]
    | [a, b, c, d] =>
      .ok [UInt8.ofNat (a * 4 + b / 16), UInt8.ofNat (b % 16 * 16 + c / 4),
        UInt8.ofNat (c % 4 * 64 + d)]
    | _ => .ok []

/-- The bytes of a text from a place on. -/
def decodeFrom (start : Nat) : List UInt8 → Except Fault (List UInt8)
  | a :: b :: c :: d :: e :: rest => do
    let first ← values start [a, b, c, d]
    let bytes ← decodeFrom (start + 4) (e :: rest)
    match first with
    | [a, b, c, d] =>
      .ok (UInt8.ofNat (a * 4 + b / 16) :: UInt8.ofNat (b % 16 * 16 + c / 4)
        :: UInt8.ofNat (c % 4 * 64 + d) :: bytes)
    | _ => .ok bytes
  | bytes => decodeLast start bytes

/-- The bytes that a text stands for. A single byte too many at the end is looked at first. -/
def decode (text : List UInt8) : Except Fault (List UInt8) :=
  match text.getLast? with
  | some last =>
    if text.length % 4 = 1 ∧ last ≠ pad ∧ (value? last).isNone then
      .error (.invalidSymbol (text.length - 1) last)
    else decodeFrom 0 text
  | none => .ok []

example : decode (encode [0, 255, 16, 7]) = .ok [0, 255, 16, 7] := by rfl
example : decode [89, 81, 61] = .error .invalidPadding := by rfl
example : decode [89, 61, 61, 61] = .error (.invalidSymbol 1 61) := by rfl
example : decode [89, 87, 74, 61] = .error (.invalidLastSymbol 2 74) := by rfl

end Leasehold.Text.Base64
