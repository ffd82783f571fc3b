/-!
Bytes as UTF-8. Bytes that are no UTF-8 are not lost: `symbols` gives one hole for each longest run
of bytes that starts a character and does not end it, and for each byte that starts none. `lossy`
shows a hole as U+FFFD, and `decode?` refuses text with holes.
-/
namespace Leasehold.Text

/-- A character of a text, or a hole where the bytes are no UTF-8. -/
abbrev Symbol := Option Char

/-- Where a decoder stands between two bytes. -/
inductive Utf8State where
  /-- Before a character. -/
  | start
  /-- Inside a character: `left` bytes are missing, the next one lies between `low` and `high`. -/
  | inside (left code low high : Nat)

/-- What a byte means before a character. -/
inductive Utf8Lead where
  /-- It is a whole character. -/
  | whole (code : Nat)
  /-- It starts a character of several bytes. -/
  | opens (state : Utf8State)
  /-- It starts no character. -/
  | stray

/-- What a byte means before a character. Overlong forms, surrogates and code points beyond
U+10FFFF are shut out by narrower bounds for the second byte. -/
def utf8Lead (byte : Nat) : Utf8Lead :=
  if byte < 0x80 then .whole byte
  else if byte < 0xC2 then .stray
  else if byte < 0xE0 then .opens (.inside 1 (byte - 0xC0) 0x80 0xBF)
  else if byte = 0xE0 then .opens (.inside 2 0 0xA0 0xBF)
  else if byte = 0xED then .opens (.inside 2 0xD 0x80 0x9F)
  else if byte < 0xF0 then .opens (.inside 2 (byte - 0xE0) 0x80 0xBF)
  else if byte = 0xF0 then .opens (.inside 3 0 0x90 0xBF)
  else if byte < 0xF4 then .opens (.inside 3 (byte - 0xF0) 0x80 0xBF)
  else if byte = 0xF4 then .opens (.inside 3 4 0x80 0x8F)
  else .stray

/-- The symbols from a place between two bytes to the end. -/
def symbolsFrom : Utf8State → List UInt8 → List Symbol
  | .start, [] => []
  | .inside _ _ _ _, [] => [none]
  | .start, byte :: rest =>
    match utf8Lead byte.toNat with
    | .whole code => some (Char.ofNat code) :: symbolsFrom .start rest
    | .opens state => symbolsFrom state rest
    | .stray => none :: symbolsFrom .start rest
  | .inside left code low high, byte :: rest =>
    if low ≤ byte.toNat ∧ byte.toNat ≤ high then
      let code := code * 64 + (byte.toNat - 0x80)
      if left ≤ 1 then some (Char.ofNat code) :: symbolsFrom .start rest
      else symbolsFrom (.inside (left - 1) code 0x80 0xBF) rest
    else
      match utf8Lead byte.toNat with
      | .whole code => none :: some (Char.ofNat code) :: symbolsFrom .start rest
      | .opens state => none :: symbolsFrom state rest
      | .stray => none :: none :: symbolsFrom .start rest

/-- The characters and holes of some bytes. -/
def symbols (bytes : List UInt8) : List Symbol := symbolsFrom .start bytes

/-- The text of some bytes, with U+FFFD for each hole. -/
def lossy (bytes : List UInt8) : List Char := (symbols bytes).map (·.getD '\uFFFD')

/-- The text of some bytes, if they are UTF-8 throughout. -/
def decode? (bytes : List UInt8) : Option (List Char) := (symbols bytes).mapM id

/-- The bytes of a text. -/
def encode (text : String) : List UInt8 := text.toUTF8.data.toList

/-- The symbols of a text, without holes. -/
def symbolsOf (text : String) : List Symbol := text.toList.map some

example : lossy [0xFF, 0x41, 0xC3] = ['\uFFFD', 'A', '\uFFFD'] := by decide
example : lossy [0xED, 0xA0, 0x80] = ['\uFFFD', '\uFFFD', '\uFFFD'] := by decide
example : lossy [0xE2, 0x82] = ['\uFFFD'] := by decide
example : lossy [0xF0, 0x90, 0x80, 0x00] = ['\uFFFD', '\x00'] := by decide

end Leasehold.Text
