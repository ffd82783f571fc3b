import Leasehold.Json
import Leasehold.Text.Utf8
/-!
Reading a JSON text. The reader takes symbols, so that it can be given bytes that are no UTF-8 in
places: a hole is an error between tokens, and inside a string literal it only takes the literal's
text away. A text is read if it is one value with blanks around it.
-/
namespace Leasehold.Json

open Text (Symbol)

/-- Whether a character may stand between tokens. -/
def isSpace (c : Char) : Bool := c == ' ' || c == '\t' || c == '\n' || c == '\r'

/-- The symbols after the blanks in front. -/
def skip : List Symbol → List Symbol
  | some c :: rest => if isSpace c then skip rest else some c :: rest
  | rest => rest

/-- The rest after a word that must come next. -/
def expect? : List Char → List Symbol → Option (List Symbol)
  | [], rest => some rest
  | c :: word, some d :: rest => if c = d then expect? word rest else none
  | _ :: _, _ => none

/-! ## Strings -/

/-- The value of a hexadecimal digit. -/
def hexDigit? (c : Char) : Option Nat :=
  if '0' ≤ c ∧ c ≤ '9' then some (c.toNat - '0'.toNat)
  else if 'a' ≤ c ∧ c ≤ 'f' then some (c.toNat - 'a'.toNat + 10)
  else if 'A' ≤ c ∧ c ≤ 'F' then some (c.toNat - 'A'.toNat + 10)
  else none

/-- The value of four hexadecimal digits. -/
def unit? (a b c d : Symbol) : Option Nat := do
  let a ← a.bind hexDigit?
  let b ← b.bind hexDigit?
  let c ← c.bind hexDigit?
  let d ← d.bind hexDigit?
  some (a * 4096 + b * 256 + c * 16 + d)

/-- The text of a literal as far as it was read, last character first; `high` is a high surrogate
that waits for its low half. `broken` stands for no text. -/
inductive Partial where
  | good (chars : List Char)
  | high (chars : List Char) (unit : Nat)
  | broken

/-- A character follows. -/
def Partial.push (c : Char) : Partial → Partial
  | .good chars => .good (c :: chars)
  | _ => .broken

/-- An escaped 16-bit unit follows. -/
def Partial.pushUnit (unit : Nat) : Partial → Partial
  | .good chars =>
    if 0xD800 ≤ unit ∧ unit < 0xDC00 then .high chars unit
    else if 0xDC00 ≤ unit ∧ unit < 0xE000 then .broken
    else .good (Char.ofNat unit :: chars)
  | .high chars first =>
    if 0xDC00 ≤ unit ∧ unit < 0xE000 then
      .good (Char.ofNat (0x10000 + (first - 0xD800) * 0x400 + (unit - 0xDC00)) :: chars)
    else .broken
  | .broken => .broken

/-- The text of a literal at its end. -/
def Partial.finish : Partial → Option String
  | .good chars => some (String.ofList chars.reverse)
  | _ => none

/-- What a character stands for after a backslash. -/
def escaped? (c : Char) : Option Char :=
  if c = '"' ∨ c = '\\' ∨ c = '/' then some c
  else if c = 'b' then some '\x08'
  else if c = 'f' then some '\x0C'
  else if c = 'n' then some '\n'
  else if c = 'r' then some '\r'
  else if c = 't' then some '\t'
  else none

/-- Reads a string literal after its opening quote. -/
def literal? : Partial → List Symbol → Option (Option String × List Symbol)
  | _, [] => none
  | _, none :: rest => literal? .broken rest
  | text, some c :: rest =>
    if c = '"' then some (text.finish, rest)
    else if c = '\\' then
      match rest with
      | some e :: rest =>
        if e = 'u' then
          match rest with
          | a :: b :: c :: d :: rest =>
            match unit? a b c d with
            | some unit => literal? (text.pushUnit unit) rest
            | none => none
          | _ => none
        else
          match escaped? e with
          | some c => literal? (text.push c) rest
          | none => none
      | _ => none
    else if c.toNat < 0x20 then none
    else literal? (text.push c) rest

/-! ## Numbers -/

/-- A run of digits and what follows it. -/
def digits : List Symbol → List Char × List Symbol
  | some c :: rest =>
    if c.isDigit then
      let (run, rest) := digits rest
      (c :: run, rest)
    else ([], some c :: rest)
  | rest => ([], rest)

/-- The number that a run of digits denotes. -/
def decimalValue (run : List Char) : Nat :=
  run.foldl (fun value c => value * 10 + (c.toNat - '0'.toNat)) 0

/-- The fraction of a number, with its point, if there is one. -/
def fraction? : List Symbol → Option (List Char × List Symbol)
  | some c :: rest =>
    if c = '.' then
      match digits rest with
      | ([], _) => none
      | (run, rest) => some ('.' :: run, rest)
    else some ([], some c :: rest)
  | rest => some ([], rest)

/-- The sign of an exponent, if there is one. -/
def exponentSign : List Symbol → List Char × List Symbol
  | some c :: rest => if c = '+' ∨ c = '-' then ([c], rest) else ([], some c :: rest)
  | rest => ([], rest)

/-- The exponent of a number, with its letter and sign, if there is one. -/
def exponent? : List Symbol → Option (List Char × List Symbol)
  | some c :: rest =>
    if c = 'e' ∨ c = 'E' then
      let (sign, rest) := exponentSign rest
      match digits rest with
      | ([], _) => none
      | (run, rest) => some (c :: sign ++ run, rest)
    else some ([], some c :: rest)
  | rest => some ([], rest)

/-- Reads a number after its sign. A leading zero stands alone before the point. -/
def number? (negative : Bool) (input : List Symbol) : Option (Number × List Symbol) :=
  let (run, rest) := digits input
  if run.isEmpty || (run.head? == some '0' && run.length != 1) then none
  else do
    let (fraction, rest) ← fraction? rest
    let (exponent, rest) ← exponent? rest
    some (⟨negative, decimalValue run, fraction ++ exponent⟩, rest)

/-! ## Values -/

/-- Reads a value without parts, after its first character and for a character that opens neither
an array nor an object. -/
def scalar? (first : Char) (rest : List Symbol) : Option (Json × List Symbol) :=
  if first = '"' then
    (literal? (.good []) rest).map fun (text, rest) => (.string text, rest)
  else if first = 'n' then (expect? ['u', 'l', 'l'] rest).map (.null, ·)
  else if first = 't' then (expect? ['r', 'u', 'e'] rest).map (.bool true, ·)
  else if first = 'f' then (expect? ['a', 'l', 's', 'e'] rest).map (.bool false, ·)
  else if first = '-' then
    (number? true rest).map fun (value, rest) => (.number value, rest)
  else
    (number? false (some first :: rest)).map fun (value, rest) => (.number value, rest)

/-- Whether the next symbol after blanks is this character, and the rest if it is. -/
def next? (c : Char) (input : List Symbol) : Option (List Symbol) := expect? [c] (skip input)

mutual

/-- Reads a value, with blanks before it. -/
def value? : Nat → List Symbol → Option (Json × List Symbol)
  | 0, _ => none
  | fuel + 1, input =>
    match skip input with
    | some c :: rest =>
      if c = '\x7b' then
        match next? '\x7d' rest with
        | some rest => some (.object [], rest)
        | none => (members? fuel rest).map fun (members, rest) => (.object members, rest)
      else if c = '[' then
        match next? ']' rest with
        | some rest => some (.array [], rest)
        | none => (items? fuel rest).map fun (items, rest) => (.array items, rest)
      else scalar? c rest
    | _ => none

/-- Reads the items of an array and its end. -/
def items? : Nat → List Symbol → Option (List Json × List Symbol)
  | 0, _ => none
  | fuel + 1, input =>
    match value? fuel input with
    | none => none
    | some (item, rest) =>
      match next? ',' rest with
      | some rest => (items? fuel rest).map fun (items, rest) => (item :: items, rest)
      | none => (next? ']' rest).map ([item], ·)

/-- Reads the members of an object and its end. -/
def members? : Nat → List Symbol → Option (List (Option String × Json) × List Symbol)
  | 0, _ => none
  | fuel + 1, input => do
    let rest ← next? '"' input
    let (name, rest) ← literal? (.good []) rest
    let rest ← next? ':' rest
    let (value, rest) ← value? fuel rest
    match next? ',' rest with
    | some rest => (members? fuel rest).map fun (members, rest) => ((name, value) :: members, rest)
    | none => (next? '\x7d' rest).map ([(name, value)], ·)

end

/-- The value of a whole text. Each value and each item takes at least one symbol, so twice the
length is enough fuel. -/
def read? (input : List Symbol) : Option Json :=
  match value? (2 * input.length + 2) input with
  | some (value, rest) => if (skip rest).isEmpty then some value else none
  | none => none

/-- The value of a text. -/
def ofString? (text : String) : Option Json := read? (Text.symbolsOf text)

/-- The value of a body of bytes. -/
def ofBytes? (bytes : List UInt8) : Option Json := read? (Text.symbols bytes)

example : ((ofString? "[1, \x7b\x22a\x22: null\x7d]").map render) = some "[1,\x7b\x22a\x22:null\x7d]" := by
  decide +kernel
example : (ofString? "[1,]").isNone := by decide +kernel
example : (ofString? "01").isNone := by decide +kernel

end Leasehold.Json
