/-!
JSON values and their compact text. Members of an object keep their order and may repeat a name. A
number keeps its spelling, so that `1` and `1.0` stay apart. A string literal may be well formed and
still stand for no text, because of a lone surrogate or of bytes that are no UTF-8; such a literal
is a value too, and only who asks for its text is refused.
-/
namespace Leasehold

namespace Json

/-- A number as it is spelled. -/
structure Number where
  /-- Whether a minus sign stands in front. -/
  negative : Bool
  /-- The digits before the point, which have no leading zeros. -/
  whole : Nat
  /-- The point, the fraction and the exponent, as far as they are there. -/
  tail : List Char
deriving DecidableEq, Repr

end Json

/-- A JSON value. -/
inductive Json where
  | null
  | bool (value : Bool)
  | number (value : Json.Number)
  /-- A string literal with the text that it stands for, if any. -/
  | string (text : Option String)
  | array (items : List Json)
  | object (members : List (Option String × Json))

namespace Json

/-- A string that stands for this text. -/
def text (value : String) : Json := .string (some value)

/-- A whole number. -/
def nat (value : Nat) : Json := .number ⟨false, value, []⟩

/-- An object with these members. -/
def record (members : List (String × Json)) : Json :=
  .object (members.map fun (name, value) => (some name, value))

/-! ## Writing -/

/-- One character of a string literal. -/
def escapeChar (c : Char) : List Char :=
  if c = '"' then ['\\', '"']
  else if c = '\\' then ['\\', '\\']
  else if c = '\x08' then ['\\', 'b']
  else if c = '\t' then ['\\', 't']
  else if c = '\n' then ['\\', 'n']
  else if c = '\x0C' then ['\\', 'f']
  else if c = '\r' then ['\\', 'r']
  else if c.toNat < 0x20 then
    ['\\', 'u', '0', '0', Nat.digitChar (c.toNat / 16), Nat.digitChar (c.toNat % 16)]
  else [c]

/-- A string literal for a text. A literal without a text is written as a lone surrogate, which
stands for none again. -/
def literal : Option String → List Char
  | some value => '"' :: value.toList.flatMap escapeChar ++ ['"']
  | none => ['"', '\\', 'u', 'd', '8', '0', '0', '"']

/-- A number as it is spelled. -/
def Number.chars (value : Number) : List Char :=
  (if value.negative then ['-'] else []) ++ Nat.toDigits 10 value.whole ++ value.tail

mutual

/-- The compact text of a value. -/
def chars : Json → List Char
  | .null => ['n', 'u', 'l', 'l']
  | .bool true => ['t', 'r', 'u', 'e']
  | .bool false => ['f', 'a', 'l', 's', 'e']
  | .number value => value.chars
  | .string value => literal value
  | .array [] => ['[', ']']
  | .array (item :: items) => '[' :: (chars item ++ itemChars items)
  | .object [] => ['\x7b', '\x7d']
  | .object ((name, value) :: members) =>
    '\x7b' :: (literal name ++ ':' :: (chars value ++ memberChars members))

/-- The rest of an array after an item. -/
def itemChars : List Json → List Char
  | [] => [']']
  | item :: items => ',' :: (chars item ++ itemChars items)

/-- The rest of an object after a member. -/
def memberChars : List (Option String × Json) → List Char
  | [] => ['\x7d']
  | (name, value) :: members =>
    ',' :: (literal name ++ ':' :: (chars value ++ memberChars members))

end

/-- The compact text of a value. -/
def render (json : Json) : String := String.ofList json.chars

/-! ## Looking inside -/

/-- The text of a string. -/
def text? : Json → Option String
  | .string value => value
  | _ => none

/-- A number that is spelled as a whole one without a sign and fits a 64-bit word. -/
def word? : Json → Option Nat
  | .number ⟨false, value, []⟩ => if value < 18446744073709551616 then some value else none
  | _ => none

/-- The value of a member, if the object has exactly one of that name. The outer `none` says that
the name is repeated. -/
def single? (members : List (Option String × Json)) (name : String) : Option (Option Json) :=
  match members.filter fun (found, _) => found == some name with
  | [] => some none
  | [(_, value)] => some (some value)
  | _ => none

/-- The values that a record has for its field names, in their order. An object gives them by name:
other names are ignored, but each name must stand for a text and no field may be repeated. An array
gives them by position, and must not be longer than the list of names. -/
def fields? (names : List String) : Json → Option (List (Option Json))
  | .object members =>
    if members.all fun (name, _) => name.isSome then names.mapM (single? members) else none
  | .array items =>
    if items.length ≤ names.length then
      some (items.map some ++ List.replicate (names.length - items.length) none)
    else none
  | _ => none

end Json

end Leasehold
