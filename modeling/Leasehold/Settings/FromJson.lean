import Leasehold.Decimal.Shortest
import Leasehold.Json
import Leasehold.Settings.Document
/-!
Settings from a JSON value. The members of an object are taken in the order of their names, and of a
repeated name the last one counts.
-/
namespace Leasehold

namespace Json.Number

/-- The digits after the point of a number, and its exponent. -/
def tailParts (number : Number) : List Char × Int :=
  let fraction := match number.tail with
    | '.' :: rest => rest.takeWhile Char.isDigit
    | _ => []
  let exponent := number.tail.dropWhile fun c => c ≠ 'e' ∧ c ≠ 'E'
  let value := (exponent.filter Char.isDigit).foldl
    (fun value c => value * 10 + (c.toNat - '0'.toNat)) 0
  (fraction, if exponent.contains '-' then -(value : Int) else value)

/-- A number that is taken as a floating point one. One that is too large is shown as it is spelled. -/
def floating (number : Number) : List Char :=
  let (fraction, exponent) := number.tailParts
  match Decimal.read? (Nat.toDigits 10 number.whole) fraction exponent with
  | some binary => (if number.negative then ['-'] else []) ++ binary.chars
  | none => number.chars

/-- What a number is. Only those that fit a 64-bit word, or a signed one if they are negative, are
integers. -/
def description (number : Number) : String :=
  let isInteger := number.tail.isEmpty &&
    (if number.negative then number.whole != 0 && number.whole ≤ 9223372036854775808
     else number.whole < 18446744073709551616)
  if isInteger then "integer `" ++ String.ofList number.chars ++ "`"
  else "floating point `" ++ String.ofList number.floating ++ "`"

end Json.Number

namespace Document

/-- The settings format of JSON: lists must not be too long, and only null says nothing. -/
def jsonFormat : Format where
  refusesLongLists := true
  payload
    | .nothing => .ok ()
    | document => .error (document.wrongType "unit")

/-- Puts an entry into a table that is sorted by name, in place of one of the same name. -/
def insertSorted (entry : String × Document) : List (String × Document) → List (String × Document)
  | [] => [entry]
  | first :: entries =>
    if entry.1 = first.1 then entry :: entries
    else if entry.1 < first.1 then entry :: first :: entries
    else first :: insertSorted entry entries

mutual

/-- A JSON value as a document. A literal without a text counts as empty. -/
def ofJson : Json → Document
  | .null => .nothing
  | .bool value => .other (if value then "boolean `true`" else "boolean `false`")
  | .number value => .other value.description
  | .string value => .text (value.getD "")
  | .array items => .list (ofItems items)
  | .object members => .table (ofMembers members [])

/-- The items of a JSON array as documents. -/
def ofItems : List Json → List Document
  | [] => []
  | item :: items => ofJson item :: ofItems items

/-- The members of a JSON object as sorted entries, after those that are already sorted. -/
def ofMembers : List (Option String × Json) → List (String × Document) → List (String × Document)
  | [], sorted => sorted
  | (name, value) :: members, sorted =>
    ofMembers members (insertSorted (name.getD "", ofJson value) sorted)

end

end Document

/-- The settings that a JSON value holds, or why it holds none. -/
def Settings.ofJson (json : Json) : Except String Settings :=
  (Document.ofJson json).toSettings Document.jsonFormat

/-- The settings of an agent that a JSON value holds, or why it holds none. -/
def AgentSettings.ofJson (json : Json) : Except String AgentSettings :=
  (Document.ofJson json).toAgentSettings Document.jsonFormat

end Leasehold
