import Leasehold.Text.Percent
import Leasehold.Text.Split
/-!
Tables of code points, in two forms.

1. A table that only says which code points are in it is an array of inclusive ranges in rising
   order, which is searched by halves.
2. A table that says something about each code point is written as text, one word for each row. The
   word `AA:61` gives the code point AA the value 61; a value may be several numbers with points
   between them, or nothing. The word `C0-D6:E0` is for a whole range, and `100/12E:101` for every
   second code point of one; the last number of the value grows with the code point. All numbers are
   hexadecimal.
-/
namespace Leasehold.Text

/-! ## Ranges -/

/-- Whether a code point lies in one of the ranges between two positions of a rising table. -/
def inRangesFrom (table : Array (Nat × Nat)) (code : Nat) : Nat → Nat → Nat → Bool
  | 0, _, _ => false
  | fuel + 1, low, high =>
    if low < high then
      let middle := (low + high) / 2
      match table[middle]? with
      | none => false
      | some (first, last) =>
        if code < first then inRangesFrom table code fuel low middle
        else if last < code then inRangesFrom table code fuel (middle + 1) high
        else true
    else false

/-- Whether a code point lies in one of the ranges of a rising table. -/
def inRanges (table : Array (Nat × Nat)) (code : Nat) : Bool :=
  inRangesFrom table code table.size 0 table.size

/-! ## Rows -/

/-- What a table says about some code points. -/
structure Row where
  /-- The first code point. -/
  first : Nat
  /-- The last code point. -/
  last : Nat
  /-- How far the code points are apart. -/
  step : Nat
  /-- The value of the first code point. -/
  value : List Nat
deriving DecidableEq, Repr

namespace Row

/-- Whether a row is about a code point. -/
def covers (row : Row) (code : Nat) : Bool :=
  row.first ≤ code && code ≤ row.last && (code - row.first) % row.step == 0

/-- The value of a row with its last number raised. -/
def raised (amount : Nat) : List Nat → List Nat
  | [] => []
  | [number] => [number + amount]
  | number :: numbers => number :: raised amount numbers

/-- The value of a code point that a row is about. -/
def valueAt (row : Row) (code : Nat) : List Nat := raised (code - row.first) row.value

/-- The number that hexadecimal digits stand for. -/
def hexNumber (digits : List Char) : Nat :=
  digits.foldl (fun number c => number * 16 + (hexValue? c).getD 0) 0

/-- Reads a row without its value. -/
def readSpan (text : List Char) : Row :=
  match splitAt '-' text, splitAt '/' text with
  | [first, last], _ => ⟨hexNumber first, hexNumber last, 1, []⟩
  | _, [first, last] => ⟨hexNumber first, hexNumber last, 2, []⟩
  | _, _ => ⟨hexNumber text, hexNumber text, 1, []⟩

/-- Reads a row. -/
def read (word : List Char) : Row :=
  match splitAt ':' word with
  | [span, []] => readSpan span
  | [span, value] => { readSpan span with value := (splitAt '.' value).map hexNumber }
  | _ => readSpan word

/-- The rows of a table, from its lines. -/
def table (lines : List String) : List Row :=
  lines.flatMap fun line => (splitAt ' ' line.toList).map read

/-- What a table says about a code point, if it says something. -/
def lookUp? (rows : List Row) (code : Nat) : Option (List Nat) :=
  (rows.find? (·.covers code)).map (·.valueAt code)

example : read "C0-D6:E0".toList = ⟨0xC0, 0xD6, 1, [0xE0]⟩ := by decide +kernel
example : lookUp? (table ["41/45:61.300 AD:"]) 0x43 = some [0x61, 0x302] := by decide +kernel
example : lookUp? (table ["41/45:61.300 AD:"]) 0x44 = none := by decide +kernel
example : lookUp? (table ["41/45:61.300 AD:"]) 0xAD = some [] := by decide +kernel

end Row

end Leasehold.Text
