import Leasehold.Duration
import Leasehold.Text.Blank
/-!
Spans as people write them in settings: numbers with units, such as `1m 30s` or `1.5h`.

1. `read?` takes a run of items. An item is a number, which may have a decimal fraction, and a unit.
   Blanks may stand before an item, between a number and its unit, and inside a number. The text
   `0` needs no unit.
2. All sums and products must fit a 64-bit word. A fraction must come out as a whole number of
   nanoseconds for units up to a minute, and as a whole number of seconds for longer units. There are
   no fractions of nanoseconds, not even zero ones.
3. `spell` writes a span from years down to nanoseconds, leaves out what is zero, and writes the
   empty span as `0s`.
-/
namespace Leasehold.Duration

/-- The units of a spelled span. -/
inductive TimeUnit where
  | nanosecond
  | microsecond
  | millisecond
  | second
  | minute
  | hour
  | day
  | week
  | month
  | year
deriving DecidableEq, Repr

namespace TimeUnit

/-- The unit that has this name. Names are case-sensitive: `m` is a minute and `M` a month. -/
def ofName? (name : List Char) : Option TimeUnit :=
  match String.ofList name with
  | "ns" | "nsec" | "nanos" => some .nanosecond
  | "us" | "usec" | "µs" => some .microsecond
  | "ms" | "msec" | "millis" => some .millisecond
  | "s" | "sec" | "secs" | "second" | "seconds" => some .second
  | "m" | "min" | "mins" | "minute" | "minutes" => some .minute
  | "h" | "hr" | "hrs" | "hour" | "hours" => some .hour
  | "d" | "day" | "days" => some .day
  | "w" | "wk" | "wks" | "week" | "weeks" => some .week
  | "M" | "month" | "months" => some .month
  | "y" | "yr" | "yrs" | "year" | "years" => some .year
  | _ => none

/-- The length of a unit of whole seconds, in seconds. Shorter units have none. -/
def secs : TimeUnit → Nat
  | .nanosecond | .microsecond | .millisecond => 0
  | .second => 1
  | .minute => 60
  | .hour => 3600
  | .day => 86400
  | .week => 604800
  | .month => 2630016
  | .year => 31557600

/-- The length of a unit below a second, in nanoseconds. Longer units have none. -/
def subsecNanos : TimeUnit → Nat
  | .nanosecond => 1
  | .microsecond => 1000
  | .millisecond => 1000000
  | _ => 0

/-- Whether a fraction of the unit is counted in nanoseconds and not in seconds. -/
def isFine : TimeUnit → Bool
  | .nanosecond | .microsecond | .millisecond | .second | .minute => true
  | _ => false

end TimeUnit

/-- A decimal fraction as it was read: its digits as a number and the power of ten below them. -/
structure Fraction where
  /-- The digits after the point. -/
  digits : Nat
  /-- Ten to the number of digits after the point. -/
  scale : Nat
deriving DecidableEq, Repr

/-- One item of a spelled span. -/
structure Item where
  /-- The number before the point. -/
  whole : Nat
  /-- What stands after the point, if there is a point. -/
  fraction : Option Fraction
  /-- The unit of the number. -/
  unit : TimeUnit
deriving DecidableEq, Repr

/-- A number, if it fits a 64-bit word. -/
def word? (number : Nat) : Option Nat :=
  if number < 18446744073709551616 then some number else none

/-- Adds seconds and nanoseconds, each of them a 64-bit word, to a span. -/
def add? (span : Duration) (secs nanos : Nat) : Option Duration := do
  let secs ← word? secs
  let nanos ← word? nanos
  let low ← word? (span.subsecNanos + nanos)
  ofNanos? ((span.secs + secs) * 1000000000 + low)

/-- Adds the whole part of an item to a span. -/
def addWhole? (span : Duration) (item : Item) : Option Duration :=
  span.add? (item.whole * item.unit.secs) (item.whole * item.unit.subsecNanos)

/-- Adds the fraction of an item to a span, if it comes out even. -/
def addFraction? (span : Duration) (unit : TimeUnit) (fraction : Fraction) : Option Duration := do
  let length := if unit.isFine then unit.secs * 1000000000 + unit.subsecNanos else unit.secs
  let amount ← word? (fraction.digits * length)
  if amount % fraction.scale ≠ 0 then none
  else if unit.isFine then span.add? 0 (amount / fraction.scale)
  else span.add? (amount / fraction.scale) 0

/-- Adds an item to a span: first its whole part, then its fraction. -/
def addItem? (span : Duration) (item : Item) : Option Duration := do
  let span ← span.addWhole? item
  match item.fraction with
  | none => some span
  | some fraction =>
    if item.unit = .nanosecond then none else span.addFraction? item.unit fraction

/-! ## Reading -/

/-- Whether a character belongs to a unit's name. -/
def isUnitLetter (c : Char) : Bool := c.isAlpha || c == 'µ'

/-- The value of a decimal digit. -/
def digit? (c : Char) : Option Nat :=
  if c.isDigit then some (c.toNat - '0'.toNat) else none

/-- Where a reader of items stands. -/
inductive Place where
  /-- Before an item: blanks may follow, then a digit. -/
  | gap
  /-- In the digits before the point. -/
  | whole (number : Nat)
  /-- In the digits after the point. -/
  | fraction (number : Nat) (read : Fraction)
  /-- In the unit's name, of which the letters so far are kept with the last one first. -/
  | unit (number : Nat) (read : Option Fraction) (letters : List Char)

/-- The item that ends where its unit's name ends. -/
def finish? (number : Nat) (read : Option Fraction) (letters : List Char) : Option Item :=
  (TimeUnit.ofName? letters.reverse).map fun unit => ⟨number, read, unit⟩

/-- Reads the items from a place to the end of the text. -/
def items? : Place → List Char → Option (List Item)
  | .gap, [] => some []
  | .gap, c :: rest =>
    match digit? c with
    | some value => items? (.whole value) rest
    | none => if Text.isBlank c then items? .gap rest else none
  | .whole _, [] => none
  | .whole number, c :: rest =>
    match digit? c with
    | some value =>
      match word? (number * 10 + value) with
      | some number => items? (.whole number) rest
      | none => none
    | none =>
      if Text.isBlank c then items? (.whole number) rest
      else if isUnitLetter c then items? (.unit number none [c]) rest
      else if c = '.' then items? (.fraction number ⟨0, 1⟩) rest
      else none
  | .fraction _ _, [] => none
  | .fraction number read, c :: rest =>
    match digit? c with
    | some value =>
      match word? (read.digits * 10 + value), word? (read.scale * 10) with
      | some digits, some scale => items? (.fraction number ⟨digits, scale⟩) rest
      | _, _ => none
    | none =>
      if Text.isBlank c then items? (.fraction number read) rest
      else if isUnitLetter c && read.scale != 1 then items? (.unit number (some read) [c]) rest
      else none
  | .unit number read letters, [] => (finish? number read letters).map ([·])
  | .unit number read letters, c :: rest =>
    match digit? c with
    | some value => do
      let item ← finish? number read letters
      let items ← items? (.whole value) rest
      some (item :: items)
    | none =>
      if Text.isBlank c then do
        let item ← finish? number read letters
        let items ← items? .gap rest
        some (item :: items)
      else if isUnitLetter c then items? (.unit number read (c :: letters)) rest
      else none

/-- The sum of items. -/
def sum? (items : List Item) : Option Duration :=
  items.foldlM addItem? zero

/-- The span that a text spells. A text without any item spells none. -/
def read? (text : List Char) : Option Duration :=
  if text = ['0'] then some zero
  else
    match items? .gap text with
    | some (item :: items) => sum? (item :: items)
    | _ => none

/-- The span that a string spells. -/
def ofString? (text : String) : Option Duration := read? text.toList

/-! ## Writing -/

/-- An item whose unit is spelled out, with an `s` for more than one. -/
def countedItem (name : List Char) (amount : Nat) : List (List Char) :=
  if amount = 0 then []
  else if amount = 1 then [Nat.toDigits 10 amount ++ name]
  else [Nat.toDigits 10 amount ++ name ++ ['s']]

/-- An item whose unit is abbreviated. -/
def shortItem (name : List Char) (amount : Nat) : List (List Char) :=
  if amount = 0 then [] else [Nat.toDigits 10 amount ++ name]

/-- The items of a span other than the zero ones, from years to nanoseconds. -/
def spelledItems (span : Duration) : List (List Char) :=
  let inYear := span.secs % 31557600
  let inMonth := inYear % 2630016
  let inDay := inMonth % 86400
  countedItem ['y', 'e', 'a', 'r'] (span.secs / 31557600)
    ++ countedItem ['m', 'o', 'n', 't', 'h'] (inYear / 2630016)
    ++ countedItem ['d', 'a', 'y'] (inMonth / 86400)
    ++ shortItem ['h'] (inDay / 3600)
    ++ shortItem ['m'] (inDay % 3600 / 60)
    ++ shortItem ['s'] (inDay % 60)
    ++ shortItem ['m', 's'] (span.subsecNanos / 1000000)
    ++ shortItem ['u', 's'] (span.subsecNanos / 1000 % 1000)
    ++ shortItem ['n', 's'] (span.subsecNanos % 1000)

/-- A span in spelled form. -/
def spell (span : Duration) : String :=
  match spelledItems span with
  | [] => "0s"
  | items => String.ofList ([' '].intercalate items)

example : (ofString? "1m 30s").map nanos = some 90000000000 := by decide +kernel
example : (ofString? "1.5h").map nanos = some 5400000000000 := by decide +kernel
example : (ofString? "1 2s").map nanos = some 12000000000 := by decide +kernel
example : ofString? "5" = none := by decide +kernel
example : ofString? "" = none := by decide +kernel
example : (seconds 90061).spell = "1day 1h 1m 1s" := by decide +kernel

end Leasehold.Duration
