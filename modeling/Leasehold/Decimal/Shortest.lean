import Leasehold.Decimal.Binary
/-!
The fewest digits that read back. A binary fraction stands for every real number that rounds to
it; `shortest` gives the decimal with the fewest digits among them, and of two
with equally many the nearer one, or the one with an even last digit. All arithmetic is on natural
numbers, over a common denominator.

Numbers are written in positional notation where the point stands among the first sixteen digits or
at most four zeros lie between the point and the digits. All others have an exponent, with its sign.
-/
namespace Leasehold.Decimal

/-- A positive binary fraction with its rounding interval, over one denominator. -/
structure Rounded where
  /-- The denominator of the other fields. -/
  scale : Nat
  /-- The number itself. -/
  value : Nat
  /-- The lower end of what rounds to it. -/
  low : Nat
  /-- The upper end of what rounds to it. -/
  high : Nat
  /-- Whether the ends round to it as well. -/
  closed : Bool

/-- The rounding interval of a binary fraction other than zero. Below a power of two the neighbours are
half as far apart, except at the least exponent. -/
def Rounded.ofBinary (binary : Binary) : Rounded :=
  let up := Nat.pow 2 binary.exponent.toNat
  let down := Nat.pow 2 (-binary.exponent).toNat
  let isEdge := binary.mantissa = Nat.pow 2 (maxBits - 1) ∧ minExponent < binary.exponent
  { scale := 4 * down
    value := 4 * binary.mantissa * up
    low := (4 * binary.mantissa - (if isEdge then 1 else 2)) * up
    high := (4 * binary.mantissa + 2) * up
    closed := binary.mantissa % 2 = 0 }

/-- Whether the number `digits * 10 ^ place` lies in the interval. -/
def Rounded.contains (rounded : Rounded) (digits : Nat) (place : Int) : Bool :=
  let point := digits * Nat.pow 10 place.toNat * rounded.scale
  let shift := Nat.pow 10 (-place).toNat
  if rounded.closed then rounded.low * shift ≤ point && point ≤ rounded.high * shift
  else rounded.low * shift < point && point < rounded.high * shift

/-- The best number of the grid with steps of `10 ^ place` in the interval, if there is one. -/
def Rounded.onGrid? (rounded : Rounded) (place : Int) : Option Nat :=
  let unit := rounded.scale * Nat.pow 10 place.toNat
  let value := rounded.value * Nat.pow 10 (-place).toNat
  let below := value / unit
  let rest := value % unit
  match rounded.contains below place, rounded.contains (below + 1) place with
  | true, true =>
    some (if 2 * rest < unit ∨ (2 * rest = unit ∧ below % 2 = 0) then below else below + 1)
  | true, false => some below
  | false, true => some (below + 1)
  | false, false => none

/-- The first grid from `place` down, of at most `fuel`, that has a number in the interval. -/
def Rounded.search (rounded : Rounded) : Nat → Int → Nat × Int
  | 0, place => (0, place)
  | fuel + 1, place =>
    match rounded.onGrid? place with
    | some digits => (digits, place)
    | none => rounded.search fuel (place - 1)

/-- The least power of ten above the number, as its exponent, counted up from a start below it. -/
def Rounded.magnitude (rounded : Rounded) : Nat → Int → Int
  | 0, place => place
  | fuel + 1, place =>
    if rounded.value * Nat.pow 10 (-place).toNat < rounded.scale * Nat.pow 10 place.toNat then place
    else rounded.magnitude fuel (place + 1)

/-- The digits and the place of the last digit of the shortest decimal for a binary fraction other than
zero. Seventeen digits always suffice, and a binary fraction lies between 10^-324 and 10^309. The search
begins with the power of ten above the number, so that no digits are left out and none are zeros at the
end. -/
def shortest (binary : Binary) : Nat × Int :=
  let rounded := Rounded.ofBinary binary
  rounded.search 19 (rounded.magnitude 640 (-324))

/-- A decimal number in positional notation, always with a point and a digit on both sides of it. -/
def positional (digits : Nat) (place : Int) : List Char :=
  let run := Nat.toDigits 10 digits
  let afterPoint := (-place).toNat
  if 0 ≤ place then run ++ List.replicate place.toNat '0' ++ ['.', '0']
  else if run.length ≤ afterPoint then
    '0' :: '.' :: List.replicate (afterPoint - run.length) '0' ++ run
  else run.take (run.length - afterPoint) ++ '.' :: run.drop (run.length - afterPoint)

/-- A decimal number as its digits, with a point after the first one if there are more, and an
exponent. -/
def scientific (digits : Nat) (place : Int) : List Char :=
  let run := Nat.toDigits 10 digits
  let exponent := place + (run.length - 1 : Nat)
  let sign := if exponent < 0 then '-' else '+'
  run.take 1 ++ (if run.length ≤ 1 then [] else '.' :: run.drop 1)
    ++ 'e' :: sign :: Nat.toDigits 10 exponent.natAbs

/-- How many digits stand before the point at most in positional notation. -/
def maxWholeDigits : Int := 16

/-- How many zeros stand between the point and the digits at most in positional notation. -/
def maxLeadingZeros : Int := 4

/-- A decimal number. -/
def written (digits : Nat) (place : Int) : List Char :=
  let point := place + (Nat.toDigits 10 digits).length
  if -maxLeadingZeros ≤ point ∧ point ≤ maxWholeDigits then positional digits place
  else scientific digits place

/-- A binary fraction with the fewest digits. -/
def Binary.chars (binary : Binary) : List Char :=
  if binary.mantissa = 0 then ['0', '.', '0']
  else
    let (digits, place) := shortest binary
    written digits place

example : shortest ⟨3 * Nat.pow 2 51, -52⟩ = (15, -1) := by decide +kernel
example : shortest ⟨1, -1074⟩ = (5, -324) := by decide +kernel
example : shortest ⟨Nat.pow 2 52, -52⟩ = (1, 0) := by decide +kernel
example : written 15 (-1) = "1.5".toList := by decide +kernel
example : written 1 (-5) = "0.00001".toList := by decide +kernel
example : written 12 (-7) = "1.2e-6".toList := by decide +kernel
example : written 1 15 = "1000000000000000.0".toList := by decide +kernel
example : written 1 16 = "1e+16".toList := by decide +kernel

end Leasehold.Decimal
