/-!
Binary fractions of double precision, and how a decimal number is read as one.

1. `nearest` rounds a quotient of natural numbers to the nearest binary fraction, and halfway between
   two of them to the one with the even mantissa. Products and quotients are rounded in the same way.
2. A decimal number is read in two steps. Its digits are taken up as a whole number as far as they fit
   a 64-bit word, and that number is then multiplied or divided by a power of ten. Both the number and
   the power are rounded before, so that the last bit may differ from that of the nearest fraction.
-/
namespace Leasehold.Decimal

/-- The binary fraction `mantissa * 2 ^ exponent`. The mantissa has 53 bits, or fewer at the least
exponent. -/
structure Binary where
  /-- The bits of the fraction. -/
  mantissa : Nat
  /-- The place of the last bit. -/
  exponent : Int
deriving DecidableEq, Repr

/-- How many bits a mantissa has at most. -/
def maxBits : Nat := 53

/-- The least exponent. -/
def minExponent : Int := -1074

/-- The greatest exponent. -/
def maxExponent : Int := 971

/-- A quotient rounded to the nearest whole number, or to the even one halfway between two. -/
def roundQuotient (numerator denominator : Nat) : Nat :=
  let below := numerator / denominator
  let rest := numerator % denominator
  if 2 * rest < denominator ∨ (2 * rest = denominator ∧ below % 2 = 0) then below else below + 1

namespace Binary

/-- No fraction at all. -/
def zero : Binary := ⟨0, minExponent⟩

/-- Whether the exponent is in range. Larger numbers are infinite. -/
def isFinite (binary : Binary) : Bool := binary.exponent ≤ maxExponent

/-- The binary fraction nearest to a quotient. The first guess at the place of its last bit may be one
too low. -/
def nearest (numerator denominator : Nat) : Binary :=
  if numerator = 0 then zero
  else
    let up (exponent : Int) : Nat := numerator * Nat.pow 2 (-exponent).toNat
    let down (exponent : Int) : Nat := denominator * Nat.pow 2 exponent.toNat
    let guess := (numerator.log2 : Int) - denominator.log2 - maxBits
    let fits := up guess / down guess < Nat.pow 2 maxBits
    let exponent := max minExponent (if fits then guess else guess + 1)
    let mantissa := roundQuotient (up exponent) (down exponent)
    if mantissa = Nat.pow 2 maxBits then ⟨Nat.pow 2 (maxBits - 1), exponent + 1⟩
    else ⟨mantissa, exponent⟩

/-- The binary fraction nearest to a whole number. -/
def ofNat (number : Nat) : Binary := nearest number 1

/-- The binary fraction nearest to a power of ten. -/
def powerOfTen (place : Nat) : Binary := ofNat (Nat.pow 10 place)

/-- The rounded product of two binary fractions. -/
def mul (left right : Binary) : Binary :=
  let exponent := left.exponent + right.exponent
  nearest (left.mantissa * right.mantissa * Nat.pow 2 exponent.toNat)
    (Nat.pow 2 (-exponent).toNat)

/-- The rounded quotient of two binary fractions. -/
def div (left right : Binary) : Binary :=
  let exponent := left.exponent - right.exponent
  nearest (left.mantissa * Nat.pow 2 exponent.toNat)
    (right.mantissa * Nat.pow 2 (-exponent).toNat)

/-- The place of the largest power of ten that is a binary fraction. -/
def maxPlace : Nat := 308

/-- A 64-bit word as a binary fraction, times a power of ten, unless it is too large. Two divisions by
the largest power of ten leave nothing of a word. -/
def scaled? (word : Nat) : Int → Option Binary
  | .ofNat place =>
    if word = 0 then some zero
    else if maxPlace < place then none
    else
      let product := (ofNat word).mul (powerOfTen place)
      if product.isFinite then some product else none
  | .negSucc less =>
    let place := less + 1
    if place ≤ maxPlace then some ((ofNat word).div (powerOfTen place))
    else if place ≤ 2 * maxPlace then
      some (((ofNat word).div (powerOfTen maxPlace)).div (powerOfTen (place - maxPlace)))
    else some zero

end Binary

/-- Takes up digits after a number, while the result fits a 64-bit word, and says how many digits are
left. -/
def takeDigits (number : Nat) : List Char → Nat × Nat
  | [] => (number, 0)
  | c :: digits =>
    let next := number * 10 + (c.toNat - '0'.toNat)
    if next < 18446744073709551616 then takeDigits next digits else (number, digits.length + 1)

/-- The binary fraction that a decimal number is read as, from the digits on both sides of its point
and its exponent. Digits that are left over before the point count as zeros, and those after it not at
all. There is none if the number is too large. -/
def read? (whole fraction : List Char) (exponent : Int) : Option Binary :=
  let (number, leftBefore) := takeDigits 0 whole
  let (number, leftAfter) := takeDigits number fraction
  Binary.scaled? number (leftBefore + leftAfter - fraction.length + exponent)

example : Binary.nearest 1 10 = ⟨7205759403792794, -56⟩ := by decide +kernel
example : Binary.ofNat 9007199254740993 = ⟨4503599627370496, 1⟩ := by decide +kernel
example : read? "1".toList "5".toList 0 = some ⟨6755399441055744, -52⟩ := by decide +kernel
example : read? "5".toList [] (-324) = some ⟨1, -1074⟩ := by decide +kernel
example : read? "2".toList [] 308 = none := by decide +kernel

end Leasehold.Decimal
