/-!
Blank characters: the characters that have the Unicode property White_Space. Text is trimmed of
them at both ends, and spelled durations may hold them between their parts.
-/
namespace Leasehold.Text

/-- The code points with the property White_Space, as inclusive ranges in rising order. -/
def blankRanges : List (Nat × Nat) :=
  [(0x9, 0xD), (0x20, 0x20), (0x85, 0x85), (0xA0, 0xA0), (0x1680, 0x1680), (0x2000, 0x200A),
   (0x2028, 0x2029), (0x202F, 0x202F), (0x205F, 0x205F), (0x3000, 0x3000)]

/-- Whether a character is blank. -/
def isBlank (c : Char) : Bool :=
  blankRanges.any fun (low, high) => low ≤ c.toNat && c.toNat ≤ high

/-- The text after its leading blanks. -/
def trimStart (text : List Char) : List Char := text.dropWhile isBlank

/-- The text without the blanks at both ends. -/
def trim (text : List Char) : List Char := (trimStart (trimStart text).reverse).reverse

end Leasehold.Text
