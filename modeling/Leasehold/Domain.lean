import Leasehold.Domain.Direction
import Leasehold.Domain.Joining
import Leasehold.Domain.Mapping
import Leasehold.Text.Punycode
/-!
Domain names in ASCII. The characters of a name are taken as they count, in composed form. A label
with characters beyond ASCII is written in Punycode after a prefix of its own; a label that comes
with that prefix must be written so, and stand for what needs it. All labels must obey the rules for
marks, joiners and directions.
-/
namespace Leasehold.Domain

/-- What stands in front of a label in Punycode. -/
def punycodeMark : List Char := ['x', 'n', '-', '-']

/-- The longest label in Punycode that is read. -/
def maxForm : Nat := 2000

/-- The longest label that is written in Punycode. -/
def maxLabel : Nat := 1000

/-- Whether a text is in ASCII. -/
def isAscii (text : List Char) : Bool := text.all (·.toNat < 0x80)

/-- Whether an ASCII character has no place in a name. -/
def isForbidden (c : Char) : Bool :=
  c.toNat ≤ 0x20 || c.toNat == 0x7F || "#/:<>?@[\\]^|%".toList.contains c

/-- A label of a name. -/
structure Label where
  /-- The characters that it stands for. -/
  shown : List Char
  /-- The characters that it is written with, in ASCII. -/
  written : List Char

/-- The label that a form in Punycode stands for. It has characters beyond ASCII, in composed form,
and none that count as others. -/
def labelOfForm? (form : List Char) : Option Label := do
  if maxForm < form.length ∨ !isAscii form ∨ form.getLast? = some '-' then none
  else
    let shown ← Text.Punycode.decode? form
    if isAscii shown ∨ !shown.all isPlain ∨ compose shown ≠ shown then none
    else some ⟨shown, punycodeMark ++ form⟩

/-- The label of a text, whose characters are taken as they count. -/
def labelOf? (text : List Char) : Option Label :=
  if punycodeMark.isPrefixOf text then labelOfForm? (text.drop punycodeMark.length)
  else if isAscii text then some ⟨text, text⟩
  else some ⟨text, punycodeMark ++ Text.Punycode.encode text⟩

/-- Whether a label obeys the rules for all names. -/
def Label.isSound (label : Label) : Bool :=
  !beginsWithMark label.shown && joinsWell label.shown
    && (isAscii label.shown || label.shown.length ≤ maxLabel)

/-- The labels of a name. -/
def labels? (text : List Char) : Option (List Label) := do
  let text := compose (← mapText? text)
  if text.any isForbidden then none
  else
    let labels ← (Text.splitAt '.' text).mapM labelOf?
    if labels.all Label.isSound
        && (!labels.any (·.shown.any isRightward) || labels.all (keepsDirection ·.shown)) then
      some labels
    else none

/-- A name in lower-case ASCII. -/
def toAscii? (text : List Char) : Option (List Char) :=
  (labels? text).map fun labels => ['.'].intercalate (labels.map (·.written))

example : toAscii? "HOST.Example".toList = some "host.example".toList := by decide +kernel
example : toAscii? "a|b".toList = none := by decide +kernel
example : toAscii? "xn--a-".toList = none := by decide +kernel

end Leasehold.Domain
