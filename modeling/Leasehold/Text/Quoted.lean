import Leasehold.Text.Extender
import Leasehold.Text.Printable
/-!
Text between double quotes, as messages show keys. The quote, the backslash and four control
characters are written with a backslash; any other character that cannot be shown, and one that
would join the character before it, is written as its code point in braces.
-/
namespace Leasehold.Text

/-- A code point in lower-case hexadecimal, between braces after `\u`. -/
def bracedCode (c : Char) : List Char :=
  '\\' :: 'u' :: '\x7b' :: Nat.toDigits 16 c.toNat ++ ['\x7d']

/-- One character of a quoted text. -/
def quoteChar (c : Char) : List Char :=
  if c = '"' then ['\\', '"']
  else if c = '\\' then ['\\', '\\']
  else if c = '\n' then ['\\', 'n']
  else if c = '\r' then ['\\', 'r']
  else if c = '\t' then ['\\', 't']
  else if c = '\x00' then ['\\', '0']
  else if c.toNat < 0x20 || c.toNat = 0x7F then bracedCode c
  else if c.toNat < 0x7F then [c]
  else if isExtender c || isUnprintable c then bracedCode c
  else [c]

/-- A text between double quotes. -/
def quoted (text : String) : String :=
  String.ofList ('"' :: text.toList.flatMap quoteChar ++ ['"'])

end Leasehold.Text
