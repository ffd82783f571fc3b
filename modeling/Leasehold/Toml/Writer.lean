/-!
Writing strings in TOML. A text gets the plainest form that can hold it: a basic string, a literal
string, or one of the two forms on several lines, of which a text with line feeds always takes one.
Only where none of them holds the text as it is, characters are escaped.
-/
namespace Leasehold.Toml

/-- The length of the longest run of a character in a text, counted on from a run before it. -/
def longestRun (quote : Char) : Nat → List Char → Nat
  | current, [] => current
  | current, c :: rest =>
    if c = quote then longestRun quote (current + 1) rest
    else max current (longestRun quote 0 rest)

/-- Whether a character has no place in a string unless it is escaped. A tab has one, and a line
feed has one on several lines. -/
def mustEscape (c : Char) : Bool := (c.toNat < 0x20 && c != '\t' && c != '\n') || c.toNat == 0x7F

/-- The four forms of a string. -/
inductive Style where
  | basic
  | literal
  | basicLines
  | literalLines
deriving DecidableEq, Repr

/-- The form that a text is written in. -/
def styleOf (text : List Char) : Style :=
  let escapes := text.any mustEscape
  let hasBackslash := text.contains '\\'
  let hasLineFeed := text.contains '\n'
  let quotes := longestRun '"' 0 text
  let ticks := longestRun '\'' 0 text
  if !escapes && !hasBackslash && quotes = 0 && !hasLineFeed then .basic
  else if !escapes && ticks = 0 && !hasLineFeed then .literal
  else if !escapes && !hasBackslash && quotes ≤ 2 then .basicLines
  else if !escapes && ticks ≤ 2 then .literalLines
  else if hasLineFeed then .basicLines
  else .basic

/-- A code point in four upper-case hexadecimal digits. -/
def hexCode (c : Char) : List Char :=
  [c.toNat / 4096, c.toNat / 256, c.toNat / 16, c.toNat].map fun value =>
    (Nat.digitChar (value % 16)).toUpper

/-- The characters of a basic string. `room` is how many quotes may follow each other, and `run` how
many have just done so. -/
def basicChars (isLines : Bool) (room : Nat) : Nat → List Char → List Char
  | _, [] => []
  | run, c :: rest =>
    if c = '"' then
      if run < room then '"' :: basicChars isLines room (run + 1) rest
      else '\\' :: '"' :: basicChars isLines room 0 rest
    else
      let written :=
        if c = '\x08' then ['\\', 'b']
        else if c = '\t' then ['\\', 't']
        else if c = '\n' then if isLines then ['\n'] else ['\\', 'n']
        else if c = '\x0C' then ['\\', 'f']
        else if c = '\r' then ['\\', 'r']
        else if c = '\\' then ['\\', '\\']
        else if mustEscape c then '\\' :: 'u' :: hexCode c
        else [c]
      written ++ basicChars isLines room 0 rest

/-- A text as a string. On several lines, a text with line feeds begins on a line of its own. -/
def stringChars (text : List Char) : List Char :=
  let first := if text.contains '\n' then ['\n'] else []
  match styleOf text with
  | .basic => '"' :: basicChars false 0 0 text ++ ['"']
  | .literal => '\'' :: text ++ ['\'']
  | .basicLines => ['"', '"', '"'] ++ first ++ basicChars true 2 0 text ++ ['"', '"', '"']
  | .literalLines => ['\'', '\'', '\''] ++ first ++ text ++ ['\'', '\'', '\'']

end Leasehold.Toml
