/-!
Strings and keys of TOML. Each reader takes what follows the opening delimiter and gives the text
and what follows the closing one. Line ends are single line feeds here: the document reader has
folded the other kind away, so that a carriage return is never allowed.
-/
namespace Leasehold.Toml

/-- Whether a character is a space or a tab. -/
def isSpace (c : Char) : Bool := c == ' ' || c == '\t'

/-- Whether a character may stand in a comment, and in literal text apart from its delimiter. -/
def isShown (c : Char) : Bool := c == '\t' || (0x20 ≤ c.toNat && c.toNat != 0x7F)

/-- The value of a hexadecimal digit. -/
def hexDigit? (c : Char) : Option Nat :=
  if '0' ≤ c ∧ c ≤ '9' then some (c.toNat - '0'.toNat)
  else if 'a' ≤ c ∧ c ≤ 'f' then some (c.toNat - 'a'.toNat + 10)
  else if 'A' ≤ c ∧ c ≤ 'F' then some (c.toNat - 'A'.toNat + 10)
  else none

/-- The character whose code point is written in hexadecimal digits. -/
def scalar? (digits : List Char) : Option Char := do
  let code ← digits.foldlM (fun value c => (hexDigit? c).map (value * 16 + ·)) 0
  if code < 0xD800 ∨ (0xDFFF < code ∧ code < 0x110000) then some (Char.ofNat code) else none

/-- What a letter stands for after a backslash. -/
def escaped? (c : Char) : Option Char :=
  if c = '"' ∨ c = '\\' then some c
  else if c = 'b' then some '\x08'
  else if c = 't' then some '\t'
  else if c = 'n' then some '\n'
  else if c = 'f' then some '\x0C'
  else if c = 'r' then some '\r'
  else none

/-- Puts a character before the text that a reader found. -/
def push (c : Char) : Option (List Char × List Char) → Option (List Char × List Char)
  | some (chars, rest) => some (c :: chars, rest)
  | none => none

/-- The text of a literal string on one line. -/
def literal? : List Char → Option (List Char × List Char)
  | [] => none
  | c :: rest =>
    if c = '\'' then some ([], rest)
    else if isShown c then push c (literal? rest)
    else none

/-- The text of a basic string on one line. -/
def basic? : List Char → Option (List Char × List Char)
  | [] => none
  | c :: rest =>
    if c = '"' then some ([], rest)
    else if c = '\\' then
      match rest with
      | e :: rest =>
        if e = 'u' then
          match rest with
          | a :: b :: c :: d :: rest =>
            match scalar? [a, b, c, d] with
            | some found => push found (basic? rest)
            | none => none
          | _ => none
        else if e = 'U' then
          match rest with
          | a :: b :: c :: d :: e :: f :: g :: h :: rest =>
            match scalar? [a, b, c, d, e, f, g, h] with
            | some found => push found (basic? rest)
            | none => none
          | _ => none
        else
          match escaped? e with
          | some found => push found (basic? rest)
          | none => none
      | [] => none
    else if isShown c then push c (basic? rest)
    else none

/-- The end of a string on several lines, after three closing delimiters: up to two more of them
belong to the text. -/
def closing (quote : Char) (rest : List Char) : List Char × List Char :=
  let extra := (rest.take 2).takeWhile (· == quote)
  (extra, rest.drop extra.length)

/-- Whether a text begins with two delimiters. -/
def startsClosing (quote : Char) (rest : List Char) : Bool := rest.take 2 == [quote, quote]

/-- The text of a literal string on several lines. -/
def literalLines? : List Char → Option (List Char × List Char)
  | [] => none
  | c :: rest =>
    if c = '\'' ∧ startsClosing '\'' rest then some (closing '\'' (rest.drop 2))
    else if isShown c ∨ c = '\n' then push c (literalLines? rest)
    else none

/-- Where a reader of a basic string on several lines stands. -/
inductive LinePlace where
  /-- In the text. -/
  | text
  /-- After a backslash and spaces: the line must end. -/
  | lineEnd
  /-- After a line end that a backslash hides: blanks and line ends are skipped. -/
  | hidden
deriving DecidableEq

/-- The text of a basic string on several lines. -/
def basicLines? : LinePlace → List Char → Option (List Char × List Char)
  | _, [] => none
  | place, c :: rest =>
    if place = .lineEnd then
      if isSpace c then basicLines? .lineEnd rest
      else if c = '\n' then basicLines? .hidden rest
      else none
    else if place = .hidden ∧ (isSpace c ∨ c = '\n') then basicLines? .hidden rest
    else if c = '"' ∧ startsClosing '"' rest then some (closing '"' (rest.drop 2))
    else if c = '\\' then
      match rest with
      | e :: rest =>
        if isSpace e then basicLines? .lineEnd rest
        else if e = '\n' then basicLines? .hidden rest
        else if e = 'u' then
          match rest with
          | a :: b :: c :: d :: rest =>
            match scalar? [a, b, c, d] with
            | some found => push found (basicLines? .text rest)
            | none => none
          | _ => none
        else if e = 'U' then
          match rest with
          | a :: b :: c :: d :: e :: f :: g :: h :: rest =>
            match scalar? [a, b, c, d, e, f, g, h] with
            | some found => push found (basicLines? .text rest)
            | none => none
          | _ => none
        else
          match escaped? e with
          | some found => push found (basicLines? .text rest)
          | none => none
      | [] => none
    else if isShown c ∨ c = '\n' then push c (basicLines? .text rest)
    else none

/-- The text after a line end that follows an opening delimiter. -/
def dropFirstLineEnd : List Char → List Char
  | '\n' :: rest => rest
  | rest => rest

/-- A string of any form, from its first delimiter on. -/
def string? : List Char → Option (List Char × List Char)
  | '"' :: rest =>
    if startsClosing '"' rest then basicLines? .text (dropFirstLineEnd (rest.drop 2))
    else basic? rest
  | '\'' :: rest =>
    if startsClosing '\'' rest then literalLines? (dropFirstLineEnd (rest.drop 2))
    else literal? rest
  | _ => none

/-! ## Keys -/

/-- Whether a character may stand in a key without quotes. -/
def isBare (c : Char) : Bool := c.isAlphanum || c == '_' || c == '-'

/-- One part of a key. Quoted parts are strings on one line. -/
def simpleKey? : List Char → Option (String × List Char)
  | '"' :: rest => (basic? rest).map fun (chars, rest) => (String.ofList chars, rest)
  | '\'' :: rest => (literal? rest).map fun (chars, rest) => (String.ofList chars, rest)
  | rest =>
    match rest.takeWhile isBare with
    | [] => none
    | key => some (String.ofList key, rest.dropWhile isBare)

/-- The parts of a key that are divided by points, with spaces around each of them. -/
def key? : Nat → List Char → Option (List String × List Char)
  | 0, _ => none
  | fuel + 1, input => do
    let (part, rest) ← simpleKey? (input.dropWhile isSpace)
    match rest.dropWhile isSpace with
    | '.' :: rest => (key? fuel rest).map fun (parts, rest) => (part :: parts, rest)
    | rest => some ([part], rest)

end Leasehold.Toml
