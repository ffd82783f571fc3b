import Leasehold.Toml
import Leasehold.Toml.Scalars
/-!
Reading a TOML document. A document is read line by line into a draft of its table: a line holds a
key and its value, a header, a comment or nothing. Arrays and inline tables lie at most 79 deep in
each other, and a key has at most 79 parts.
-/
namespace Leasehold.Toml

/-- How deep values may lie in each other, and how many parts a key may have. -/
def maxDepth : Nat := 79

/-- The text without the carriage returns before line feeds. -/
def foldLineEnds : List Char → List Char
  | '\r' :: '\n' :: rest => '\n' :: foldLineEnds rest
  | c :: rest => c :: foldLineEnds rest
  | [] => []

/-- The rest after a comment, which ends before the end of its line. -/
def comment? : List Char → Option (List Char)
  | [] => some []
  | c :: rest => if c = '\n' then some (c :: rest) else if isShown c then comment? rest else none

/-- The rest after spaces, an optional comment and the end of the line or of the document. -/
def lineEnd? (input : List Char) : Option (List Char) := do
  let rest := input.dropWhile isSpace
  let rest ← match rest with
    | '#' :: rest => comment? rest
    | rest => some rest
  match rest with
  | [] => some []
  | c :: rest => if c = '\n' then some rest else none

/-- The rest after spaces, line ends and comments. -/
def gap? : Nat → List Char → Option (List Char)
  | 0, _ => none
  | fuel + 1, input =>
    match input.dropWhile isSpace with
    | '\n' :: rest => gap? fuel rest
    | '#' :: rest =>
      match comment? rest with
      | some rest => gap? fuel rest
      | none => none
    | rest => some rest

/-- A key of a limited number of parts: the parts before the last one, and the last one. -/
def path? (input : List Char) : Option (List String × String × List Char) := do
  let (parts, rest) ← key? (input.length + 1) input
  let last ← parts.getLast?
  if parts.length ≤ maxDepth then some (parts.dropLast, last, rest) else none

mutual

/-- A value. `depth` is how many arrays and inline tables may still lie in each other. -/
def value? : Nat → Nat → List Char → Option (Toml × List Char)
  | 0, _, _ => none
  | fuel + 1, depth, input =>
    match input with
    | [] => none
    | c :: rest =>
      if c = '"' ∨ c = '\'' then
        (string? input).map fun (value, rest) => (.text (String.ofList value), rest)
      else if c = '[' then
        if depth = 0 then none
        else (items? fuel (depth - 1) rest).map fun (items, rest) => (.array items, rest)
      else if c = '\x7b' then
        if depth = 0 then none
        else do
          let (pairs, rest) ← match expect? '\x7d' (rest.dropWhile isSpace) with
            | some rest => some ([], rest)
            | none => pairs? fuel (depth - 1) rest
          let entries ← inlineEntries? pairs
          some (.table .closed entries, rest)
      else
        (scalarValue? input).map fun (isMoment, rest) => (if isMoment then .moment else .plain, rest)

/-- The items of an array and its end. A comma may follow the last item. -/
def items? : Nat → Nat → List Char → Option (List Toml × List Char)
  | 0, _, _ => none
  | fuel + 1, depth, input => do
    let rest ← gap? (input.length + 1) input
    match expect? ']' rest with
    | some rest => some ([], rest)
    | none =>
      let (item, rest) ← value? fuel depth rest
      let rest ← gap? (rest.length + 1) rest
      match expect? ',' rest with
      | some rest => (items? fuel depth rest).map fun (items, rest) => (item :: items, rest)
      | none => (expect? ']' rest).map ([item], ·)

/-- The keys and values of an inline table and its end. -/
def pairs? : Nat → Nat → List Char → Option (List (List String × String × Toml) × List Char)
  | 0, _, _ => none
  | fuel + 1, depth, input => do
    let (path, key, rest) ← path? input
    let rest ← expect? '=' rest
    let (value, rest) ← value? fuel depth (rest.dropWhile isSpace)
    let rest := rest.dropWhile isSpace
    match expect? ',' rest with
    | some rest => (pairs? fuel depth rest).map fun (pairs, rest) => ((path, key, value) :: pairs, rest)
    | none => (expect? '\x7d' rest).map ([(path, key, value)], ·)

end

/-- Reads a key and its value, and what else is on the line. -/
def pairLine? (draft : Draft) (input : List Char) : Option (Draft × List Char) := do
  let (path, key, rest) ← path? input
  let rest ← expect? '=' rest
  let rest := rest.dropWhile isSpace
  let (value, rest) ← value? (2 * rest.length + 2) maxDepth rest
  let rest ← lineEnd? rest
  let draft ← draft.put? path key value
  some (draft, rest)

/-- Reads a header after its first bracket, and what else is on the line. -/
def headerLine? (draft : Draft) (input : List Char) : Option (Draft × List Char) := do
  match expect? '[' input with
  | some rest =>
    let (path, key, rest) ← path? rest
    let rest ← expectWord? [']', ']'] rest
    let rest ← lineEnd? rest
    let draft ← draft.beginRepeated? (path ++ [key])
    some (draft, rest)
  | none =>
    let (path, key, rest) ← path? input
    let rest ← expect? ']' rest
    let rest ← lineEnd? rest
    let draft ← draft.begin? (path ++ [key])
    some (draft, rest)

/-- Reads one line. -/
def line? (draft : Draft) (input : List Char) : Option (Draft × List Char) :=
  match input.dropWhile isSpace with
  | [] => some (draft, [])
  | c :: rest =>
    if c = '#' ∨ c = '\n' then (lineEnd? (c :: rest)).map (draft, ·)
    else if c = '[' then headerLine? draft rest
    else pairLine? draft (c :: rest)

/-- Reads lines to the end. -/
def lines? : Nat → Draft → List Char → Option Draft
  | 0, _, _ => none
  | _ + 1, draft, [] => some draft
  | fuel + 1, draft, input =>
    match line? draft input with
    | some (draft, rest) => lines? fuel draft rest
    | none => none

/-- The table of a document. A byte order mark may stand in front. -/
def read? (input : List Char) : Option Entries :=
  let input := foldLineEnds (if input.head? = some '\uFEFF' then input.tail else input)
  (lines? (input.length + 1) {} input).map (·.entries)

end Leasehold.Toml
