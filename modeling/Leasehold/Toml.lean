/-!
TOML values, and the table that the lines of a document build up.

1. A table has a kind, which says how it came to be: by its own header, implied by the header of a
   table below it, implied by dotted keys, or closed, as an inline table is.
2. `descend?` goes down a path from a table, makes the tables that are missing, and changes the table
   at the end. It refuses paths through values, and dotted keys through tables that have a header.
3. `Draft` is a document under construction: its entries, and the path of the table whose header came
   last. A key and its value go into that table. No key and no header may come twice, but a table
   that is only implied may get its header later.
-/
namespace Leasehold

/-- How a table came to be. -/
inductive Toml.Kind where
  /-- By a header of its own; the whole document counts as such. -/
  | headed
  /-- By the header of a table below it. -/
  | implied
  /-- By a dotted key. -/
  | dotted
  /-- By a value: it can get no further keys. -/
  | closed
deriving DecidableEq, Repr

/-- A TOML value. -/
inductive Toml where
  | text (value : String)
  /-- An integer, a floating point number or a boolean. -/
  | plain
  /-- A date, a time, or both. -/
  | moment
  | array (items : List Toml)
  | table (kind : Toml.Kind) (entries : List (String × Toml))
  /-- The tables that headers in double brackets have made, the last one last. -/
  | tables (items : List (List (String × Toml)))

namespace Toml

/-- The entries of a table. -/
abbrev Entries := List (String × Toml)

/-- The value of a key. -/
def find? (key : String) : Entries → Option Toml
  | [] => none
  | (found, value) :: entries => if found = key then some value else find? key entries

/-- The entries with another value for a key that is there. -/
def replace (key : String) (value : Toml) : Entries → Entries
  | [] => []
  | (found, old) :: entries =>
    if found = key then (found, value) :: entries else (found, old) :: replace key value entries

/-- The entries without a key. -/
def remove (key : String) (entries : Entries) : Entries := entries.filter fun (found, _) => found ≠ key

/-- Changes the table at the end of a path. Tables that are missing on the way are made of the given
kind, which is `dotted` for dotted keys and `implied` for headers. -/
def descend? (make : Kind) (change : Kind → Entries → Option Entries) :
    List String → Kind → Entries → Option Entries
  | [], kind, entries => change kind entries
  | key :: path, _, entries =>
    match find? key entries with
    | none => do
      let below ← descend? make change path make []
      some (entries ++ [(key, .table make below)])
    | some (.table kind below) =>
      if kind = .closed ∨ (make = .dotted ∧ kind = .headed) then none
      else do
        let below ← descend? make change path kind below
        some (replace key (.table kind below) entries)
    | some (.tables items) =>
      match items.getLast? with
      | none => none
      | some below => do
        let below ← descend? make change path .headed below
        some (replace key (.tables (items.dropLast ++ [below])) entries)
    | some _ => none

/-- Puts a new key into a table that was reached by a path of dotted keys, or by none. A table that
dotted keys lead to must itself come from dotted keys. -/
def put? (path : List String) (key : String) (value : Toml) : Kind → Entries → Option Entries :=
  descend? .dotted
    (fun kind entries =>
      if (kind = .dotted) = (path = []) then none
      else if (find? key entries).isSome then none
      else some (entries ++ [(key, value)]))
    path

/-- The entries of an inline table, from its keys and values in their order. -/
def inlineEntries? (pairs : List (List String × String × Toml)) : Option Entries :=
  pairs.foldlM (fun entries (path, key, value) => put? path key value .headed entries) []

/-- A document under construction. -/
structure Draft where
  /-- Everything that was read so far. -/
  entries : Entries := []
  /-- The path of the table whose header came last. The empty path is the document itself. -/
  path : List String := []

/-- Puts a key into the table whose header came last. -/
def Draft.put? (draft : Draft) (path : List String) (key : String) (value : Toml) : Option Draft := do
  let entries ← descend? .implied (Toml.put? path key value) draft.path .headed draft.entries
  some { draft with entries }

/-- Begins the table of a header in single brackets. It must be new, or only implied so far. -/
def Draft.begin? (draft : Draft) (path : List String) : Option Draft := do
  let key ← path.getLast?
  let entries ← descend? .implied
    (fun _ entries =>
      match find? key entries with
      | none => some (entries ++ [(key, .table .headed [])])
      | some (.table .implied below) => some (replace key (.table .headed below) entries)
      | some _ => none)
    path.dropLast .headed draft.entries
  some { entries, path }

/-- Begins the next table of a header in double brackets. -/
def Draft.beginRepeated? (draft : Draft) (path : List String) : Option Draft := do
  let key ← path.getLast?
  let entries ← descend? .implied
    (fun _ entries =>
      match find? key entries with
      | none => some (entries ++ [(key, .tables [[]])])
      | some (.tables items) => some (replace key (.tables (items ++ [[]])) entries)
      | some _ => none)
    path.dropLast .headed draft.entries
  some { entries, path }

end Toml

end Leasehold
