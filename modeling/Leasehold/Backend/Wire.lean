import Leasehold.Backend
import Leasehold.Json
/-!
What a backend reports of a lease, as JSON. Reading takes the members by name, in any order, or by
position from an array. Only the id is required: other texts default to the empty one, and numbers
to zero.
-/
namespace Leasehold.Descriptor

/-- The names of the members, in their fixed order. -/
def memberNames : List String :=
  ["ID", "Name", "Node", "TTL", "Behavior", "LockDelay", "CreateIndex"]

/-- A member that is a text, or absent. -/
def textOr (default : String) : Option Json → Option String
  | none => some default
  | some json => json.text?

/-- A member that is a number, or absent. -/
def wordOr (default : Nat) : Option Json → Option Nat
  | none => some default
  | some json => json.word?

/-- A report as JSON. -/
def toJson (descriptor : Descriptor) : Json :=
  .record
    [("ID", .text descriptor.id), ("Name", .text descriptor.name), ("Node", .text descriptor.node),
     ("TTL", .text descriptor.ttl), ("Behavior", .text descriptor.behavior),
     ("LockDelay", .nat descriptor.lockDelay), ("CreateIndex", .nat descriptor.createIndex)]

/-- The report that a JSON value holds. -/
def ofJson? (json : Json) : Option Descriptor := do
  match ← json.fields? memberNames with
  | [id, name, node, ttl, behavior, lockDelay, createIndex] =>
    let id ← id
    some
      { id := ← id.text?
        name := ← textOr "" name
        node := ← textOr "" node
        ttl := ← textOr "" ttl
        behavior := ← textOr "" behavior
        lockDelay := ← wordOr 0 lockDelay
        createIndex := ← wordOr 0 createIndex }
  | _ => none

end Leasehold.Descriptor
