import Leasehold.Settings.Document
import Leasehold.Toml.Reader
/-!
Settings from a TOML text. Why a text holds no settings is not told apart.
-/
namespace Leasehold

namespace Document

/-- The settings format of TOML: lists may be longer than needed, and an empty list or table says
nothing. -/
def tomlFormat : Format where
  refusesLongLists := false
  payload
    | .list [] | .table [] => .ok ()
    | document => .error (document.wrongType "nothing")

mutual

/-- A TOML value as a document. A moment counts as a table with one entry that is no setting. -/
def ofToml : Toml → Document
  | .text value => .text value
  | .plain => .other "scalar"
  | .moment => .table [("moment", .other "scalar")]
  | .array items => .list (ofTomlItems items)
  | .table _ entries => .table (ofTomlEntries entries)
  | .tables items => .list (ofTomlTables items)

/-- The items of an array as documents. -/
def ofTomlItems : List Toml → List Document
  | [] => []
  | item :: items => ofToml item :: ofTomlItems items

/-- The entries of a table as documents. -/
def ofTomlEntries : List (String × Toml) → List (String × Document)
  | [] => []
  | (key, value) :: entries => (key, ofToml value) :: ofTomlEntries entries

/-- The tables of repeated headers as documents. -/
def ofTomlTables : List (List (String × Toml)) → List Document
  | [] => []
  | entries :: tables => .table (ofTomlEntries entries) :: ofTomlTables tables

end

end Document

/-- The settings that a TOML text holds. -/
def Settings.ofToml? (text : String) : Option Settings := do
  let entries ← Toml.read? text.toList
  ((Document.table (Document.ofTomlEntries entries)).toSettings Document.tomlFormat).toOption

end Leasehold
