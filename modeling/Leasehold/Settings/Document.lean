import Leasehold.Duration.Spelled
import Leasehold.Settings
import Leasehold.Text.Quoted
/-!
Settings as a document gives them, whatever its format. A document is a tree of tables, lists, texts
and other values; of these others only their description is kept, since no setting takes them.

1. A group of settings is a table, or a list of its values in their order. What is not given has its
   default, and names that are no settings are ignored.
2. The values of a table are taken in the order of the document, and the first one that does not fit
   decides the refusal.
3. Formats differ in two points, which `Format` holds: whether a list may be too long, and what may
   stand for "nothing" where a behavior is given as a table.
-/
namespace Leasehold

/-- A value of a settings document. -/
inductive Document where
  | nothing
  /-- A value that no setting takes, with its description. -/
  | other (description : String)
  | text (value : String)
  | list (items : List Document)
  | table (entries : List (String × Document))

namespace Document

/-- In what the formats of documents differ. -/
structure Format where
  /-- Whether a list with more values than a group has settings is refused. -/
  refusesLongLists : Bool
  /-- Whether a value may stand beside a behavior's name in a table, or why it may not. -/
  payload : Document → Except String Unit

/-- What a document is, for a refusal. -/
def description : Document → String
  | .nothing => "null"
  | .other description => description
  | .text value => "string " ++ Text.quoted value
  | .list _ => "sequence"
  | .table _ => "map"

/-- The refusal of a document of the wrong type. -/
def wrongType (document : Document) (expected : String) : String :=
  "invalid type: " ++ document.description ++ ", expected " ++ expected

/-- The refusal of a document with the wrong value. -/
def wrongValue (document : Document) (expected : String) : String :=
  "invalid value: " ++ document.description ++ ", expected " ++ expected

/-- A text. -/
def toText : Document → Except String String
  | .text value => .ok value
  | document => .error (document.wrongType "a string")

/-- A spelled span. -/
def toDuration : Document → Except String Duration
  | .text value =>
    match Duration.ofString? value with
    | some span => .ok span
    | none => .error ((Document.text value).wrongValue "a duration")
  | document => .error (document.wrongType "a duration")

/-- A value that may be left open. -/
def toOption {α : Type} (read : Document → Except String α) : Document → Except String (Option α)
  | .nothing => .ok none
  | document => (read document).map some

/-- A behavior by its name. -/
def namedBehavior (name : String) : Except String Behavior :=
  match Behavior.ofName? name with
  | some behavior => .ok behavior
  | none => .error ("unknown variant `" ++ name ++ "`, expected `release` or `delete`")

/-- A behavior: its name, or a table whose only entry has that name and says nothing more. -/
def toBehavior (format : Format) : Document → Except String Behavior
  | .text name => namedBehavior name
  | .table [(name, payload)] => do
    let behavior ← namedBehavior name
    format.payload payload
    .ok behavior
  | .table entries => .error ((Document.table entries).wrongValue "map with a single key")
  | document => .error (document.wrongType "string or map")

/-- One setting of a group: its name, and how a document changes the group. -/
structure Field (Group : Type) where
  /-- The name of the setting. -/
  name : String
  /-- Puts the value of a document into the group. -/
  put : Group → Document → Except String Group

/-- A setting of a group, from a reader of its value and a setter. -/
def field {Group α : Type} (name : String) (read : Document → Except String α)
    (set : Group → α → Group) : Field Group :=
  ⟨name, fun group document => (read document).map (set group)⟩

/-- Puts one entry of a table into a group. -/
def putEntry {Group : Type} (fields : List (Field Group)) (group : Group)
    (entry : String × Document) : Except String Group :=
  match fields.find? fun field => field.name == entry.1 with
  | some field => field.put group entry.2
  | none => .ok group

/-- Puts the values of a list into a group, one for each field. -/
def putItems {Group : Type} : List (Field Group) → Group → List Document → Except String Group
  | field :: fields, group, item :: items => do
    let group ← field.put group item
    putItems fields group items
  | _, group, _ => .ok group

/-- A group of settings, beginning with its defaults. -/
def toGroup {Group : Type} (format : Format) (name : String) (fields : List (Field Group))
    (defaults : Group) : Document → Except String Group
  | .table entries => entries.foldlM (putEntry fields) defaults
  | .list items => do
    let group ← putItems fields defaults items
    if format.refusesLongLists && fields.length < items.length then
      .error ("invalid length " ++ Nat.repr items.length ++ ", expected fewer elements in array")
    else .ok group
  | document => .error (document.wrongType ("struct " ++ name))

/-- The settings that say how to reach an agent. -/
def agentFields (format : Format) : List (Field AgentSettings) :=
  [field "address" toText fun group address => { group with address },
   field "scheme" toText fun group scheme => { group with scheme },
   field "datacenter" (toOption toText) fun group datacenter => { group with datacenter },
   field "token" (toOption toText) fun group token => { group with token },
   field "request_timeout" toDuration fun group requestTimeout => { group with requestTimeout },
   field "behavior" (toBehavior format) fun group behavior => { group with behavior },
   field "lock_delay" toDuration fun group lockDelay => { group with lockDelay }]

/-- The settings that time a session. -/
def sessionFields : List (Field SessionSettings) :=
  [field "ttl" toDuration fun group ttl => { group with ttl },
   field "retry_interval" toDuration fun group retryInterval => { group with retryInterval },
   field "renew_interval" (toOption toDuration) fun group renewInterval =>
     { group with renewInterval }]

/-- The settings of an agent in a document. -/
def toAgentSettings (format : Format) : Document → Except String AgentSettings :=
  toGroup format "ConsulConfig" (agentFields format) {}

/-- The settings of sessions in a document. -/
def toSessionSettings (format : Format) : Document → Except String SessionSettings :=
  toGroup format "SessionConfig" sessionFields {}

/-- All settings. -/
def settingsFields (format : Format) : List (Field Settings) :=
  [field "consul" (toAgentSettings format) fun group agent => { group with agent },
   field "session" (toSessionSettings format) fun group session => { group with session }]

/-- All settings of a document. -/
def toSettings (format : Format) : Document → Except String Settings :=
  toGroup format "TetherConfig" (settingsFields format) {}

end Document

end Leasehold
