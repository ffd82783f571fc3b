import Leasehold.Settings.FromToml
import Leasehold.Text.Utf8
/-!
The settings of a run of the program: from a file, or else the defaults; then what the environment
says, and last an address from the command line.
-/
namespace Leasehold.Command

/-- What is found under a path. -/
inductive Found where
  /-- Nothing. -/
  | nothing
  /-- A file with these bytes. -/
  | file (bytes : List UInt8)
  /-- Something that cannot be read as a file. -/
  | unreadable

/-- What a run of the program is surrounded by. -/
structure Surroundings where
  /-- What is found under a path. -/
  look : String → Found
  /-- The value of an environment variable. -/
  valueOf? : String → Option String

/-- The variable that overrides the agent's address. -/
def addressVariable : String := "TETHER_CONSUL_ADDRESS"

/-- The variable that overrides the access token. -/
def tokenVariable : String := "TETHER_CONSUL_TOKEN"

/-- The variable that names the file with the settings. -/
def fileVariable : String := "TETHER_CONFIG"

/-- The file with the settings, unless another one is named. -/
def defaultFile : String := "tether.toml"

/-- Reads the settings of a file that was found (`load_file`). -/
def readSettings (path : String) (found : Found) : Except String Settings :=
  let text := match found with
    | .file bytes => Text.decode? bytes
    | _ => none
  match text with
  | none => .error ("Failed to read config file " ++ path)
  | some text =>
    match Settings.ofToml? (String.ofList text) with
    | some settings => .ok settings
    | none => .error ("Failed to parse config file " ++ path)

/-- The settings of the file that the command line names, which must be there, or of the file that is
looked for otherwise (`default_path`), which may be missing. -/
def fileSettings (surroundings : Surroundings) (named : Option String) : Except String Settings :=
  match named with
  | some path => readSettings path (surroundings.look path)
  | none =>
    let path := (surroundings.valueOf? fileVariable).getD defaultFile
    match surroundings.look path with
    | .nothing => .ok {}
    | found => readSettings path found

/-- The settings with what the environment overrides (`apply_overrides`), where empty variables override
nothing. -/
def override (surroundings : Surroundings) (settings : Settings) : Settings :=
  let agent := match (surroundings.valueOf? addressVariable).filter (· ≠ "") with
    | some address => settings.agent.withAddress address
    | none => settings.agent
  let agent := match (surroundings.valueOf? tokenVariable).filter (· ≠ "") with
    | some token => agent.withToken token
    | none => agent
  { settings with agent }

/-- The settings of a run, with the file (`load`) and the address that the command line names. -/
def load (surroundings : Surroundings) (named address : Option String) : Except String Settings := do
  let settings ← fileSettings surroundings named
  let settings := override surroundings settings
  match address with
  | some address => .ok { settings with agent := settings.agent.withAddress address }
  | none => .ok settings

end Leasehold.Command
