import Leasehold.Agent
import Leasehold.Command.Arguments
import Leasehold.Command.Hold
import Leasehold.Command.Loading
import Leasehold.Settings.ToToml
/-!
What the program does with its arguments and its surroundings: it is done at once, it asks an agent
for one thing, or it holds a lock.
-/
namespace Leasehold.Command

/-- How the program ends. -/
structure Ending where
  /-- The exit code: 0 if all went well, 2 if the arguments make no sense, 130 if the process was killed
  by an interruption, else 1. -/
  code : Nat := 0
  /-- What is printed. -/
  output : String := ""
  /-- What is printed about an error. -/
  complaint : String := ""

/-- The end after an error with this text. -/
def failure (text : String) : Ending := { code := 1, complaint := "Error: " ++ text ++ "\n" }

/-- The version of the program. -/
def versionText : String := "0.1.0"

/-- What is printed about the program. -/
def helpText : String := "Session-bound locks on Consul\n\nUsage: tether [OPTIONS] <COMMAND>\n"

/-- What the program has to do. -/
inductive Task where
  /-- Nothing but to end. -/
  | done (ending : Ending)
  /-- Show the sessions of an agent. -/
  | list (agent : Agent)
  /-- Destroy a session of an agent. -/
  | destroy (agent : Agent) (id : String)
  /-- Hold a lock. -/
  | hold (agent : Agent) (hold : Hold)

/-- The line for a text that may be empty. -/
def orElse (text otherwise : String) : String := if text = "" then otherwise else text

/-- The lines for a session. -/
def sessionLines (session : Descriptor) : String :=
  "  " ++ session.id ++ " - " ++ orElse session.name "(unnamed)" ++ "\n    Node: " ++ session.node
    ++ ", TTL: " ++ orElse session.ttl "-" ++ ", Behavior: " ++ session.behavior ++ "\n"

/-- The lines for all sessions (`format_sessions`). -/
def sessionsText : List Descriptor → String
  | [] => "No active sessions\n"
  | sessions => "Active sessions:\n\n" ++ String.join (sessions.map sessionLines)

/-- The end after the sessions were asked for (`list_sessions`). -/
def listed : Except Error (List Descriptor) → Ending
  | .ok sessions => { output := sessionsText sessions }
  | .error error => failure error.message

/-- The end after a session was to be destroyed (`destroy_session`). -/
def destroyed (id : String) : Except Error Unit → Ending
  | .ok () => { output := "Destroyed session: " ++ id ++ "\n" }
  | .error error => failure error.message

/-- The end of holding a lock on a key (`run`), with the lines that were printed. -/
def held (key : String) (lines : List String) (ending : HoldEnd) : Ending :=
  let output := String.join (lines.map (· ++ "\n"))
  match ending with
  | .released | .interrupted => { output }
  | .lost error => { failure ("Lost lock on " ++ key ++ ": " ++ error.message) with output }
  | .failed error => { failure error.message with output }
  | .killed => { code := 130, output }

/-- A spelled span among the options of a level. -/
def Given.duration? (given : Given) (switch : Switch) : Option Duration :=
  (given.value? switch).bind Duration.ofString?

/-- How a lock is to be held, as the arguments and the settings say. -/
def holdPlan (given : Given) (settings : Settings) : HoldPlan where
  key := given.argument.getD ""
  value := Text.encode ((given.value? .value).getD "")
  name := (given.value? .name).getD "tether-lock"
  ttl := (given.duration? .ttl).getD settings.session.ttl
  settings := settings.session
  poll := (given.duration? .poll).getD (.seconds 1)

/-- What a command has to do with its settings (`show_config`; `connect` and one `run` for each of the rest). -/
def perform (line : Line) (settings : Settings) : Task :=
  match line.level with
  | .program | .sessions => .done { code := 2 }
  | .config => .done { output := settings.toToml ++ "\n" }
  | level =>
    match Agent.ofSettings settings.agent with
    | .error error => .done (failure error.message)
    | .ok agent =>
      match level with
      | .list => .list agent
      | .destroy => .destroy agent (line.given.argument.getD "")
      | _ =>
        match Hold.start (holdPlan line.given settings) with
        | .error error => .done (failure error.message)
        | .ok hold => .hold agent hold

/-- What the program has to do (`main`). -/
def task (surroundings : Surroundings) (arguments : List String) : Task :=
  match parse arguments with
  | .misuse => .done { code := 2 }
  | .help => .done { output := helpText }
  | .version level => .done { output := level.title ++ " " ++ versionText ++ "\n" }
  | .line line =>
    match load surroundings (line.value? .config) (line.value? .address) with
    | .error text => .done (failure text)
    | .ok settings => perform line settings

end Leasehold.Command
