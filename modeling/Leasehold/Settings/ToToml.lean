import Leasehold.Duration.Spelled
import Leasehold.Settings
import Leasehold.Toml.Writer
/-!
Settings as a TOML text: a table for each group, an empty line between them, one line for each
setting in the fixed order, and no line for an option that is unset.
-/
namespace Leasehold

/-- A line that sets a key to a text. -/
def tomlLine (key : String) (value : String) : List Char :=
  key.toList ++ [' ', '=', ' '] ++ Toml.stringChars value.toList ++ ['\n']

/-- A line for an option, if it is set. -/
def tomlOption (key : String) : Option String → List Char
  | none => []
  | some value => tomlLine key value

/-- The lines of an agent's settings. -/
def AgentSettings.tomlLines (settings : AgentSettings) : List Char :=
  tomlLine "address" settings.address
    ++ tomlLine "scheme" settings.scheme
    ++ tomlOption "datacenter" settings.datacenter
    ++ tomlOption "token" settings.token
    ++ tomlLine "request_timeout" settings.requestTimeout.spell
    ++ tomlLine "behavior" settings.behavior.name
    ++ tomlLine "lock_delay" settings.lockDelay.spell

/-- The lines of the settings of sessions. -/
def SessionSettings.tomlLines (settings : SessionSettings) : List Char :=
  tomlLine "ttl" settings.ttl.spell
    ++ tomlLine "retry_interval" settings.retryInterval.spell
    ++ tomlOption "renew_interval" (settings.renewInterval.map Duration.spell)

/-- All settings as a TOML text. -/
def Settings.toToml (settings : Settings) : String :=
  String.ofList ("[consul]\n".toList ++ settings.agent.tomlLines
    ++ "\n[session]\n".toList ++ settings.session.tomlLines)

end Leasehold
