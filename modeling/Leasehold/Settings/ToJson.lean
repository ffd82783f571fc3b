import Leasehold.Duration.Spelled
import Leasehold.Json
import Leasehold.Settings
/-!
Settings as a JSON value: the settings of each group in their fixed order, spans in spelled form,
and options that are unset left out.
-/
namespace Leasehold

/-- A member for an option, if it is set. -/
def optionalMember (name : String) : Option String → List (String × Json)
  | none => []
  | some value => [(name, .text value)]

/-- The settings of an agent as JSON. -/
def AgentSettings.toJson (settings : AgentSettings) : Json :=
  .record ([("address", .text settings.address), ("scheme", .text settings.scheme)]
    ++ optionalMember "datacenter" settings.datacenter
    ++ optionalMember "token" settings.token
    ++ [("request_timeout", .text settings.requestTimeout.spell),
        ("behavior", .text settings.behavior.name),
        ("lock_delay", .text settings.lockDelay.spell)])

/-- The settings of sessions as JSON. -/
def SessionSettings.toJson (settings : SessionSettings) : Json :=
  .record ([("ttl", .text settings.ttl.spell), ("retry_interval", .text settings.retryInterval.spell)]
    ++ optionalMember "renew_interval" (settings.renewInterval.map Duration.spell))

/-- All settings as JSON. -/
def Settings.toJson (settings : Settings) : Json :=
  .record [("consul", settings.agent.toJson), ("session", settings.session.toJson)]

end Leasehold
