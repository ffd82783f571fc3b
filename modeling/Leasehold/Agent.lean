import Leasehold.Error
import Leasehold.Settings
import Leasehold.Text.Blank
/-!
An agent that is reached over HTTP, through the settings that say how.
-/
namespace Leasehold

/-- An agent that can be asked. -/
structure Agent where
  /-- How the agent is reached. -/
  settings : AgentSettings
  /-- The address says something. -/
  addressed : Text.trim settings.address.toList ≠ []

namespace Agent

/-- The agent that the settings describe (`new`). -/
def ofSettings (settings : AgentSettings) : Except Error Agent :=
  if blank : Text.trim settings.address.toList = [] then
    .error (.invalidConfig "consul address is empty")
  else .ok ⟨settings, blank⟩

end Agent

end Leasehold
