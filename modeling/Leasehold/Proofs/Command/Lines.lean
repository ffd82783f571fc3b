import Leasehold.Proofs.Agent.Conveyance
import Leasehold.Proofs.Command.Release

/-! What a run prints. The lock is reported when the agent has granted it to the lease that the session has at
that moment, and never else. The agent has granted it in reply to a message that the run has sent, which is
about the key itself if and only if the key is verbatim. -/
namespace Leasehold.Command

open Url (Verbatim)

/-- The messages that a run has sent, in their order. What cannot be put into a message is not sent. -/
def sent (agent : Agent) (moments : List Moment) : List Agent.Message :=
  (requested moments).filterMap fun request => (Agent.message agent.settings request).toOption

section
variable {agent : Agent} {plan : HoldPlan} {moments : List Moment} {run further : Run} {act : Act}
variable {made : List Backend.Request} {leases : List String} {hold : Hold}
variable {awaited : List (Asker × Backend.Request)} {asker : Asker}
variable {request : Backend.Request} {now : Instant} {moment : Moment} {id : String}

end

end Leasehold.Command
