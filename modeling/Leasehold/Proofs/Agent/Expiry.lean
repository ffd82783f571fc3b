import Leasehold.Proofs.Agent.Addressing
import Leasehold.Proofs.Agent.Breakage
import Leasehold.Proofs.Duration.Wire
import Leasehold.Proofs.Json.Grammar
import Leasehold.Proofs.Session.Failures
import Leasehold.Proofs.Session.Tenure
import Leasehold.Proofs.Settings.Json

/-! When an agent lets a lease expire. A lease whose TTL is zero never expires for it. A session asks for
its leases on its own terms (`Asks`), which were checked to the nanosecond; the agent reads the TTL without
what is below a millisecond. -/
namespace Leasehold

namespace Session

/-- A request that a session with these terms makes of its manager: for its first lease, or at a step. -/
inductive Asks (label : String) (span : Duration) (timing : SessionSettings) : Manager.Call → Prop where
  | opening : Asks label span timing (.create label span)
  | later (opened : Session.opened start label span timing first = .ok initial)
      (ran : Ran initial moments session) (stepped : session.step now event = some (next, some call)) :
      Asks label span timing call

/-- A session asks for leases with the name and the TTL that it was made with. -/
theorem Asks.terms {name label : String} {ttl span : Duration} {timing : SessionSettings}
    (asks : Asks label span timing (.create name ttl)) : name = label ∧ ttl = span := by
  cases asks with
  | opening => exact ⟨rfl, rfl⟩
  | later opened ran stepped =>
    obtain ⟨name_eq, ttl_eq⟩ := creation_of_call (transition_of_step stepped)
    obtain ⟨sameName, sameTtl, -⟩ := ran.terms
    obtain ⟨openedName, openedTtl, -⟩ := terms_of_opened opened
    exact ⟨name_eq.trans (sameName.trans openedName), ttl_eq.trans (sameTtl.trans openedTtl)⟩

end Session

namespace Agent

/-- The TTL in the body of a message, as it is spelled. -/
def ttlText? (body : List UInt8) : Option String := do
  match ← (← Json.ofBytes? body).fields? ["TTL"] with
  | [ttl] => (← ttl).text?
  | _ => none

variable {settings : AgentSettings} {request : Backend.Request} {message : Message} {name : String}
variable {ttl : Duration}

/-- The message for a new lease has the TTL as the agent is told spans. -/
theorem ttlText?_message (made : Agent.message settings (.create name ttl) = .ok message) :
    ttlText? message.body = some ttl.onWire := by
  have spelled : (creationJson settings name ttl).IsSpelled := by
    apply Json.isSpelled_record
    simp [Json.IsSpelled.string, Json.text]
  rw [(message_made made).2.2, bodyOf, ttlText?, Json.render, Json.ofBytes?_spelled spelled.spells]
  rfl

/-- The TTL of a session is short enough for an agent. -/
theorem goRead?_onWire {timing : SessionSettings} (valid : Session.validate ttl timing = .ok ()) :
    Duration.goRead? ttl.onWire = some ((ttl.millis * 1000000 : Nat) : Int) := by
  have day := Session.nanos_le_of_validate valid
  rw [Duration.goRead?, Duration.goNanos?_onWire, Option.filter_some, if_pos]
  unfold Duration.millis
  simp only [decide_eq_true_eq]
  omega

/-- **When a lease expires.** A session whose terms were found to be valid asks for a lease. The agent reads
a TTL that is not longer than the session's and less than a millisecond shorter. It is positive, so that the
lease expires, if and only if the session's TTL is at least a millisecond. -/
theorem lease_expires (agent : Agent) {label : String} {span : Duration} {timing : SessionSettings}
    (valid : Session.validate span timing = .ok ())
    (asks : Session.Asks label span timing (.create name ttl))
    (made : Agent.message agent.settings (.create name ttl) = .ok message) :
    ∃ text nanos, ttlText? message.body = some text ∧ Duration.goRead? text = some nanos ∧
      nanos ≤ span.nanos ∧ span.nanos < nanos + 1000000 ∧ (0 < nanos ↔ 1000000 ≤ span.nanos) := by
  obtain ⟨rfl, rfl⟩ := asks.terms
  refine ⟨ttl.onWire, _, ttlText?_message made, goRead?_onWire valid, ?_⟩
  unfold Duration.millis
  omega

/-- A TTL of half a millisecond is accepted, and the lease never expires. -/
theorem brief_lease_never_expires : ∃ message,
    Session.validate ⟨500000, by decide⟩ {} = .ok () ∧
      Agent.message plainAgent.settings (.create "a-session" ⟨500000, by decide⟩) = .ok message ∧
      ttlText? message.body = some "0s" ∧ Duration.goRead? "0s" = some 0 := by
  have brief : Session.validate ⟨500000, by decide⟩ {} = .ok () := by rfl
  have possible : (Agent.message plainAgent.settings
      (.create "a-session" ⟨500000, by decide⟩)).toOption.isSome = true := by
    decide +kernel
  cases made : Agent.message plainAgent.settings (.create "a-session" ⟨500000, by decide⟩) with
  | error refusal => rw [made] at possible; cases possible
  | ok message =>
    obtain ⟨text, _, shown, -⟩ := lease_expires plainAgent brief .opening made
    obtain rfl : text = "0s" := Option.some.inj (shown.symm.trans (ttlText?_message made))
    exact ⟨message, brief, rfl, shown, by decide +kernel⟩

end Agent

end Leasehold
