import Leasehold.Proofs.Command.Lines

/-! What a run sends to its agent. The session of a run asks to give up its lease once, and last, but what
the agent gets to read is a message. That says which lease is given up if and only if it can be made and
the lease's id is verbatim.

A message is counted once, when it is sent. What the client sends by itself because it was redirected is
not counted (`Agent.Reply`). -/
namespace Leasehold.Command

open Url (Verbatim)

section
variable {agent : Agent} {plan : HoldPlan} {moments : List Moment} {run : Run}
variable {request : Backend.Request} {message : Agent.Message} {id : String}
variable {base : List Char} {root : Url}

end

/-- A lock to hold. -/
def lockOf (key : String) : HoldPlan :=
  { key, value := [], name := "tether-lock", ttl := .seconds 20, settings := {}, poll := .seconds 1 }

/-- The reply that a lease was made. -/
def leased : Agent.Reply := .answered 200 (Text.encode (Json.record [("ID", .text "L1")]).render) true

/-- The lease was made, and the lock is sought. -/
def seeking (key : String) : Hold :=
  Hold.answered { plan := lockOf key } 0 .opening (.create "tether-lock" (.seconds 20)) (.ok "L1")

/-- The lock is held. -/
def holding (key : String) : Hold :=
  Hold.answered { seeking key with asked := [] } 0 .attempt (.put key [] "L1") (.ok true)

end Leasehold.Command
