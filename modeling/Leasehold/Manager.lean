import Leasehold.Backend
/-!
The calls that a session makes to care for its lease, and how they map onto requests to the backend.
Giving up a lease that the backend no longer knows counts as done. `CallLog` keeps the arguments of
all calls in their order.
-/
namespace Leasehold.Manager

/-- A call for the care of a lease. -/
inductive Call where
  /-- Make a lease. -/
  | create (name : String) (ttl : Duration)
  /-- Keep a lease alive. -/
  | renew (id : String)
  /-- Give up a lease. -/
  | destroy (id : String)
deriving DecidableEq

/-- The request that a call makes of the backend. -/
def Call.request : Call → Backend.Request
  | .create name ttl => .create name ttl
  | .renew id => .renew id
  | .destroy id => .destroy id

/-- How a call ends: a new lease comes with its id. -/
inductive Reply where
  /-- The end of a `create`. -/
  | created (result : Except Error String)
  /-- The end of a `renew`. -/
  | renewed (result : Except Error Unit)
  /-- The end of a `destroy`. -/
  | destroyed (result : Except Error Unit)

/-- The end of giving up a lease (`destroy`): an unknown lease is as good as one that was given up. -/
def forgiveUnknown : Except Error Unit → Except Error Unit
  | .error (.sessionNotFound _) => .ok ()
  | result => result

/-- How a call ends, from the end of its request. -/
def Call.reply : (call : Call) → call.request.Outcome → Reply
  | .create _ _, result => .created result
  | .renew _, result => .renewed result
  | .destroy _, result => .destroyed (forgiveUnknown result)

/-- The arguments of all calls so far, in their order. -/
structure CallLog where
  /-- The names and TTLs of the leases to make. -/
  created : List (String × Duration) := []
  /-- The leases to keep alive. -/
  renewed : List String := []
  /-- The leases to give up. -/
  destroyed : List String := []

/-- Adds a call, whatever its end will be. -/
def CallLog.add (log : CallLog) : Call → CallLog
  | .create name ttl => { log with created := log.created ++ [(name, ttl)] }
  | .renew id => { log with renewed := log.renewed ++ [id] }
  | .destroy id => { log with destroyed := log.destroyed ++ [id] }

end Leasehold.Manager
