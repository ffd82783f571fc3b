import Leasehold.Duration
import Leasehold.Error
/-!
The coordination backend as its callers see it: what can be asked of it, and what each request is
answered with. Whatever keeps leases with a TTL, and writes keys on the condition that a lease owns
them, can stand behind these requests.
-/
namespace Leasehold

/-- What a backend reports of a live lease. -/
structure Descriptor where
  /-- The id of the lease. -/
  id : String
  /-- The name that the lease is labelled with. -/
  name : String := ""
  /-- The node that the lease belongs to. -/
  node : String := ""
  /-- The TTL as the backend spells it. -/
  ttl : String := ""
  /-- What happens to locked keys when the lease is lost. -/
  behavior : String := ""
  /-- The lock delay in nanoseconds. -/
  lockDelay : Nat := 0
  /-- The index at which the lease was created. -/
  createIndex : Nat := 0
deriving DecidableEq, Repr

/-- What a backend reports of a key. -/
structure KeyEntry where
  /-- The key. -/
  key : String
  /-- The bytes that were written to the key last. -/
  value : List UInt8
  /-- The lease that holds the lock on the key, if any. -/
  holder : Option String
  /-- The index of the last change to the key. -/
  modifyIndex : Nat
deriving DecidableEq, Repr

namespace Backend

/-- What can be asked of a backend. -/
inductive Request where
  /-- Make a lease that is labelled with a name and lives for a TTL. -/
  | create (name : String) (ttl : Duration)
  /-- Let a lease live for its TTL from now on. -/
  | renew (id : String)
  /-- Give up a lease. -/
  | destroy (id : String)
  /-- Report all live leases. -/
  | list
  /-- Write a key and lock it, unless another lease has locked it. -/
  | put (key : String) (value : List UInt8) (id : String)
  /-- Unlock a key, if this lease has locked it. -/
  | release (key : String) (id : String)
  /-- Report a key. -/
  | get (key : String)
deriving DecidableEq

/-- What a request is answered with when it succeeds: a new lease's id, the live leases, whether a
key was locked or unlocked, or a key that may be absent. -/
abbrev Request.Answer : Request → Type
  | .create _ _ => String
  | .renew _ => Unit
  | .destroy _ => Unit
  | .list => List Descriptor
  | .put _ _ _ => Bool
  | .release _ _ => Bool
  | .get _ => Option KeyEntry

/-- How a request ends. -/
abbrev Request.Outcome (request : Request) : Type := Except Error request.Answer

end Backend

end Leasehold
