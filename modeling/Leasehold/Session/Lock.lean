import Leasehold.Session
/-!
Locks on keys. A lock is taken and given back with the lease that the session has when the call
begins. The call reads the id of the lease, asks the backend once, and judges the answer with the
session as it is when the answer arrives.
-/
namespace Leasehold.Session

/-- The id of a lease that the session can act with (`live_id`). -/
def liveId (session : Session) : Except Error String :=
  if session.lease.state ≠ .active ∨ session.lease.id = "" then .error .sessionInvalid
  else .ok session.lease.id

/-- The request of an attempt to lock a key (`acquire_lock`, before it waits). -/
def lockRequest (key : String) (value : List UInt8) (id : String) : Backend.Request :=
  .put key value id

/-- The request of giving back the lock on a key (`release_lock`, before it waits). -/
def unlockRequest (key : String) (id : String) : Backend.Request := .release key id

/-- How an attempt to lock a key ends that was made with a lease (`acquire_lock`, after its wait). Where
the backend took the request, the lease must still be the session's. -/
def lockResult (session : Session) (key id : String) : Except Error Bool → Except Error Unit
  | .error (.sessionNotFound _) => .error .sessionInvalid
  | .error error => .error error
  | .ok acquired =>
    match session.liveId with
    | .ok live =>
      if live ≠ id then .error .sessionInvalid
      else if acquired then .ok ()
      else .error (.lockHeldByOther key)
    | .error _ => .error .sessionInvalid

/-- How giving back a lock ends (`release_lock`, after its wait): whether there was one to give back. -/
def unlockResult : Except Error Bool → Except Error Bool
  | .error (.sessionNotFound _) => .error .sessionInvalid
  | result => result

end Leasehold.Session
