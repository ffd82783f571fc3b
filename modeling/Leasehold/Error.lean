import Leasehold.Text.Quoted
/-!
What can go wrong with a session or with the coordination backend behind it: six causes, the text
that each of them shows, and which of them are worth a retry.
-/
namespace Leasehold

/-- Why a call on a session or on a backend failed. -/
inductive Error where
  /-- The backend could not be reached, or cannot serve requests at the moment. -/
  | backendUnavailable (message : String)
  /-- The backend answered, and refused the request or made no sense. -/
  | backendRejected (status : Nat) (message : String)
  /-- The backend has no record of the lease with this id. -/
  | sessionNotFound (id : String)
  /-- The session has no live lease to act with. -/
  | sessionInvalid
  /-- Another session holds the lock on this key. -/
  | lockHeldByOther (key : String)
  /-- A session or a client was asked for with parameters that cannot work. -/
  | invalidConfig (message : String)
deriving DecidableEq, Repr

namespace Error

/-- The text of an error. -/
def message : Error → String
  | .backendUnavailable text => "coordination backend unavailable: " ++ text
  | .backendRejected status text =>
    "coordination backend rejected request (" ++ Nat.repr status ++ "): " ++ text
  | .sessionNotFound id => "session not found: " ++ id
  | .sessionInvalid => "session has no live lease"
  | .lockHeldByOther key => "lock on " ++ Text.quoted key ++ " is held by another session"
  | .invalidConfig text => "invalid configuration: " ++ text

/-- Whether the failure may pass, so that the same call is worth another try (`is_retryable`). -/
def isRetryable : Error → Bool
  | .backendUnavailable _ => true
  | _ => false

end Error

end Leasehold
