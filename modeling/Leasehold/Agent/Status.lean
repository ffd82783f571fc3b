/-!
The status codes of HTTP replies.
-/
namespace Leasehold.Agent

/-- Whether a status says that all went well. -/
def isSuccess (status : Nat) : Bool := 200 ≤ status && status < 300

/-- Whether a status says that the server failed. -/
def isServerError (status : Nat) : Bool := 500 ≤ status && status < 600

/-- Whether a status ends an exchange. Below 200 only the one for another protocol does; after the
others there, the agent is still to answer. Statuses have three digits. -/
def isFinal (status : Nat) : Bool := status == 101 || (200 ≤ status && status < 1000)

/-- Whether replies with a status have a body. -/
def hasBody (status : Nat) : Bool := 200 ≤ status && status ≠ 204 && status ≠ 304

/-- The phrase for the failure of a server, for those that have one. -/
def reason? : Nat → Option String
  | 500 => some "Internal Server Error"
  | 501 => some "Not Implemented"
  | 502 => some "Bad Gateway"
  | 503 => some "Service Unavailable"
  | 504 => some "Gateway Timeout"
  | 505 => some "HTTP Version Not Supported"
  | 506 => some "Variant Also Negotiates"
  | 507 => some "Insufficient Storage"
  | 508 => some "Loop Detected"
  | 510 => some "Not Extended"
  | 511 => some "Network Authentication Required"
  | _ => none

/-- A status with its phrase. -/
def statusText (status : Nat) : String :=
  Nat.repr status ++ " " ++ (reason? status).getD "<unknown status code>"

end Leasehold.Agent
