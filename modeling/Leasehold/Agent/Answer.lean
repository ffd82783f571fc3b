import Leasehold.Agent.Message
import Leasehold.Agent.Status
import Leasehold.Backend.Wire
import Leasehold.Json.Reader
import Leasehold.Text.Base64
import Leasehold.Text.Blank
/-!
What becomes of a request to an agent.

1. A message that gets no reply, or none that ends the exchange, makes the agent unavailable, and so
   does a reply from an agent that has no leader or stands behind a gateway that cannot reach it.
2. A reply that says that the lease is unknown wins over that, if the request was made for a lease.
3. Every other reply that is no success, and every success that makes no sense, is a rejection.

The client that carries messages encrypts them where their URL says so, and follows redirections, both by
itself. Neither shows here but by what the client brings back: a redirection that says where to go is not
among the answers, what is sent to where it leads is left out, and all that is known of redirections that
come to nothing is that they do (`Reply.astray`).
-/
namespace Leasehold.Agent

/-- What the client brings back for a message. -/
inductive Reply where
  /-- Nothing: no connection, no answer, or no answer in time. -/
  | lost
  /-- Nothing but its own account: it was redirected too often, or to where it cannot go. -/
  | astray (account : String)
  /-- A status and a body, which may break off. They come from the end of all redirections. A
  redirection that does not say where to go is an answer too. -/
  | answered (status : Nat) (body : List UInt8) (whole : Bool)

/-- What is read of a body, unless it broke off. -/
def bodyRead? (status : Nat) (body : List UInt8) (whole : Bool) : Option (List UInt8) :=
  if !hasBody status then some [] else if whole then some body else none

/-- Whether a text has a word in it. -/
def mentions (word : List Char) : List Char → Bool
  | [] => word.isEmpty
  | c :: rest => word.isPrefixOf (c :: rest) || mentions word rest

/-- What a body that explains a failure says, without the blanks around it (`reject`). A body that broke
off says nothing. -/
def explanation (status : Nat) (body : List UInt8) (whole : Bool) : List Char :=
  match bodyRead? status body whole with
  | some bytes => Text.trim (Text.lossy bytes)
  | none => []

/-- Whether a failure says that the lease of the request is unknown. -/
def saysUnknown (status : Nat) (text : List Char) : Bool :=
  let text := text.map Char.toLower
  status == 404 || mentions "invalid session \"".toList text
    || mentions "session not found".toList text

/-- Whether a failure says that the agent cannot serve requests at the moment. -/
def saysUnavailable (status : Nat) (text : List Char) : Bool :=
  let text := text.map Char.toLower
  status == 502 || status == 503 || status == 504
    || (isServerError status
      && (mentions "no cluster leader".toList text || mentions "rpc error".toList text))

/-- The error of a reply that is no success, for a request that was made for a lease or for none
(`classify`). -/
def classify (status : Nat) (text : List Char) (lease : Option String) : Error :=
  match lease.filter fun _ => saysUnknown status text with
  | some id => .sessionNotFound id
  | none =>
    if saysUnavailable status text then
      .backendUnavailable (statusText status ++ ": " ++ String.ofList text)
    else .backendRejected status (String.ofList text)

/-- The error of a success whose body cannot be read, as errors of the client are converted. -/
def unreadable : Error :=
  .backendRejected 0 "malformed response: error decoding response body"

/-- The JSON value of a body. -/
def jsonOf? (body : Option (List UInt8)) : Option Json := body.bind Json.ofBytes?

/-! ## Successes -/

/-- The id in the reply about a new lease. -/
def createdId? (json : Json) : Option String := do
  match ← json.fields? ["ID"] with
  | [id] => (← id).text?
  | _ => none

/-- The leases in a reply, of which there may be none at all. -/
def descriptors? : Json → Option (List Descriptor)
  | .null => some []
  | .array items => items.mapM Descriptor.ofJson?
  | _ => none

/-- A text that may be absent or null. -/
def optionalText? : Option Json → Option (Option String)
  | none | some .null => some none
  | some json => json.text?.map some

/-- A key as a reply gives it. -/
structure RawEntry where
  /-- The key. -/
  key : String
  /-- The value in Base64. -/
  value : Option String
  /-- The lease that holds the lock, which may be empty. -/
  session : Option String
  /-- The index of the last change. -/
  modifyIndex : Nat

/-- A key in a reply. -/
def rawEntry? (json : Json) : Option RawEntry := do
  match ← json.fields? ["Key", "Value", "Session", "ModifyIndex"] with
  | [key, value, session, modifyIndex] =>
    some
      { key := ← (← key).text?
        value := ← optionalText? value
        session := ← optionalText? session
        modifyIndex := ← Descriptor.wordOr 0 modifyIndex }
  | _ => none

/-- The keys in a reply. -/
def rawEntries? : Json → Option (List RawEntry)
  | .array items => items.mapM rawEntry?
  | _ => none

/-- A key with its value decoded (`decode`). -/
def RawEntry.decode (entry : RawEntry) : Except Error KeyEntry :=
  let decoded := match entry.value with
    | some text => Text.Base64.decode (Text.encode text)
    | none => .ok []
  match decoded with
  | .ok value =>
    .ok ⟨entry.key, value, entry.session.filter (· ≠ ""), entry.modifyIndex⟩
  | .error fault =>
    .error (.backendRejected 200
      ("undecodable value for " ++ entry.key ++ ": " ++ fault.message))

/-- The answer about a lock (`conditional_kv`). -/
def lockAnswer (body : Option (List UInt8)) : Except Error Bool :=
  match body with
  | none => .error unreadable
  | some bytes =>
    let text := Text.trim (Text.lossy bytes)
    if text = "true".toList then .ok true
    else if text = "false".toList then .ok false
    else .error (.backendRejected 200 ("unexpected kv response: " ++ String.ofList text))

/-- How a request ends whose reply is a success: the last part of `create_session`, `renew_session`,
`destroy_session`, `list_sessions`, `conditional_kv` and `get_key`. -/
def success (body : Option (List UInt8)) : (request : Backend.Request) → request.Outcome
  | .create _ _ =>
    match (jsonOf? body).bind createdId? with
    | some id => .ok id
    | none => .error unreadable
  | .renew id =>
    match (jsonOf? body).bind descriptors? with
    | some [] => .error (.sessionNotFound id)
    | some _ => .ok ()
    | none => .error unreadable
  | .destroy _ => .ok ()
  | .list =>
    match (jsonOf? body).bind descriptors? with
    | some sessions => .ok sessions
    | none => .error unreadable
  | .put _ _ _ => lockAnswer body
  | .release _ _ => lockAnswer body
  | .get _ =>
    match (jsonOf? body).bind rawEntries? with
    | some [] => .ok none
    | some (entry :: _) =>
      match entry.decode with
      | .ok found => .ok (some found)
      | .error error => .error error
    | none => .error unreadable

/-! ## All replies -/

/-- The lease that a request is made for. -/
def leaseOf : Backend.Request → Option String
  | .renew id | .destroy id | .put _ _ id | .release _ id => some id
  | .create _ _ | .list | .get _ => none

/-- How a request ends for which a status alone is answer enough: what is not there is destroyed
(`destroy_session`), and a key that is not there has no entry (`get_key`). -/
def missing : (request : Backend.Request) → Option request.Outcome
  | .destroy _ => some (.ok ())
  | .get _ => some (.ok none)
  | _ => none

/-- How a request ends that was answered: what each request does with a response. -/
def answered (request : Backend.Request) (status : Nat) (body : List UInt8) (whole : Bool) :
    request.Outcome :=
  if isSuccess status then success (bodyRead? status body whole) request
  else
    match (if status = 404 then missing request else none) with
    | some outcome => outcome
    | none => .error (classify status (explanation status body whole) (leaseOf request))

/-- The error of a request that is not answered, whose message was sent to a URL. -/
def unanswered (url : Url) : Error :=
  .backendUnavailable ("error sending request for url (" ++ String.ofList url.chars ++ ")")

/-- How a request ends whose message was sent to a URL. -/
def outcome (request : Backend.Request) (url : Url) : Reply → request.Outcome
  | .lost => .error (unanswered url)
  | .astray account => .error (.backendUnavailable account)
  | .answered status body whole =>
    if isFinal status then answered request status body whole else .error (unanswered url)

/-- A request with what was sent for it and how it ended. -/
structure Exchange (request : Backend.Request) where
  /-- What was sent, unless no message could be made. -/
  sent : Option Message
  /-- How the request ended. -/
  outcome : request.Outcome

/-- Makes a request of an agent (`send`), for whose message the client brings back a reply. -/
def exchange (agent : Agent) (request : Backend.Request) (reply : Reply) : Exchange request :=
  match message agent.settings request with
  | .error refusal => ⟨none, .error (.backendUnavailable refusal.message)⟩
  | .ok message => ⟨some message, outcome request message.url reply⟩

end Leasehold.Agent
