import Leasehold.Agent
import Leasehold.Backend
import Leasehold.Duration.Wire
import Leasehold.Json
import Leasehold.Text.Base64
import Leasehold.Url.Reader
/-!
What an agent is sent for each request to the backend: an HTTP message, whose URL is read from the
agent's base URL, the path of the request and its parameters. A message cannot be made if the text of
its URL is none, if the URL has no host, if the token cannot stand in a header, or if the URL is not
one that can be sent to. A name and a password in the URL are sent in a header instead.
-/
namespace Leasehold.Agent

/-- The methods of HTTP that agents are asked with. -/
inductive Method where
  | get
  | put
deriving DecidableEq, Repr

/-- The name of a method. -/
def Method.name : Method → String
  | .get => "GET"
  | .put => "PUT"

/-- A message to an agent. -/
structure Message where
  /-- The method. -/
  method : Method
  /-- The URL. -/
  url : Url
  /-- The name and the password that the URL was given with, as a header has them. -/
  authorization : Option String
  /-- The access token, as it arrives. -/
  token : Option String
  /-- What kind of body the message says it has. -/
  contentType : Option String
  /-- The body. -/
  body : List UInt8

/-- Why a message cannot be made. -/
inductive Refusal where
  /-- The text of the URL or the token cannot be used. -/
  | malformed
  /-- Nothing can be sent to the URL. -/
  | unsendable (url : Url)

/-- The text of a refusal. -/
def Refusal.message : Refusal → String
  | .malformed => "builder error"
  | .unsendable url => "builder error for url (" ++ String.ofList url.chars ++ ")"

/-- The method of a request. -/
def methodOf : Backend.Request → Method
  | .list | .get _ => .get
  | _ => .put

/-- A key without the slashes in front (`kv_path`). -/
def bareKey (key : String) : List Char := key.toList.dropWhile (· == '/')

/-- The path of a request below the version of the interface. -/
def pathOf : Backend.Request → List Char
  | .create _ _ => "session/create".toList
  | .renew id => "session/renew/".toList ++ id.toList
  | .destroy id => "session/destroy/".toList ++ id.toList
  | .list => "session/list".toList
  | .put key _ _ => "kv/".toList ++ bareKey key
  | .release key _ => "kv/".toList ++ bareKey key
  | .get key => "kv/".toList ++ bareKey key

/-- The parameters of a request, apart from the datacenter: the lease that locks or unlocks a key. -/
def parametersOf : Backend.Request → List (String × String)
  | .put _ _ id => [("acquire", id)]
  | .release _ id => [("release", id)]
  | _ => []

/-- What a new lease is to be like: the body of `create_session`. -/
def creationJson (settings : AgentSettings) (name : String) (ttl : Duration) : Json :=
  .record
    [("Name", .text name), ("TTL", .text ttl.onWire), ("Behavior", .text settings.behavior.name),
     ("LockDelay", .text settings.lockDelay.onWire)]

/-- What kind of body the message of a request says it has. -/
def contentTypeOf : Backend.Request → Option String
  | .create _ _ => some "application/json"
  | _ => none

/-- The body of the message of a request. -/
def bodyOf (settings : AgentSettings) : Backend.Request → List UInt8
  | .create name ttl => Text.encode (creationJson settings name ttl).render
  | .put _ value _ => value
  | _ => []

/-- The text of the URL of a request, without its parameters (`url`). -/
def addressOf (settings : AgentSettings) (request : Backend.Request) : List Char :=
  settings.baseUrl ++ "/v1/".toList ++ pathOf request

/-- The parameters of a request, the datacenter first. -/
def allParameters (settings : AgentSettings) (request : Backend.Request) : List (String × String) :=
  (match settings.datacenter with
    | some datacenter => [("dc", datacenter)]
    | none => []) ++ parametersOf request

/-- The URL of a request with its parameters, from the URL without them. -/
def withParameters (settings : AgentSettings) (request : Backend.Request) (url : Url) : Url :=
  (allParameters settings request).foldl
    (fun url (name, value) => url.addParameter name.toList value.toList) url

/-- The header for a name and a password. -/
def authorizationOf (user : List Char) (password : Option (List Char)) : String :=
  let text := Text.encode (String.ofList (user ++ ':' :: password.getD []))
  "Basic " ++ String.ofList ((Text.Base64.encode text).map fun byte => Char.ofNat byte.toNat)

/-- Whether a text can stand in a header: tabs are its only control characters. -/
def isHeaderText (text : String) : Bool :=
  text.toList.all fun c => (0x20 ≤ c.toNat || c == '\t') && c.toNat ≠ 0x7F

/-- A header as it arrives, without spaces and tabs around it. -/
def asReceived (text : String) : String :=
  let isPadding (c : Char) : Bool := c == ' ' || c == '\t'
  String.ofList ((text.toList.dropWhile isPadding).reverse.dropWhile isPadding).reverse

/-- The longest text of a URL that something can be sent to. -/
def maxUrlLength : Nat := 65534

/-- Whether the name of a host can stand in a message. -/
def isSendableHost : Url.Host → Bool
  | .domain name => !name.isEmpty && name.all fun c => !"\"`\x7b\x7d".toList.contains c
  | _ => true

/-- Whether something can be sent to a URL: it goes over HTTP, to a host whose name can be written,
and is not too long. -/
def isSendable (url : Url) : Bool :=
  (url.scheme == "http".toList || url.scheme == "https".toList)
    && (url.host.map isSendableHost).getD false
    && url.chars.length ≤ maxUrlLength

/-- The message for a request, whose URL was read. Where the URL says who asks, that goes into a
header. -/
def messageTo (settings : AgentSettings) (request : Backend.Request) (url : Url) :
    Except Refusal Message :=
  let login := url.login?
  let url := withParameters settings request (if login.isSome then url.withoutLogin else url)
  if !(settings.token.map isHeaderText).getD true then .error .malformed
  else if !isSendable url then .error (.unsendable url)
  else
    .ok
      { method := methodOf request
        url
        authorization := login.map fun (user, password) => authorizationOf user password
        token := settings.token.map asReceived
        contentType := contentTypeOf request
        body := bodyOf settings request }

/-- The message for a request (`request`, and what the client makes of it before it sends). -/
def message (settings : AgentSettings) (request : Backend.Request) : Except Refusal Message :=
  match Url.read? (addressOf settings request) with
  | none => .error .malformed
  | some url => if url.hasHost then messageTo settings request url else .error (.unsendable url)

end Leasehold.Agent
