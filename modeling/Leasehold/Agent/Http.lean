import Leasehold.Agent.Answer
/-!
Messages and replies as HTTP/1.1 puts them on a connection that serves one message only.

A reply is read when the connection has ended. It has a first line with a status, lines of headers
and an empty line; the rest is its body, whose length a header gives, which comes in chunks, or which
goes on to the end. A body that is shorter than it should be has broken off. A redirection is read like
every other reply, and where it leads is not looked at.
-/
namespace Leasehold.Agent

/-! ## Writing -/

/-- A line of a message. -/
def lineBytes (text : List Char) : List UInt8 := text.flatMap Text.charBytes ++ [13, 10]

/-- A header with its value. -/
def headerBytes (name value : String) : List UInt8 :=
  lineBytes (name.toList ++ ':' :: ' ' :: value.toList)

/-- A header for an option, if it is set. -/
def optionalHeader (name : String) : Option String → List UInt8
  | some value => headerBytes name value
  | none => []

/-- The host and the port of a URL as the header for them says. -/
def hostText (url : Url) : String := String.ofList url.hostChars

/-- The path and the query of a URL. -/
def resource (url : Url) : List Char := url.path.chars ++ Url.partChars '?' url.query

/-- A message as it is sent. -/
def Message.bytes (message : Message) : List UInt8 :=
  lineBytes (message.method.name.toList ++ ' ' :: resource message.url ++ " HTTP/1.1".toList)
    ++ headerBytes "host" (hostText message.url)
    ++ headerBytes "accept" "*/*"
    ++ optionalHeader "authorization" message.authorization
    ++ optionalHeader "x-consul-token" message.token
    ++ optionalHeader "content-type" message.contentType
    ++ headerBytes "content-length" (Nat.repr message.body.length)
    ++ headerBytes "connection" "close"
    ++ lineBytes []
    ++ message.body

/-! ## Reading -/

/-- Lines up to an empty one, and what follows it. `line` is the present line so far. -/
def head? (line : List UInt8) : List UInt8 → Option (List (List UInt8) × List UInt8)
  | [] => none
  | byte :: rest =>
    if byte = 10 then
      let whole := if line.getLast? = some 13 then line.dropLast else line
      if whole.isEmpty then some ([], rest)
      else (head? [] rest).map fun (lines, body) => (whole :: lines, body)
    else head? (line ++ [byte]) rest

/-- The text of a line, one character for each byte. -/
def lineText (line : List UInt8) : List Char := line.map fun byte => Char.ofNat byte.toNat

/-- The value of decimal digits, if there are any and nothing else. -/
def decimal? (text : List Char) : Option Nat :=
  if text.isEmpty then none else Url.digits? 10 text

/-- The status in the first line of a reply. -/
def status? (line : List UInt8) : Option Nat :=
  match Text.splitAt ' ' (lineText line) with
  | version :: status :: _ =>
    if "HTTP/1.".toList.isPrefixOf version && status.length == 3 then decimal? status else none
  | _ => none

/-- The value of a header among the lines of a reply. -/
def headerValue? (name : String) (lines : List (List UInt8)) : Option (List Char) :=
  lines.findSome? fun line =>
    let text := lineText line
    let found := text.takeWhile (· ≠ ':')
    if found.map Char.toLower = name.toList then some (Text.trim (text.drop (found.length + 1)))
    else none

/-- A line that ends in front of a line feed, and what follows it. -/
def chunkLine (bytes : List UInt8) : List Char × List UInt8 :=
  let line := bytes.takeWhile (· ≠ 10)
  (lineText line, bytes.drop (line.length + 1))

/-- The bytes of a body that comes in chunks, and whether the last chunk has come. -/
def chunks : Nat → List UInt8 → List UInt8 × Bool
  | 0, _ => ([], false)
  | fuel + 1, bytes =>
    let (line, rest) := chunkLine bytes
    let digits := line.takeWhile fun c => (Text.hexValue? c).isSome
    match (if digits.isEmpty then none else Url.digits? 16 digits) with
    | none => ([], false)
    | some 0 => ([], true)
    | some size =>
      if rest.length < size then (rest, false)
      else
        let (later, whole) := chunks fuel (chunkLine (rest.drop size)).2
        (rest.take size ++ later, whole)

/-- The reply with these headers, whose body came over a connection that has ended. -/
def replyOf (status : Nat) (lines : List (List UInt8)) (body : List UInt8) : Reply :=
  if (headerValue? "transfer-encoding" lines).map (·.map Char.toLower) = some "chunked".toList then
    let (body, whole) := chunks (body.length + 1) body
    .answered status body whole
  else
    match (headerValue? "content-length" lines).bind decimal? with
    | some length => .answered status (body.take length) (length ≤ body.length)
    | none => .answered status body true

/-- The first reply among at most so many that ends the exchange. -/
def finalReply : Nat → List UInt8 → Reply
  | 0, _ => .lost
  | fuel + 1, bytes =>
    match head? [] bytes with
    | some (first :: lines, rest) =>
      match status? first with
      | none => .lost
      | some status => if isFinal status then replyOf status lines rest else finalReply fuel rest
    | _ => .lost

/-- The reply that came over a connection, which has ended. -/
def readReply (bytes : List UInt8) : Reply := finalReply (bytes.length + 1) bytes

end Leasehold.Agent
