import Leasehold.Text.Percent
/-!
URLs in normal form, and their text. Reading a text is in `Url.Reader`, which gives this form: the
scheme in lower case, the host parsed, the port left out where it is the scheme's own, dot segments
resolved, and everything percent-encoded that must be.
-/
namespace Leasehold

namespace Url

/-- A host. -/
inductive Host where
  /-- A name in lower-case ASCII. It is empty where a host could be but is left out. -/
  | domain (name : List Char)
  /-- An address of 32 bits. -/
  | ipv4 (address : Nat)
  /-- An address of eight pieces of 16 bits. -/
  | ipv6 (pieces : List Nat)
deriving DecidableEq, Repr

/-- A path. -/
inductive Path where
  /-- Segments, each after a slash. -/
  | segments (items : List (List Char))
  /-- A text without structure. -/
  | plain (text : List Char)
deriving DecidableEq, Repr

end Url

/-- A URL. -/
structure Url where
  /-- The scheme. -/
  scheme : List Char
  /-- The name in front of the host. -/
  user : List Char := []
  /-- The password after that name. -/
  password : Option (List Char) := none
  /-- The host, if there is a place for one. -/
  host : Option Url.Host
  /-- The port, unless it is the one that belongs to the scheme. -/
  port : Option Nat
  /-- The path. -/
  path : Url.Path
  /-- What follows the question mark. -/
  query : Option (List Char)
  /-- What follows the number sign. -/
  fragment : Option (List Char)
deriving DecidableEq, Repr

namespace Url

/-- The port that belongs to a scheme. -/
def defaultPort? (scheme : List Char) : Option Nat :=
  if scheme = "http".toList ∨ scheme = "ws".toList then some 80
  else if scheme = "https".toList ∨ scheme = "wss".toList then some 443
  else if scheme = "ftp".toList then some 21
  else none

/-- Whether URLs of a scheme always have a host and take backslashes for slashes. -/
def isSpecial (scheme : List Char) : Bool :=
  (defaultPort? scheme).isSome || scheme == "file".toList

/-- The four bytes of an address in decimal. -/
def ipv4Chars (address : Nat) : List Char :=
  let byte (place : Nat) := Nat.toDigits 10 (address / place % 256)
  byte 16777216 ++ '.' :: byte 65536 ++ '.' :: byte 256 ++ '.' :: byte 1

/-- The length of the run of zeros in front. -/
def zeroRun (pieces : List Nat) : Nat := (pieces.takeWhile (· == 0)).length

/-- Where the first of the longest runs of zeros begins, and its length. -/
def longestZeros : Nat → List Nat → Nat × Nat
  | _, [] => (0, 0)
  | index, piece :: pieces =>
    let run := zeroRun (piece :: pieces)
    let (later, length) := longestZeros (index + 1) pieces
    if length ≤ run then (index, run) else (later, length)

/-- Pieces in hexadecimal with colons between them. -/
def pieceChars (pieces : List Nat) : List Char :=
  [':'].intercalate (pieces.map (Nat.toDigits 16))

/-- The text of an address of eight pieces, with two colons in place of the longest run of at least
two zeros. -/
def ipv6Chars (pieces : List Nat) : List Char :=
  let (start, length) := longestZeros 0 pieces
  if 2 ≤ length then
    pieceChars (pieces.take start) ++ [':', ':'] ++ pieceChars (pieces.drop (start + length))
  else pieceChars pieces

/-- The text of a host. -/
def Host.chars : Host → List Char
  | .domain name => name
  | .ipv4 address => ipv4Chars address
  | .ipv6 pieces => '[' :: ipv6Chars pieces ++ [']']

/-- The text of a path. -/
def Path.chars : Path → List Char
  | .segments items => items.flatMap ('/' :: ·)
  | .plain text => text

/-- The host and the port. -/
def hostChars (url : Url) : List Char :=
  match url.host with
  | none => []
  | some host =>
    host.chars ++
      match url.port with
      | some port => ':' :: Nat.toDigits 10 port
      | none => []

/-- The name and the password, with a mark after them. -/
def userChars (url : Url) : List Char :=
  match url.user, url.password with
  | [], none => []
  | user, none => user ++ ['@']
  | user, some password => user ++ ':' :: password ++ ['@']

/-- What stands between the scheme and the path: two slashes, if there is a place for a host, and
who and where. A path that begins with two slashes where there is none is kept apart by a dot
segment. -/
def authorityChars (url : Url) : List Char :=
  match url.host, url.path with
  | some _, _ => ['/', '/'] ++ url.userChars ++ url.hostChars
  | none, .segments ([] :: _ :: _) => ['/', '.']
  | none, _ => []

/-- A part of a URL after its mark, if it is there. -/
def partChars (mark : Char) : Option (List Char) → List Char
  | some text => mark :: text
  | none => []

/-- The text of a URL up to its fragment. -/
def target (url : Url) : List Char :=
  url.scheme ++ ':' :: url.authorityChars ++ url.path.chars ++ partChars '?' url.query

/-- The text of a URL. -/
def chars (url : Url) : List Char := url.target ++ partChars '#' url.fragment

/-- Whether a URL says where something is. -/
def hasHost (url : Url) : Bool :=
  match url.host with
  | none | some (.domain []) => false
  | some _ => true

/-! ## Names and passwords -/

/-- Who a URL names, and with which password. A name that is no text counts as none at all, and so
does a password. -/
def login? (url : Url) : Option (List Char × Option (List Char)) := do
  let user ← Text.decode? (Text.percentDecode url.user)
  let password := url.password.bind fun password => Text.decode? (Text.percentDecode password)
  if user.isEmpty && password.isNone then none else some (user, password)

/-- The URL without a name and a password. -/
def withoutLogin (url : Url) : Url := { url with user := [], password := none }

/-! ## Adding parameters -/

/-- A byte in the form of parameters: letters, digits and four marks stand for themselves, and a plus
sign for a space. -/
def formByte (byte : UInt8) : List Char :=
  let c := Char.ofNat byte.toNat
  if byte.toNat < 128 ∧ (c.isAlphanum ∨ c = '*' ∨ c = '-' ∨ c = '.' ∨ c = '_') then [c]
  else if c = ' ' then ['+']
  else Text.percentByte byte

/-- A text in the form of parameters. -/
def formChars (text : List Char) : List Char := (text.flatMap Text.charBytes).flatMap formByte

/-- Adds a parameter to the query. -/
def addParameter (url : Url) (name value : List Char) : Url :=
  let pair := formChars name ++ '=' :: formChars value
  let query := match url.query with
    | some (c :: text) => c :: text ++ '&' :: pair
    | _ => pair
  { url with query := some query }

end Url

end Leasehold
