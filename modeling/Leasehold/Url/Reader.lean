import Leasehold.Url.HostReader
/-!
Reading a URL, whose text must begin with a scheme.

1. Blanks and control characters around the text are dropped, and tabs and line ends anywhere in it,
   which are called gaps.
2. In URLs with a special scheme a backslash is as good as a slash, any number of slashes may follow
   the scheme, and there is a host. Only in URLs of files the host may be missing.
3. Segments of one or two dots, percent-encoded or not, go to the same place or up. A drive letter is
   never left by going up. At the beginning of the path of a file it is written with a colon, and
   then there is no host. There a gap after a drive letter also ends the segment.
-/
namespace Leasehold.Url

/-- Whether a character is dropped at both ends of a URL. -/
def isPadding (c : Char) : Bool := c.toNat ≤ 0x20

/-- The text of a URL without what is dropped at both ends. -/
def trimmed (text : List Char) : List Char :=
  ((text.dropWhile isPadding).reverse.dropWhile isPadding).reverse

/-- Whether a character is dropped anywhere in a URL. -/
def isGap (c : Char) : Bool := c == '\t' || c == '\n' || c == '\r'

/-- A text without gaps. -/
def withoutGaps (text : List Char) : List Char := text.filter (!isGap ·)

/-- What follows so many characters of a text, not counting gaps. -/
def dropBeyondGaps : Nat → List Char → List Char
  | 0, text => text
  | _, [] => []
  | count + 1, c :: rest =>
    if isGap c then dropBeyondGaps (count + 1) rest else dropBeyondGaps count rest

/-- The scheme in front of a text in lower case, and what follows its colon. -/
def scheme? (text : List Char) : Option (List Char × List Char) :=
  let scheme := text.takeWhile fun c => c.isAlphanum || c == '+' || c == '-' || c == '.'
  match text.drop scheme.length with
  | ':' :: rest =>
    if (scheme.head?.map Char.isAlpha).getD false then some (scheme.map Char.toLower, rest) else none
  | _ => none

/-- Whether a character is beyond ASCII or a control character. -/
def isControl (c : Char) : Bool := c.toNat < 0x20 || 0x7F ≤ c.toNat

/-- Whether a character must be percent-encoded in a segment of a path. -/
def encodedInPath (c : Char) : Bool := isControl c || " \"<>`#?\x7b\x7d".toList.contains c

/-- Whether a character must be percent-encoded in a query. -/
def encodedInQuery (special : Bool) (c : Char) : Bool :=
  isControl c || " \"<>#".toList.contains c || (special && c == '\'')

/-- Whether a character must be percent-encoded in a fragment. -/
def encodedInFragment (c : Char) : Bool := isControl c || " \"<>`".toList.contains c

/-- Whether a segment of a path stays where it is. -/
def isDot (segment : List Char) : Bool :=
  [".".toList, "%2e".toList].contains (segment.map Char.toLower)

/-- Whether a segment of a path goes up. -/
def isDoubleDot (segment : List Char) : Bool :=
  ["..".toList, ".%2e".toList, "%2e.".toList, "%2e%2e".toList].contains (segment.map Char.toLower)

/-- Whether a segment is a drive letter. -/
def isDrive : List Char → Bool
  | [letter, mark] => letter.isAlpha && (mark == ':' || mark == '|')
  | _ => false

/-- Whether a segment is a drive letter, or one with a backslash after it. -/
def isAtDrive (segment : List Char) : Bool :=
  isDrive (segment.take 2) && (segment.length == 2 || segment[2]? == some '\\')

/-- The segments of a path one level up. -/
def goUp (segments : List (List Char)) : List (List Char) :=
  match segments.getLast? with
  | some last => if isAtDrive last then segments else segments.dropLast
  | none => []

/-- A drive letter at the beginning of a segment, with a gap after it, and the rest of the segment. -/
def brokenDrive? (segment : List Char) : Option (List Char × List Char) :=
  match withoutGaps segment with
  | letter :: ':' :: c :: rest =>
    if letter.isAlpha && ((dropBeyondGaps 2 segment).head?.map isGap).getD false then
      some ([letter, ':'], c :: rest)
    else none
  | _ => none

/-- The path of a URL on the way through its segments. -/
structure Walk where
  /-- The segments of the path so far. -/
  path : List (List Char) := []
  /-- Whether the path begins with a drive letter that has taken the place of the host. -/
  onDrive : Bool := false

namespace Walk

/-- Adds a segment. -/
def add (walk : Walk) (segment : List Char) : Walk :=
  { walk with path := walk.path ++ [Text.percentEncode encodedInPath segment] }

/-- Adds a segment that goes nowhere else. -/
def enter (isFile : Bool) (walk : Walk) (segment : List Char) : Walk :=
  if isFile && walk.path.isEmpty then
    match brokenDrive? segment, withoutGaps segment with
    | some (drive, rest), _ => (walk.add drive).add rest
    | none, [letter, mark] =>
      if isDrive [letter, mark] then { path := [[letter, ':']], onDrive := true }
      else walk.add [letter, mark]
    | none, segment => walk.add segment
  else walk.add (withoutGaps segment)

/-- Goes through segments. A path that ends with a dot segment ends with a slash. -/
def through (isFile : Bool) (walk : Walk) : List (List Char) → Walk
  | [] => walk
  | segment :: rest =>
    if isDoubleDot (withoutGaps segment) then
      let up := { walk with path := goUp walk.path }
      if rest.isEmpty then up.add [] else through isFile up rest
    else if isDot (withoutGaps segment) then
      if rest.isEmpty then walk.add [] else through isFile walk rest
    else through isFile (walk.enter isFile segment) rest

end Walk

/-- Whether a character ends the authority of a URL. -/
def endsAuthority (special : Bool) (c : Char) : Bool :=
  c == '/' || c == '?' || c == '#' || (special && c == '\\')

/-- The host in front of a text, and what follows it. Colons in brackets belong to the host. -/
def splitHost (special inBrackets : Bool) : List Char → List Char × List Char
  | [] => ([], [])
  | c :: rest =>
    if (c = ':' ∧ !inBrackets) ∨ endsAuthority special c then ([], c :: rest)
    else
      let (host, rest) :=
        splitHost special (if c = '[' then true else if c = ']' then false else inBrackets) rest
      (c :: host, rest)

/-- The number of a port, which must not be larger than 65535. No digits are as good as no port, and
so is the port that belongs to the scheme. -/
def portOf? (scheme digits : List Char) : Option (Option Nat) :=
  if digits.isEmpty then some none
  else
    match digits? 10 digits with
    | some port =>
      if 65535 < port then none
      else if defaultPort? scheme = some port then some none
      else some (some port)
    | none => none

/-- The port in front of a text, and what follows it. -/
def splitPort? (scheme : List Char) : List Char → Option (Option Nat × List Char)
  | ':' :: text =>
    let digits := text.takeWhile (!endsAuthority true ·)
    (portOf? scheme digits).map fun port => (port, text.drop digits.length)
  | text => some (none, text)

/-- Whether a character must be percent-encoded in a name or a password. -/
def encodedInLogin (c : Char) : Bool := encodedInPath c || "/:;=@[\\]^|".toList.contains c

/-- What stands before the last mark in a text, if there is one, and what follows it. -/
def splitLogin? (text : List Char) : Option (List Char × List Char) :=
  if text.contains '@' then
    let after := (text.reverse.takeWhile (· ≠ '@')).reverse
    some (text.take (text.length - after.length - 1), after)
  else none

/-- The name and the password that stand in front of a host. An empty password is none. -/
def readLogin (text : List Char) : List Char × Option (List Char) :=
  let user := text.takeWhile (· ≠ ':')
  let password := text.drop (user.length + 1)
  (Text.percentEncode encodedInLogin user,
    if password.isEmpty then none else some (Text.percentEncode encodedInLogin password))

/-- The query and the fragment of a URL, from what follows its path. -/
def ending (special : Bool) (text : List Char) : Option (List Char) × Option (List Char) :=
  let fragment (text : List Char) : Option (List Char) := match text with
    | '#' :: rest => some (Text.percentEncode encodedInFragment rest)
    | _ => none
  match text with
  | '?' :: rest =>
    let query := rest.takeWhile (· ≠ '#')
    (some (Text.percentEncode (encodedInQuery special) query), fragment (rest.drop query.length))
  | text => (none, fragment text)

/-- The segments of a path, between slashes or what is as good as one. -/
def splitPath (special : Bool) (text : List Char) : List (List Char) :=
  Text.splitAt '/' (if special then text.map fun c => if c = '\\' then '/' else c else text)

/-- The path of a URL after its authority. -/
def pathOf (special : Bool) (text : List Char) : Path :=
  match text with
  | [] => .segments (if special then [[]] else [])
  | c :: rest =>
    let text := if c = '/' ∨ (special ∧ c = '\\') then rest else c :: rest
    .segments (Walk.through false {} (splitPath special text)).path

/-- Where the path of a URL ends. -/
def endsPath (c : Char) : Bool := c == '?' || c == '#'

/-- A URL with an authority, from what follows the slashes. Nothing but the end of the text may stand
between a mark and a host that is left out, and a name, a password or a port need a host. -/
def withAuthority? (scheme text : List Char) : Option Url := do
  let special := isSpecial scheme
  let authority := text.takeWhile (!endsAuthority special ·)
  let after := text.drop authority.length
  let (login, text) := (splitLogin? authority).elim ([], text) fun (login, rest) =>
    (login, rest ++ after)
  let (user, password) := readLogin login
  let (name, rest) := splitHost special false text
  if name.isEmpty && (special || rest.head? = some ':' || !user.isEmpty || password.isSome
      || (authority == ['@'] && !after.isEmpty)) then none
  else
    let host ← if special then host? name else plainHost? name
    let (port, rest) ← splitPort? scheme rest
    let pathText := rest.takeWhile (!endsPath ·)
    let (query, fragment) := ending special (rest.drop pathText.length)
    some
      { scheme, user, password, host := some host, port, path := pathOf special pathText, query,
        fragment }

/-- A URL of a file, from its host, the segments of its path, and what follows them. Empty segments
in front are left out. -/
def fileUrl (scheme : List Char) (host : Host) (segments : List (List Char)) (rest : List Char) :
    Url :=
  let walk := Walk.through true {} segments
  let path := match walk.path.dropWhile List.isEmpty with
    | [] => [[]]
    | path => path
  let (query, fragment) := ending true (withoutGaps rest)
  { scheme, host := some (if walk.onDrive then .domain [] else host), port := none,
    path := .segments path, query, fragment }

/-- The host of a file. The host on which everything happens is as good as none. -/
def fileHost? (name : List Char) : Option Host :=
  if name.isEmpty then some (.domain [])
  else
    (host? name).map fun host =>
      if host = .domain "localhost".toList then .domain [] else host

/-- A URL of a file, from what follows the scheme, with its gaps. A drive letter is no host. The slash
after a host begins the path; where there is none, an empty segment stands before that slash. -/
def file? (scheme text : List Char) : Option Url :=
  let split (text : List Char) : List (List Char) × List Char :=
    let pathText := text.takeWhile (!endsPath ·)
    (splitPath true pathText, text.drop pathText.length)
  let slashes := ((withoutGaps text).take 2).takeWhile endsSegment
  let after := dropBeyondGaps slashes.length text
  let name := (withoutGaps after).takeWhile (!endsAuthority true ·)
  if slashes.length < 2 ∨ isDrive name then
    let (segments, rest) := split after
    some (fileUrl scheme (.domain []) segments rest)
  else do
    let host ← fileHost? name
    let (segments, rest) := split (dropBeyondGaps name.length after)
    let hasOwnSlash := host ≠ .domain [] ∧ 1 < segments.length
    some (fileUrl scheme host (if hasOwnSlash then segments.tail else segments) rest)
where
  /-- Whether a character ends a segment of the path of a file. -/
  endsSegment (c : Char) : Bool := c == '/' || c == '\\'

/-- A URL without an authority, from what follows the scheme. -/
def withoutAuthority (scheme text : List Char) : Url :=
  let pathText := text.takeWhile (!endsPath ·)
  let (query, fragment) := ending false (text.drop pathText.length)
  let path := match pathText with
    | '/' :: rest => Path.segments (Walk.through false {} (splitPath false rest)).path
    | text => .plain (Text.percentEncode isControl text)
  { scheme, host := none, port := none, path, query, fragment }

/-- The URL that a text stands for. -/
def read? (text : List Char) : Option Url := do
  let text := trimmed text
  let (scheme, rest) ← scheme? (withoutGaps text)
  if scheme = "file".toList then file? scheme (text.dropWhile (· ≠ ':')).tail
  else if isSpecial scheme then
    withAuthority? scheme (rest.dropWhile fun c => c == '/' || c == '\\')
  else
    match rest with
    | '/' :: '/' :: rest => withAuthority? scheme rest
    | rest => some (withoutAuthority scheme rest)

/-- The text of the URL that a text stands for. -/
def normalize? (text : String) : Option String :=
  (read? text.toList).map fun url => String.ofList url.chars

example : normalize? "HTTP://Host:80/a/../b c?x#y" = some "http://host/b%20c?x#y" := by
  decide +kernel
example : normalize? "http:\\\\h\\a/%2E%2e/b" = some "http://h/b" := by decide +kernel
example : normalize? "http://:80/" = none := by decide +kernel
example : normalize? "http://h:65536/" = none := by decide +kernel
example : normalize? "http://u%41:p:q@h" = some "http://u%41:p%3Aq@h/" := by decide +kernel
example : normalize? "file:c|\\x\\..\\.." = some "file:///c:/" := by decide +kernel
example : normalize? "file:C:\tx" = some "file:///C:/x" := by decide +kernel
example : normalize? "a:/C:\\x/../b" = some "a:/C:\\x/b" := by decide +kernel
example : normalize? "a:/.//b" = some "a:/.//b" := by decide +kernel

end Leasehold.Url
