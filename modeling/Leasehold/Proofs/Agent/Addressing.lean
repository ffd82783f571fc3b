import Leasehold.Agent.Message
import Leasehold.Proofs.Url.Parameters
import Leasehold.Proofs.Url.Verbatim

/-! Where requests go. The key or the lease of a request is put into the text of a URL as it is, and
that text is read again. The message arrives where it should if and only if the key or the lease is
verbatim. -/
namespace Leasehold.Agent

open Text (percentDecode bytes)
open Url (Verbatim)

/-- The part of a request's path that comes from outside: a key without the slashes in front, or the
id of a lease. -/
def subjectOf : Backend.Request → List Char
  | .create _ _ | .list => []
  | .renew id | .destroy id => id.toList
  | .put key _ _ | .release key _ | .get key => bareKey key

/-- An agent over HTTP whose interface is found under a path. -/
structure Rooted (settings : AgentSettings) (base : List Char) (root : Url) : Prop where
  /-- The URL of the interface. -/
  reads : Url.read? (settings.baseUrl ++ "/v1".toList) = some root
  web : root.scheme = "http".toList ∨ root.scheme = "https".toList
  path : root.path.chars = base ++ "/v1".toList
  query : root.query = none
  fragment : root.fragment = none

/-- A message goes to the path of its request and says nothing else but the parameters. -/
structure Addressed (settings : AgentSettings) (base : List Char) (request : Backend.Request)
    (message : Message) : Prop where
  /-- The path stands for that of the interface and that of the request. -/
  path : percentDecode message.url.path.chars =
    percentDecode base ++ bytes ("/v1/".toList ++ pathOf request)
  /-- The query holds the datacenter, if there is one, and the lease that locks or unlocks a key. -/
  query : Url.parameters message.url.query =
    (allParameters settings request).map fun (name, value) =>
      (bytes name.toList, bytes value.toList)

/-- What stands behind a verbatim text and a slash decides whether all of it is verbatim. -/
theorem verbatim_behind {front text : List Char} (slash : front = text ++ ['/']) (own : Verbatim text)
    (rest : List Char) : Verbatim (front ++ rest) ↔ Verbatim rest := by
  rw [slash, List.append_assoc]
  exact Url.verbatim_append own rest

/-- The path of a request is verbatim if what comes from outside is. -/
theorem verbatim_path (request : Backend.Request) :
    Verbatim (pathOf request) ↔ Verbatim (subjectOf request) := by
  have create : Verbatim "session/create".toList := Url.verbatim_of_plain (by decide) (by decide)
  have list : Verbatim "session/list".toList := Url.verbatim_of_plain (by decide) (by decide)
  have renew : Verbatim "session/renew".toList := Url.verbatim_of_plain (by decide) (by decide)
  have destroy : Verbatim "session/destroy".toList := Url.verbatim_of_plain (by decide) (by decide)
  have keys : Verbatim "kv".toList := Url.verbatim_of_plain (by decide) (by decide)
  cases request with
  | create name ttl => exact iff_of_true create Url.verbatim_nil
  | list => exact iff_of_true list Url.verbatim_nil
  | renew id => exact verbatim_behind (by decide +kernel) renew id.toList
  | destroy id => exact verbatim_behind (by decide +kernel) destroy id.toList
  | put key _ _ | release key _ | get key => exact verbatim_behind (by decide +kernel) keys (bareKey key)

section
variable {settings : AgentSettings} {base : List Char} {root : Url} {request : Backend.Request}
variable {message : Message}

/-- The URL of a message is the one that was read, without a name and a password, and with the
parameters. The method and the body are those of the request. -/
theorem message_made (made : Agent.message settings request = .ok message) :
    (∃ url : Url, Url.read? (addressOf settings request) = some url ∧ ∃ user password,
      message.url = withParameters settings request { url with user, password }) ∧
      message.method = methodOf request ∧ message.body = bodyOf settings request := by
  unfold Agent.message at made
  split at made
  · cases made
  · rename_i url reads
    split at made
    · unfold messageTo at made
      dsimp only at made
      generalize same : (if url.login?.isSome then url.withoutLogin else url) = anonymous at made
      obtain ⟨user, password, rfl⟩ : ∃ user password, anonymous = { url with user, password } := by
        rw [← same]
        split
        · exact ⟨_, _, rfl⟩
        · exact ⟨_, _, rfl⟩
      split at made
      · cases made
      · split at made
        · cases made
        · cases made
          exact ⟨⟨url, reads, user, password, rfl⟩, rfl, rfl⟩
    · cases made

/-- The text of a request's URL goes on behind that of the interface. -/
theorem addressOf_eq (settings : AgentSettings) (request : Backend.Request) :
    addressOf settings request = (settings.baseUrl ++ "/v1".toList) ++ '/' :: pathOf request := by
  rw [addressOf, List.append_assoc, List.append_assoc]
  rfl

/-- What is read of the text of a request's URL. -/
theorem message_parts (rooted : Rooted settings base root)
    (made : Agent.message settings request = .ok message) :
    ∃ walk : Url.Walk, root.path = .segments walk.path ∧
      message.url.path = .segments
        (walk.through false (Url.splitPath true (Url.pathPart (pathOf request)))).path ∧
      (Url.pathPart (pathOf request) = pathOf request → Url.parameters message.url.query =
        (allParameters settings request).map fun (name, value) =>
          (bytes name.toList, bytes value.toList)) := by
  have solid : root.path.chars.getLast? ≠ some '/' := by
    rw [rooted.path, List.getLast?_append]
    rintro ⟨⟩
  have ends : ∃ c ∈ (settings.baseUrl ++ "/v1".toList).getLast?, Url.isPadding c = false := by
    refine ⟨'1', ?_, rfl⟩
    rw [List.getLast?_append]
    rfl
  obtain ⟨walk, path, extended⟩ := Url.read?_extend rooted.reads rooted.web rooted.query
    rooted.fragment solid ends (pathOf request)
  obtain ⟨⟨url, reads, user, password, same⟩, -⟩ := message_made made
  rw [addressOf_eq, extended] at reads
  cases reads
  refine ⟨walk, path, ?_, fun whole => ?_⟩
  · obtain ⟨query, added⟩ := Url.foldl_addParameter _ (allParameters settings request)
    rw [same, withParameters, added]
    rfl
  · rw [same, withParameters, Url.parameters_foldl]
    · rw [Url.ending_of_whole whole]
      rfl
    · rw [Url.ending_of_whole whole]
      simp

/-- Where the path of a request begins, and where it leads to. -/
theorem path_start (rooted : Rooted settings base root)
    (made : Agent.message settings request = .ok message) :
    ∃ walk : Url.Walk, message.url.path = .segments
        (walk.through false (Url.splitPath true (Url.pathPart (pathOf request)))).path ∧
      percentDecode base ++ bytes ("/v1/".toList ++ pathOf request) =
        Url.meaning walk.path ++ 47 :: bytes (pathOf request) := by
  obtain ⟨walk, path, reached, _⟩ := message_parts rooted made
  have version : percentDecode root.path.chars = percentDecode base ++ bytes "/v1".toList := by
    have plain : percentDecode "v1".toList = bytes "v1".toList :=
      Text.percentDecode_of_not_mem (by decide)
    rw [rooted.path]
    show percentDecode (base ++ '/' :: "v1".toList) = _
    rw [Text.percentDecode_slash, plain]
    rfl
  have start : Url.meaning walk.path = percentDecode base ++ bytes "/v1".toList := by
    rw [← version, path, Url.percentDecode_path]
  refine ⟨walk, reached, ?_⟩
  rw [start, List.append_assoc, Text.bytes_append]
  rfl

/-- The path of a message stands for that of the interface and that of the request if and only if the
path of the request is verbatim. -/
theorem path_iff (rooted : Rooted settings base root)
    (made : Agent.message settings request = .ok message) :
    percentDecode message.url.path.chars =
        percentDecode base ++ bytes ("/v1/".toList ++ pathOf request) ↔
      Verbatim (pathOf request) := by
  obtain ⟨walk, reached, whole⟩ := path_start rooted made
  rw [reached, Url.percentDecode_path, whole]
  exact Url.kept_iff walk (pathOf request)

/-- A message arrives where it should if and only if what comes from outside is verbatim. -/
theorem addressed_iff (rooted : Rooted settings base root)
    (made : Agent.message settings request = .ok message) :
    Addressed settings base request message ↔ Verbatim (subjectOf request) := by
  rw [← verbatim_path, ← path_iff rooted made]
  refine ⟨Addressed.path, fun path => ⟨path, ?_⟩⟩
  obtain ⟨_, _, _, query⟩ := message_parts rooted made
  exact query ((path_iff rooted made).mp path).pathPart_eq

end

/-- **Where requests go.** A request whose key or lease is verbatim goes to the path that it is for, and
its query holds nothing but the parameters; any other request goes elsewhere. Verbatim requests with
the same target are for the same thing. -/
theorem requests_addressed {settings : AgentSettings} {base : List Char} {root : Url}
    {request : Backend.Request} {message : Message} (rooted : Rooted settings base root)
    (made : Agent.message settings request = .ok message) :
    (Addressed settings base request message ↔ Verbatim (subjectOf request)) ∧
      ∀ (other : Backend.Request) (second : Message), Agent.message settings other = .ok second →
        Verbatim (subjectOf request) → Verbatim (subjectOf other) →
        percentDecode message.url.path.chars = percentDecode second.url.path.chars →
        pathOf request = pathOf other := by
  refine ⟨addressed_iff rooted made, fun other second sent own others same => ?_⟩
  rw [(path_iff rooted made).mpr ((verbatim_path request).mpr own),
    (path_iff rooted sent).mpr ((verbatim_path other).mpr others)] at same
  exact List.append_cancel_left (Text.bytes_injective (List.append_cancel_left same))

/-- An agent over plain HTTP is rooted at its address if the URL of its interface reads so. -/
theorem rooted_of_parts {settings : AgentSettings}
    (parts : (Url.read? (settings.baseUrl ++ "/v1".toList)).map (fun root =>
      (root.scheme, root.path.chars, root.query, root.fragment)) =
        some ("http".toList, "/v1".toList, none, none)) : ∃ root, Rooted settings [] root := by
  obtain ⟨root, reads, parts⟩ := Option.map_eq_some_iff.mp parts
  obtain ⟨scheme, path, query, fragment⟩ : root.scheme = "http".toList ∧
      root.path.chars = "/v1".toList ∧ root.query = none ∧ root.fragment = none := by
    simpa using parts
  exact ⟨root, reads, .inl scheme, path, query, fragment⟩

/-- The key `a#b` is asked for where the key `a` is. -/
theorem marked_key_strays : ∃ (settings : AgentSettings) (root : Url) (message second : Message),
    Rooted settings [] root ∧ Agent.message settings (.get "a#b") = .ok message ∧
      Agent.message settings (.get "a") = .ok second ∧
      ¬ Addressed settings [] (.get "a#b") message ∧ Addressed settings [] (.get "a") second ∧
      message.url.path.chars = second.url.path.chars ∧ message.url.query = second.url.query := by
  let settings : AgentSettings := { address := "consul.test:8500" }
  have target (key : String) : key = "a#b" ∨ key = "a" →
      (Agent.message settings (.get key)).toOption.map
        (fun message => (message.url.path.chars, message.url.query)) =
          some ("/v1/kv/a".toList, none) := by
    rintro (rfl | rfl) <;> decide +kernel
  obtain ⟨root, rooted⟩ : ∃ root, Rooted settings [] root := rooted_of_parts (by decide +kernel)
  have marked := target "a#b" (.inl rfl)
  have plain := target "a" (.inr rfl)
  cases made : Agent.message settings (.get "a#b") with
  | error refusal => rw [made] at marked; cases marked
  | ok message =>
    cases sent : Agent.message settings (.get "a") with
    | error refusal => rw [sent] at plain; cases plain
    | ok second =>
      rw [made] at marked
      rw [sent] at plain
      have same := Prod.mk.inj ((Option.some.inj marked).trans (Option.some.inj plain).symm)
      refine ⟨settings, root, message, second, rooted, made, sent, fun addressed => ?_, ?_, same⟩
      · have verbatim := (requests_addressed rooted made).1.mp addressed
        exact (verbatim.unmarked '#' (by decide)).2.1 rfl
      · exact (requests_addressed rooted sent).1.mpr
          (Url.verbatim_of_plain (by decide) (by decide))

end Leasehold.Agent
