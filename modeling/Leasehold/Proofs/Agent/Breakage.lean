import Leasehold.Agent.Http
import Leasehold.Proofs.Session.Transition

/-! Connections that break. A reply whose connection ends early is either lost or a status with a body
that broke off, depending on whether all its headers have come (`readReply_take`). For a request that
needs the body of a success the two differ: the first is an agent that is unavailable, the second is
taken for an agent that talks nonsense, which no session retries. -/
namespace Leasehold.Agent

/-! ## Replies that end early -/

/-- A byte ends the lines in front of a body, or ends one of them, or is part of one. -/
theorem head?_cons (line : List UInt8) (byte : UInt8) :
    (∀ rest, head? line (byte :: rest) = some ([], rest)) ∨
      (∃ whole, ∀ rest, head? line (byte :: rest) =
        (head? [] rest).map fun (lines, body) => (whole :: lines, body)) ∨
      ∀ rest, head? line (byte :: rest) = head? (line ++ [byte]) rest := by
  by_cases feed : byte = 10
  · by_cases blank : (if line.getLast? = some 13 then line.dropLast else line).isEmpty
    · exact .inl fun rest => by rw [head?, if_pos feed, if_pos blank]
    · exact .inr (.inl ⟨_, fun rest => by rw [head?, if_pos feed, if_neg blank]⟩)
  · exact .inr (.inr fun rest => by rw [head?, if_neg feed])

/-- Bytes that begin with the lines in front of a body: with fewer of them there are no lines yet, and
whatever follows the lines is the body. -/
theorem head?_split {line bytes : List UInt8} {lines : List (List UInt8)} {body : List UInt8}
    (read : head? line bytes = some (lines, body)) :
    ∃ front, bytes = front ++ body ∧
      (∀ size < front.length, head? line (front.take size) = none) ∧
      ∀ other, head? line (front ++ other) = some (lines, other) := by
  induction bytes generalizing line lines with
  | nil => cases read
  | cons byte rest ih =>
    rcases head?_cons line byte with last | ⟨whole, ends⟩ | inside
    · rw [last] at read
      cases read
      refine ⟨[byte], rfl, ?_, last⟩
      intro size short
      cases Nat.lt_one_iff.mp short
      rfl
    · rw [ends] at read
      obtain ⟨⟨later, _⟩, found, same⟩ := Option.map_eq_some_iff.mp read
      cases same
      obtain ⟨front, rfl, early, done⟩ := ih found
      refine ⟨byte :: front, rfl, ?_, fun other => by rw [List.cons_append, ends, done]; rfl⟩
      rintro (_ | size) short
      · rfl
      · rw [List.take_succ_cons, ends, early size (Nat.lt_of_succ_lt_succ short)]
        rfl
    · rw [inside] at read
      obtain ⟨front, rfl, early, done⟩ := ih read
      refine ⟨byte :: front, rfl, ?_, fun other => by rw [List.cons_append, inside, done]⟩
      rintro (_ | size) short
      · rfl
      · rw [List.take_succ_cons, inside, early size (Nat.lt_of_succ_lt_succ short)]

/-- Bytes that are a whole reply, whose headers announce the length of its body. -/
structure Announced (bytes : List UInt8) (status : Nat) (body : List UInt8) where
  /-- The line with the status. -/
  first : List UInt8
  /-- The headers. -/
  lines : List (List UInt8)
  read : head? [] bytes = some (first :: lines, body)
  means : status? first = some status
  final : isFinal status = true
  plain : (headerValue? "transfer-encoding" lines).map (·.map Char.toLower) ≠
    some "chunked".toList
  length : (headerValue? "content-length" lines).bind decimal? = some body.length

/-- What is read when a connection ends after so many bytes of a reply. -/
theorem readReply_take {bytes body : List UInt8} {status : Nat}
    (announced : Announced bytes status body) (size : Nat) :
    readReply (bytes.take size) =
      if size + body.length < bytes.length then .lost
      else .answered status (body.take (size + body.length - bytes.length))
        (bytes.length ≤ size) := by
  obtain ⟨front, rfl, early, done⟩ := head?_split announced.read
  rw [readReply, finalReply, List.length_append]
  by_cases inside : size < front.length
  · rw [List.take_append_of_le_length (Nat.le_of_lt inside), early size inside,
      if_pos (Nat.add_lt_add_right inside _)]
  · obtain ⟨more, rfl⟩ := Nat.exists_eq_add_of_le (Nat.le_of_not_lt inside)
    have left : front.length + more + body.length - (front.length + body.length) = more := by omega
    have reply : replyOf status announced.lines (body.take more) =
        .answered status (body.take more) (body.length ≤ more) := by
      rw [replyOf, if_neg announced.plain, announced.length]
      dsimp only
      rw [List.take_of_length_le (List.length_take_le' _ _)]
      simp only [List.length_take, Nat.le_min, Nat.le_refl, and_true]
    rw [List.take_length_add_append, done, if_neg (by omega), left]
    simp [announced.means, announced.final, reply]

/-! ## Requests that need a body -/

theorem isFinal_of_success {status : Nat} (success : isSuccess status = true) :
    isFinal status = true := by
  simp only [isSuccess, isFinal, Bool.and_eq_true, Bool.or_eq_true, decide_eq_true_eq] at success ⊢
  omega

/-- Ways in which a connection breaks before all of a success has come. -/
inductive Broken : Reply → Prop where
  /-- There is no connection, or it ends before the headers do, or time is over by then. -/
  | lost : Broken .lost
  /-- Redirections come to nothing. -/
  | astray : Broken (.astray account)
  /-- A success begins to arrive, and its body breaks off, or time is over before its end. -/
  | cut (success : isSuccess status = true) (expected : hasBody status = true) :
      Broken (.answered status body false)

/-- A reply with the length of its body is broken when the connection ends before the reply does. -/
theorem broken_of_short {bytes body : List UInt8} {status size : Nat}
    (announced : Announced bytes status body) (success : isSuccess status = true)
    (expected : hasBody status = true) (short : size < bytes.length) :
    Broken (readReply (bytes.take size)) := by
  rw [readReply_take announced]
  split
  · exact .lost
  · rw [decide_eq_false (Nat.not_le_of_lt short)]
    exact .cut success expected

/-- Whether the headers of a reply have come. -/
def arrives : Reply → Bool
  | .lost | .astray _ => false
  | .answered _ _ _ => true

/-- The error of a request whose reply is broken. -/
def breakage (message : Message) : Reply → Error
  | .lost => unanswered message.url
  | .astray account => .backendUnavailable account
  | .answered _ _ _ => .backendRejected 0 "malformed response: error decoding response body"

theorem breakage_retryable (message : Message) (reply : Reply) :
    (breakage message reply).isRetryable = !arrives reply := by
  cases reply <;> rfl

theorem breakage_of_arrives {message : Message} {reply : Reply} (comes : arrives reply = true) :
    breakage message reply =
      .backendRejected 0 "malformed response: error decoding response body" := by
  cases reply with
  | lost | astray => cases comes
  | answered => rfl

/-- A success without a body is unreadable, unless nothing is read of it. -/
theorem success_none {request : Backend.Request} (needs : ∀ id, request ≠ .destroy id) :
    success none request = .error unreadable := by
  cases request with
  | destroy id => exact absurd rfl (needs id)
  | _ => rfl

theorem exchange_broken {agent : Agent} {request : Backend.Request} {message : Message}
    {reply : Reply} (made : Agent.message agent.settings request = .ok message)
    (needs : ∀ id, request ≠ .destroy id) (broken : Broken reply) :
    (exchange agent request reply).outcome = .error (breakage message reply) := by
  rw [exchange, made]
  cases broken with
  | lost => rfl
  | astray => rfl
  | cut success expected =>
    simp only [outcome, isFinal_of_success success, if_true, answered, success, bodyRead?, expected,
      Bool.not_true, Bool.false_eq_true, if_false, success_none needs]
    rfl

/-! ## Sessions -/

/-- Answers that tell a monitor of an error: about a new lease or about a renewal. -/
inductive Tells (error : Error) : Session.Monitor.Phase → Manager.Reply → Prop where
  | created : Tells error .creating (.created (.error error))
  | renewed {id : String} : Tells error (.renewing id) (.renewed (.error error))

/-- Before the TTL is over, an active session whose monitor is told of an error goes on if the error is
worth a retry, and is invalidated if it is not. -/
theorem told_of_error {session : Session} {index : Nat} {phase : Session.Monitor.Phase}
    {reply : Manager.Reply} {error : Error} {now : Instant}
    (waits : session.monitors[index]? = some ⟨false, phase⟩) (tells : Tells error phase reply)
    (active : session.lease.state = .active)
    (early : now - session.lease.renewedAt < session.ttl.nanos) :
    ∃ next, session.step now (.answered (.monitor index) reply) = some (next, none) ∧
      next.lease.state = if error.isRetryable then .active else .invalidated := by
  cases tells with
  | created =>
    refine ⟨session.monitorCreated now index (.error error), ?_, ?_⟩
    · simp [Session.step, Session.answer, waits]
    · simp only [Session.monitorCreated]
      split
      · exact active
      · rfl
  | renewed =>
    refine ⟨session.monitorRenewed now index (.error error), ?_, ?_⟩
    · simp [Session.step, Session.answer, waits]
    · simp only [Session.monitorRenewed, if_neg (Nat.not_le_of_lt early)]
      split
      · exact active
      · rfl

/-- **What a broken connection comes to.** If a message can be made for a request that needs a body,
and the connection breaks, the request fails. As long as the headers of a success have not come, the
agent counts as unavailable, and a session that is told so goes on. Once they have come, the agent
counts as one that has refused the request, and a session that is told so is invalidated at once. -/
theorem broken_connection {agent : Agent} {request : Backend.Request} {message : Message}
    {reply : Reply} (made : Agent.message agent.settings request = .ok message)
    (needs : ∀ id, request ≠ .destroy id) (broken : Broken reply) :
    ∃ error, (exchange agent request reply).outcome = .error error ∧
      error = breakage message reply ∧ (error.isRetryable = true ↔ arrives reply = false) ∧
      ∀ (session : Session) (index : Nat) (phase : Session.Monitor.Phase) (told : Manager.Reply)
        (now : Instant), session.monitors[index]? = some ⟨false, phase⟩ → Tells error phase told →
        session.lease.state = .active → now - session.lease.renewedAt < session.ttl.nanos →
        ∃ next, session.step now (.answered (.monitor index) told) = some (next, none) ∧
          (next.lease.state = .invalidated ↔ arrives reply = true) := by
  refine ⟨_, exchange_broken made needs broken, rfl, ?_, ?_⟩
  · rw [breakage_retryable, Bool.not_eq_true']
  · intro session index phase told now waits tells active early
    obtain ⟨next, stepped, state⟩ := told_of_error waits tells active early
    refine ⟨next, stepped, ?_⟩
    rw [state, breakage_retryable]
    cases arrives reply <;> simp

/-- An agent on the default port of a host. -/
def plainAgent : Agent := ⟨{ address := "consul.test:8500" }, by decide⟩

/-- A success whose body has twelve bytes. -/
def paddedReply : List UInt8 :=
  Text.encode "HTTP/1.1 200 OK\r\nContent-Length: 12\r\n\r\n[]          "

private def paddedReplyAnnounced : Announced paddedReply 200 (Text.encode "[]          ") where
  first := Text.encode "HTTP/1.1 200 OK"
  lines := [Text.encode "Content-Length: 12"]
  read := by decide +kernel
  means := by decide +kernel
  final := rfl
  plain := by decide +kernel
  length := by decide +kernel

/-- Ten bytes before the end of its body, the connection breaks. -/
theorem cut_renewal_rejected : ∃ message,
    Agent.message plainAgent.settings (.renew "abc") = .ok message ∧
    (∀ id, Backend.Request.renew "abc" ≠ .destroy id) ∧
    Broken (readReply (paddedReply.take 41)) ∧
    (exchange plainAgent (.renew "abc") (readReply (paddedReply.take 41))).outcome =
      .error (.backendRejected 0 "malformed response: error decoding response body") := by
  have possible : (Agent.message plainAgent.settings (.renew "abc")).toOption.isSome = true := by
    decide +kernel
  cases made : Agent.message plainAgent.settings (.renew "abc") with
  | error refusal => rw [made] at possible; cases possible
  | ok message =>
    have broken : Broken (readReply (paddedReply.take 41)) :=
      broken_of_short paddedReplyAnnounced rfl rfl (by decide +kernel)
    obtain ⟨error, outcome, same, _⟩ := broken_connection made (by rintro id ⟨⟩) broken
    rw [breakage_of_arrives (by decide +kernel)] at same
    exact ⟨message, rfl, by rintro id ⟨⟩, broken, same ▸ outcome⟩

end Leasehold.Agent
