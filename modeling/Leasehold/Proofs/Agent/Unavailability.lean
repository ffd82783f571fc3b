import Leasehold.Proofs.Agent.Breakage
import Leasehold.Proofs.Session.Turns
import Leasehold.Proofs.Tolerance

/-! When an agent counts as unavailable. A request is `Unserved` when no reply to its message comes, or
a reply that says that the agent is out of order, and also when its message cannot be made. The last of
these lasts for as long as the settings do, but the error is the same, so that a session whose requests
cannot be made asks for its lease for ever (`Persistent`). -/
namespace Leasehold.Agent

open Tolerance (isOwn)

/-! ## Why an agent counts as unavailable -/

/-- A failure of a gateway that does not reach the agent, or of an agent that does not reach a leader.
Letters of either case may stand in the text. -/
def OutOfOrder (status : Nat) (text : List Char) : Prop :=
  status = 502 ∨ status = 503 ∨ status = 504 ∨
    (500 ≤ status ∧ status < 600) ∧
      ("no cluster leader".toList <:+: text.map Char.toLower ∨
        "rpc error".toList <:+: text.map Char.toLower)

/-- A failure that names a lease that is lost. Letters of either case may stand in the text. -/
def NamesLoss (status : Nat) (text : List Char) : Prop :=
  status = 404 ∨ "invalid session \"".toList <:+: text.map Char.toLower ∨
    "session not found".toList <:+: text.map Char.toLower

/-- What the client says of a message to a URL to which there was no reply. -/
def sendingFailed (url : Url) : String :=
  "error sending request for url (" ++ String.ofList url.chars ++ ")"

/-- No reply to a message comes that ends the exchange, and the client says so. -/
inductive Silent (message : Message) : Reply → String → Prop where
  /-- No reply comes. -/
  | lost : Silent message .lost (sendingFailed message.url)
  /-- Redirections come to nothing. -/
  | astray : Silent message (.astray account) account
  /-- A reply comes that says that the agent is still to answer. -/
  | unfinished (more : isFinal status = false) :
      Silent message (.answered status body whole) (sendingFailed message.url)

/-- Why the agent counts as unavailable after a request, with what was sent and what the error says. -/
inductive Unserved (agent : Agent) (request : Backend.Request) (reply : Reply)
    (sent : Option Message) (said : String) : Prop where
  /-- No message could be made. -/
  | unmade (refused : Agent.message agent.settings request = .error refusal) (nothing : sent = none)
      (text : said = refusal.message)
  /-- The message was sent, and there was no reply. -/
  | silent (message : Message) (made : Agent.message agent.settings request = .ok message)
      (all : sent = some message) (silence : Silent message reply said)
  /-- The message was sent, and the reply says that the agent is out of order. If the request was made
  for a lease, the reply does not say that the lease is lost. -/
  | failing (message : Message) (made : Agent.message agent.settings request = .ok message)
      (all : sent = some message) (reply : reply = .answered status body whole)
      (failure : OutOfOrder status (explanation status body whole))
      (other : ∀ id, leaseOf request = some id →
        ¬ NamesLoss status (explanation status body whole))
      (text : said = statusText status ++ ": " ++ String.ofList (explanation status body whole))

section
variable {agent : Agent} {request : Backend.Request} {message : Message} {reply : Reply}
variable {status : Nat} {text : List Char} {body : List UInt8} {whole : Bool} {said : String}
variable {lease : Option String} {error : Error}

/-! ## Failures -/

theorem mentions_iff {word : List Char} : mentions word text = true ↔ word <:+: text := by
  induction text with
  | nil => simp [mentions]
  | cons c rest ih =>
    rw [mentions, Bool.or_eq_true, ih, List.isPrefixOf_iff_prefix, List.infix_cons_iff]

theorem saysUnavailable_iff : saysUnavailable status text = true ↔ OutOfOrder status text := by
  simp only [saysUnavailable, isServerError, OutOfOrder, Bool.or_eq_true, Bool.and_eq_true,
    beq_iff_eq, decide_eq_true_eq, mentions_iff, or_assoc]

theorem saysUnknown_iff : saysUnknown status text = true ↔ NamesLoss status text := by
  simp only [saysUnknown, NamesLoss, Bool.or_eq_true, beq_iff_eq, mentions_iff, or_assoc]

theorem OutOfOrder.serverError (failure : OutOfOrder status text) : 500 ≤ status ∧ status < 600 := by
  rcases failure with rfl | rfl | rfl | ⟨range, _⟩
  · decide
  · decide
  · decide
  · exact range

/-- The loss of the lease that the request is made for wins over an agent that is out of order. -/
theorem classify_unavailable :
    classify status text lease = .backendUnavailable said ↔
      OutOfOrder status text ∧ (∀ id, lease = some id → ¬ NamesLoss status text) ∧
        said = statusText status ++ ": " ++ String.ofList text := by
  have otherwise : (if saysUnavailable status text then
        Error.backendUnavailable (statusText status ++ ": " ++ String.ofList text)
      else .backendRejected status (String.ofList text)) = .backendUnavailable said ↔
      OutOfOrder status text ∧ said = statusText status ++ ": " ++ String.ofList text := by
    rw [← saysUnavailable_iff]
    split
    · rename_i unavailable
      rw [Error.backendUnavailable.injEq, and_iff_right unavailable, eq_comm]
    · rename_i serves
      exact iff_of_false nofun fun failure => serves failure.1
  cases lease with
  | none =>
    rw [classify, Option.filter_none, otherwise]
    simp
  | some id =>
    by_cases unknown : saysUnknown status text = true
    · have lost := saysUnknown_iff.mp unknown
      rw [classify, Option.filter_some, if_pos unknown]
      exact iff_of_false nofun fun failure => failure.2.1 id rfl lost
    · have kept : ¬ NamesLoss status text := fun lost => unknown (saysUnknown_iff.mpr lost)
      rw [classify, Option.filter_some, if_neg unknown, otherwise]
      simp [kept]

/-! ## Replies -/

/-- An answer about a lock that is none is a rejection. -/
theorem lockAnswer_error {read : Option (List UInt8)} (failed : lockAnswer read = .error error) :
    ∃ status said, error = .backendRejected status said := by
  unfold lockAnswer at failed
  split at failed
  · cases failed
    exact ⟨_, _, rfl⟩
  · dsimp only at failed
    split at failed
    · cases failed
    · split at failed
      · cases failed
      · cases failed
        exact ⟨_, _, rfl⟩

/-- An entry whose value cannot be decoded is a rejection. -/
theorem decode_error {entry : RawEntry} (failed : entry.decode = .error error) :
    ∃ status said, error = .backendRejected status said := by
  unfold RawEntry.decode at failed
  dsimp only at failed
  split at failed
  · cases failed
  · cases failed
    exact ⟨_, _, rfl⟩

/-- A success that is none is a rejection, or a renewal after which there is no lease. -/
theorem success_error {read : Option (List UInt8)} (failed : success read request = .error error) :
    (∃ status said, error = .backendRejected status said) ∨
      ∃ id, request = .renew id ∧ error = .sessionNotFound id ∧
        (jsonOf? read).bind descriptors? = some [] := by
  cases request with
  | destroy => cases failed
  | put | release => exact .inl (lockAnswer_error failed)
  | create | list =>
    simp only [success] at failed
    split at failed
    · cases failed
    · cases failed
      exact .inl ⟨_, _, rfl⟩
  | renew id =>
    simp only [success] at failed
    split at failed
    · rename_i without
      cases failed
      exact .inr ⟨id, rfl, rfl, without⟩
    · cases failed
    · cases failed
      exact .inl ⟨_, _, rfl⟩
  | get =>
    simp only [success] at failed
    split at failed
    · cases failed
    · split at failed
      · cases failed
      · rename_i undecoded
        cases failed
        exact .inl (decode_error undecoded)
    · cases failed
      exact .inl ⟨_, _, rfl⟩

/-- A success is an answer, whatever its body is. -/
theorem success_available (read : Option (List UInt8)) (request : Backend.Request) :
    success read request ≠ .error (.backendUnavailable said) := by
  intro failed
  rcases success_error failed with ⟨_, _, same⟩ | ⟨_, _, same, _⟩
  · cases same
  · cases same

/-- What is missing is no failure. -/
theorem missing_ok {outcome : request.Outcome} (found : missing request = some outcome) :
    ∃ answer, outcome = .ok answer := by
  cases request with
  | destroy | get => exact ⟨_, (Option.some.inj found).symm⟩
  | _ => cases found

theorem answered_unavailable :
    answered request status body whole = .error (.backendUnavailable said) ↔
      OutOfOrder status (explanation status body whole) ∧
        (∀ id, leaseOf request = some id → ¬ NamesLoss status (explanation status body whole)) ∧
        said = statusText status ++ ": " ++ String.ofList (explanation status body whole) := by
  unfold answered
  split
  · rename_i success
    refine iff_of_false (success_available _ request) fun failure => ?_
    have range := failure.1.serverError
    simp only [isSuccess, Bool.and_eq_true, decide_eq_true_eq] at success
    omega
  · split
    · rename_i outcome found
      split at found
      · rename_i absent
        obtain ⟨_, rfl⟩ := missing_ok found
        refine iff_of_false (by rintro ⟨⟩) fun failure => ?_
        have range := failure.1.serverError
        omega
      · cases found
    · rw [← classify_unavailable, Except.error.injEq]

/-! ## Exchanges -/

/-- The error of a request that is not answered. -/
private theorem unanswered_iff {url : Url} :
    (.error (unanswered url) : request.Outcome) = .error (.backendUnavailable said) ↔
      said = sendingFailed url := by
  have same : unanswered url = .backendUnavailable (sendingFailed url) := rfl
  rw [Except.error.injEq, same, Error.backendUnavailable.injEq, eq_comm]

/-- A reply that says that the agent is out of order ends the exchange. -/
theorem OutOfOrder.final (failure : OutOfOrder status text) : isFinal status = true := by
  have range := failure.serverError
  simp only [isFinal, Bool.or_eq_true, Bool.and_eq_true, decide_eq_true_eq]
  omega

/-- After a message was sent, there is no reply, or one that says that the agent is out of order. -/
private theorem outcome_unavailable :
    outcome request message.url reply = .error (.backendUnavailable said) ↔
      Silent message reply said ∨ ∃ status body whole, reply = .answered status body whole ∧
        answered request status body whole = .error (.backendUnavailable said) := by
  cases reply with
  | lost =>
    rw [outcome, unanswered_iff]
    constructor
    · rintro rfl
      exact .inl .lost
    · rintro (silence | ⟨_, _, _, ⟨⟩, -⟩)
      cases silence
      rfl
  | astray account =>
    rw [outcome, Except.error.injEq, Error.backendUnavailable.injEq]
    constructor
    · rintro rfl
      exact .inl .astray
    · rintro (silence | ⟨_, _, _, ⟨⟩, -⟩)
      cases silence
      rfl
  | answered status body whole =>
    by_cases final : isFinal status = true
    · rw [outcome, if_pos final]
      constructor
      · intro failure
        exact .inr ⟨_, _, _, rfl, failure⟩
      · rintro (silence | ⟨_, _, _, ⟨⟩, failure⟩)
        · cases silence with
          | unfinished more => exact absurd (more.symm.trans final) Bool.false_ne_true
        · exact failure
    · rw [outcome, if_neg final, unanswered_iff]
      constructor
      · rintro rfl
        exact .inl (.unfinished (Bool.eq_false_iff.mpr final))
      · rintro (silence | ⟨_, _, _, ⟨⟩, failure⟩)
        · cases silence with
          | unfinished => rfl
        · exact absurd (answered_unavailable.mp failure).1.final final

/-- An agent counts as unavailable after a request if and only if the request was not served. -/
theorem exchange_unavailable :
    (exchange agent request reply).outcome = .error (.backendUnavailable said) ↔
      Unserved agent request reply (exchange agent request reply).sent said := by
  cases made : Agent.message agent.settings request with
  | error refusal =>
    have same : exchange agent request reply =
        ⟨none, .error (.backendUnavailable refusal.message)⟩ := by rw [exchange, made]
    rw [same]
    constructor
    · intro unavailable
      cases unavailable
      exact .unmade made rfl rfl
    · rintro (⟨refused, -, rfl⟩ | ⟨_, sent, -⟩ | ⟨_, sent, -⟩)
      · rw [made] at refused
        cases refused
        rfl
      · rw [made] at sent
        cases sent
      · rw [made] at sent
        cases sent
  | ok message =>
    have same : exchange agent request reply =
        ⟨some message, outcome request message.url reply⟩ := by rw [exchange, made]
    rw [same, outcome_unavailable]
    constructor
    · rintro (silence | ⟨status, body, whole, rfl, failure⟩)
      · exact .silent message made rfl silence
      · obtain ⟨failure, other, text⟩ := answered_unavailable.mp failure
        exact .failing message made rfl rfl failure other text
    · rintro (⟨refused, -⟩ | ⟨_, sent, -, silence⟩ | ⟨_, sent, -, reply, failure, other, text⟩)
      · rw [made] at refused
        cases refused
      · rw [made] at sent
        cases sent
        exact .inl silence
      · exact .inr ⟨_, _, _, reply, answered_unavailable.mpr ⟨failure, other, text⟩⟩

end

/-! ## Sessions whose requests cannot be made -/

/-- What becomes of a session that keeps its leases with an agent, while nobody calls on it. -/
inductive Attended (agent : Agent) (label : String) (span : Duration) : Session → Prop where
  /-- It was opened with valid parameters. -/
  | opened (valid : Session.validate span timing = .ok ())
      (opened : Session.opened now label span timing
        (exchange agent (.create label span) reply).outcome = .ok session) :
      Attended agent label span session
  /-- Something happened to it by itself. -/
  | moved (attended : Attended agent label span session) (own : isOwn event = true)
      (stepped : session.step now event = some (next, call)) : Attended agent label span next
  /-- A call that it had made came to an end. -/
  | answered {call : Manager.Call} (attended : Attended agent label span session)
      (asks : session.standing task = .working call)
      (stepped : session.step now (.answered task
        (call.reply (exchange agent call.request reply).outcome)) = some (next, further)) :
      Attended agent label span next

/-- Where the only monitor of a session stands that asks for a lease again and again. -/
inductive Round (interval : Duration) (queue : List Session.Task) : Session.Monitor.Phase → Prop where
  /-- It sleeps before it tries again. -/
  | asleep (nobody : queue = []) : Round interval queue (.asleep since interval)
  /-- It waits for its turn. -/
  | queued (alone : queue = [.monitor 0]) : Round interval queue .queued
  /-- It has asked for a lease. -/
  | creating (alone : queue = [.monitor 0]) : Round interval queue .creating

/-- A session that has no lease, asks for one again and again, and tells nobody that it has none. -/
structure Persistent (session : Session) : Prop where
  without : session.lease.id = ""
  active : session.lease.state = .active
  untold : session.signal = {}
  callers : session.callers = []
  monitors : ∃ phase, session.monitors = [⟨false, phase⟩] ∧
    Round session.settings.retryInterval session.queue phase

section
variable {session next : Session} {event : Session.Event} {call : Option Manager.Call}
variable {now : Instant} {index : Nat} {agent : Agent} {label : String} {span : Duration}
variable {refusal : Refusal} {task : Session.Task}

/-- A session that could not ask for its first lease will ask again. -/
theorem persistent_of_fresh (fresh : session.Fresh now) (without : session.lease.id = "") :
    Persistent session := by
  refine ⟨without, fresh.active, fresh.signal, fresh.callers, _, fresh.monitors, ?_⟩
  rw [Session.nextDelay, if_pos without]
  exact .asleep fresh.queue

/-- There is one monitor, which was not told to stop. -/
theorem Persistent.sole (persistent : Persistent session)
    (found : session.monitors[index]? = some ⟨cancelled, phase⟩) :
    index = 0 ∧ cancelled = false ∧ session.monitors = [⟨false, phase⟩] ∧
      Round session.settings.retryInterval session.queue phase := by
  obtain ⟨_, monitors, round⟩ := persistent.monitors
  rw [monitors, List.getElem?_singleton] at found
  split at found
  · rename_i first
    cases found
    exact ⟨first, rfl, monitors, round⟩
  · cases found

/-- Whoever waits for an answer has asked for a lease. -/
theorem Persistent.working {asked : Manager.Call} (persistent : Persistent session)
    (works : session.standing task = .working asked) :
    asked = .create session.name session.ttl := by
  obtain ⟨phase, monitors, round⟩ := persistent.monitors
  cases task with
  | caller index =>
    rw [Session.standing, persistent.callers, List.getElem?_nil] at works
    cases works
  | monitor index =>
    rw [Session.standing, monitors, List.getElem?_singleton] at works
    split at works
    · cases round with
      | asleep => cases works
      | queued => cases works
      | creating => cases works; rfl
    · cases works

/-- A session that asks for a lease again and again goes on like this when it gets none. -/
theorem persistent_preserved (persistent : Persistent session)
    (outcome : Session.Transition now session event next call)
    (bearing : isOwn event = true ∨ ∃ task error,
      event = .answered task (.created (.error error)) ∧ error.isRetryable = true) :
    Persistent next := by
  have uncalled {index : Nat} {caller : Session.Caller}
      (found : session.callers[index]? = some caller) : False := by
    rw [persistent.callers] at found
    cases found
  cases outcome
  case woke asleep due =>
    obtain ⟨rfl, rfl, monitors, round⟩ := persistent.sole asleep
    cases round with
    | asleep nobody =>
      refine { persistent with monitors := ⟨.queued, ?_, .queued ?_⟩ }
      · simp [Session.setMonitor, monitors]
      · simp [nobody]
  case asked queued _ _ =>
    obtain ⟨rfl, -, monitors, round⟩ := persistent.sole queued
    cases round with
    | queued alone =>
      refine { persistent with monitors := ⟨.creating, ?_, .creating alone⟩ }
      simp [Session.setMonitor, monitors]
  case postponed waits _ =>
    obtain ⟨rfl, -, monitors, round⟩ := persistent.sole waits
    cases round with
    | creating alone =>
      refine { persistent with
        monitors := ⟨.asleep now session.settings.retryInterval, ?_, .asleep ?_⟩ }
      · simp [Session.sleepAgain, Session.leave, Session.setMonitor, monitors, Session.nextDelay,
          persistent.without]
      · simp [Session.sleepAgain, Session.leave, Session.setMonitor, alone]
  -- Nobody was told to stop, and nobody calls.
  case noticed told _ | ignored told _ => cases (persistent.sole told).2.1
  case retired queued needless =>
    obtain ⟨rfl, rfl, -⟩ := persistent.sole queued
    simp [persistent.active] at needless
  case renews leased => exact absurd persistent.without leased
  case found queued _ | closed queued _ _ | surrendered queued _ _ | refused queued =>
    exact (uncalled queued).elim
  -- The others are not what may happen.
  case denied fatal =>
    rcases bearing with own | ⟨_, _, same, retryable⟩
    · cases own
    · cases same
      rw [retryable] at fatal
      cases fatal
  all_goals
    rcases bearing with own | ⟨_, _, same, -⟩
    · cases own
    · cases same

/-- A request whose message cannot be made fails, whatever the agent would reply. -/
theorem exchange_refused {request : Backend.Request} (reply : Reply)
    (refused : Agent.message agent.settings request = .error refusal) :
    exchange agent request reply = ⟨none, .error (.backendUnavailable refusal.message)⟩ := by
  rw [exchange, refused]

/-- How a call for a lease ends whose message cannot be made. -/
theorem reply_refused (reply : Reply)
    (refused : Agent.message agent.settings (.create label span) = .error refusal) :
    (Manager.Call.create label span).reply
        (exchange agent (Manager.Call.create label span).request reply).outcome =
      .created (.error (.backendUnavailable refusal.message)) := by
  simp only [Manager.Call.request, exchange_refused reply refused, Manager.Call.reply]

/-- A session whose requests for a lease cannot be made asks for one again and again. -/
theorem Attended.persistent (attended : Attended agent label span session)
    (refused : Agent.message agent.settings (.create label span) = .error refusal) :
    Persistent session ∧ session.name = label ∧ session.ttl = span := by
  induction attended with
  | @opened _ now reply session _ opened =>
    rw [exchange_refused reply refused] at opened
    obtain ⟨fresh, begun⟩ := Session.fresh_of_opened opened
    have without : session.lease.id = "" := by
      rcases begun with made | ⟨without, -⟩
      · cases made
      · exact without
    refine ⟨persistent_of_fresh fresh without, ?_⟩
    cases opened
    rw [Session.startMonitor_eq]
    exact ⟨rfl, rfl⟩
  | moved _ own stepped ih =>
    obtain ⟨persistent, name, ttl⟩ := ih
    have outcome := Session.transition_of_step stepped
    obtain ⟨sameName, sameTtl, -⟩ := Session.terms_after outcome
    exact ⟨persistent_preserved persistent outcome (.inl own), sameName.trans name,
      sameTtl.trans ttl⟩
  | @answered _ task _ reply _ _ call _ asks stepped ih =>
    obtain ⟨persistent, name, ttl⟩ := ih
    have outcome := Session.transition_of_step stepped
    obtain ⟨sameName, sameTtl, -⟩ := Session.terms_after outcome
    refine ⟨persistent_preserved persistent outcome (.inr ?_), sameName.trans name,
      sameTtl.trans ttl⟩
    -- Only the monitor works, and it has asked for a lease.
    obtain rfl : call = .create label span := by
      rw [persistent.working asks, name, ttl]
    exact ⟨task, _, by rw [reply_refused reply refused], rfl⟩

/-- A session that asks for a lease again and again can always go on. -/
theorem Attended.goes_on (attended : Attended agent label span session)
    (refused : Agent.message agent.settings (.create label span) = .error refusal) :
    ∃ now event next call, session.step now event = some (next, call) ∧
      Attended agent label span next := by
  obtain ⟨persistent, name, ttl⟩ := attended.persistent refused
  obtain ⟨phase, monitors, round⟩ := persistent.monitors
  have first : session.monitors[0]? = some ⟨false, phase⟩ := by rw [monitors]; rfl
  cases round with
  | asleep nobody =>
    have stepped := Session.step_of_transition (.woke first (Nat.le_refl _))
    exact ⟨_, _, _, _, stepped, attended.moved rfl stepped⟩
  | queued alone =>
    have head : session.queue.head? = some (.monitor 0) := by rw [alone]; rfl
    have stepped : session.step 0 (.granted (.monitor 0)) = _ :=
      Session.step_of_transition (.asked head first persistent.active persistent.without)
    exact ⟨_, _, _, _, stepped, attended.moved rfl stepped⟩
  | creating alone =>
    have asks : session.standing (.monitor 0) = .working (.create label span) := by
      rw [Session.standing_monitor first, ← name, ← ttl]
      rfl
    have stepped : session.step 0 (.answered (.monitor 0)
        (.created (.error (.backendUnavailable refusal.message)))) = _ :=
      Session.step_of_transition (.postponed first rfl)
    rw [← reply_refused .lost refused] at stepped
    exact ⟨_, _, _, _, stepped, attended.answered asks stepped⟩

/-- **When an agent counts as unavailable.** An error that is worth a retry says that the request was
not served: its message was sent and there was no reply that ends the exchange, or the reply says that
the agent is out of order and not that the lease of the request is lost; or its message could not be
made, and nothing was sent. In the last case a session begins without a lease, asks for one again and
again, and never tells anybody that it gets none. -/
theorem requests_unserved (agent : Agent) :
    (∀ request reply said,
      (exchange agent request reply).outcome = .error (.backendUnavailable said) ↔
        Unserved agent request reply (exchange agent request reply).sent said) ∧
      ∀ label span refusal, Agent.message agent.settings (.create label span) = .error refusal →
        (∀ now timing reply, ∃ session, Session.opened now label span timing
          (exchange agent (.create label span) reply).outcome = .ok session) ∧
        ∀ session, Attended agent label span session → Persistent session ∧
          ∃ now event next call, session.step now event = some (next, call) ∧
            Attended agent label span next := by
  refine ⟨fun request reply said => exchange_unavailable, fun label span refusal refused => ⟨?_, ?_⟩⟩
  · intro now timing reply
    rw [exchange_refused reply refused]
    exact ⟨Session.startMonitor now
      { name := label, ttl := span, settings := timing, lease := ⟨"", .active, now, 0⟩ }, rfl⟩
  · exact fun session attended =>
      ⟨(attended.persistent refused).1, attended.goes_on refused⟩

end

/-- An agent at a port that there is not. -/
def misaddressed : Agent := ⟨{ address := "consul.test:85000" }, by decide⟩

/-- The settings of the agent are taken, and a session that is opened with it asks for its lease again
and again, though no message can be made. -/
theorem misaddressed_agent_persists :
    ofSettings misaddressed.settings = .ok misaddressed ∧
      (exchange misaddressed (.create "a-session" (.seconds 20)) (.answered 200 [] true)).sent =
        none ∧
      (exchange misaddressed (.create "a-session" (.seconds 20)) (.answered 200 [] true)).outcome =
        .error (.backendUnavailable "builder error") ∧
      ∃ session, Attended misaddressed "a-session" (.seconds 20) session ∧ Persistent session := by
  have unread : Url.read? (addressOf misaddressed.settings (.create "a-session" (.seconds 20))) =
      none :=
    Option.isNone_iff_eq_none.mp (by decide +kernel)
  have refused : Agent.message misaddressed.settings (.create "a-session" (.seconds 20)) =
      .error .malformed := by rw [Agent.message, unread]
  have nothing := exchange_refused (.answered 200 [] true) refused
  obtain ⟨unserved, sessions⟩ := requests_unserved misaddressed
  obtain ⟨begins, persists⟩ := sessions "a-session" (.seconds 20) .malformed refused
  obtain ⟨session, opened⟩ := begins 0 {} (.answered 200 [] true)
  have attended : Attended misaddressed "a-session" (.seconds 20) session :=
    .opened (by rfl) opened
  refine ⟨dif_neg misaddressed.addressed, by rw [nothing], ?_, session, attended,
    (persists session attended).1⟩
  exact (unserved _ _ _).mpr (.unmade refused (by rw [nothing]) rfl)

end Leasehold.Agent
