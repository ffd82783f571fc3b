import Leasehold.Command.Rehearsal
import Leasehold.Proofs.Agent.Loss
import Leasehold.Store

/-! Giving up a lease that does not exist. A store takes that as done, and so does a manager. An agent may
say so in two ways: a reply that says it by its status counts as done (`Done`), and one that says it by its
text alone is an error about a lost lease (`Disowned`), which whoever asks without a manager is told. -/
namespace Leasehold.Agent

/-- The agent's reply counts as giving up the lease. -/
def Done (agent : Agent) (id : String) (reply : Reply) : Prop :=
  ∃ status body whole, Heard agent (.destroy id) status ∧ reply = .answered status body whole ∧
    (isSuccess status = true ∨ status = 404)

/-- The agent replies that the lease does not exist, by the text of a failure but not by its status. -/
def Disowned (agent : Agent) (id : String) (reply : Reply) : Prop :=
  ∃ status body whole, Heard agent (.destroy id) status ∧ reply = .answered status body whole ∧
    isSuccess status = false ∧ status ≠ 404 ∧ NamesLoss status (wording status body whole)

section
variable {agent : Agent} {id lease : String} {reply : Reply} {status : Nat} {body : List UInt8}
variable {whole : Bool}

/-! ## Stores -/

/-- A store within reach gives up whatever lease it is asked to, and one out of reach none. -/
theorem served_destroy (sweep : Store.Sweep) (store : Store) (now : Instant) (fresh id : String) :
    (store.serve sweep now fresh (.destroy id)).1 =
      if store.reachable then .ok ()
      else .error (.backendUnavailable "in-memory backend is unreachable") := by
  simp only [Store.serve, Store.refusal?]
  split <;> rfl

/-! ## Agents -/

theorem answered_destroyed :
    answered (.destroy id) status body whole = .ok () ↔ isSuccess status = true ∨ status = 404 := by
  unfold answered
  by_cases success : isSuccess status = true
  · rw [if_pos success]
    exact iff_of_true rfl (.inl success)
  · rw [if_neg success]
    by_cases absent : status = 404
    · rw [if_pos absent]
      exact iff_of_true rfl (.inr absent)
    · rw [if_neg absent]
      exact iff_of_false nofun (not_or.mpr ⟨success, absent⟩)

/-- A request to give up a lease succeeds if and only if the reply counts as that. -/
theorem exchange_destroyed :
    (exchange agent (.destroy id) reply).outcome = .ok () ↔ Done agent id reply := by
  by_cases heard : ∃ status body whole, reply = .answered status body whole ∧
      Heard agent (.destroy id) status
  · obtain ⟨status, body, whole, rfl, heard⟩ := heard
    rw [heard.outcome, answered_destroyed]
    constructor
    · intro counts
      exact ⟨status, body, whole, heard, rfl, counts⟩
    · rintro ⟨_, _, _, -, ⟨⟩, counts⟩
      exact counts
  · have unheard : ∀ status body whole, reply = .answered status body whole →
        ¬ Heard agent (.destroy id) status :=
      fun status body whole same here => heard ⟨status, body, whole, same, here⟩
    obtain ⟨said, unavailable⟩ := exchange_unheard unheard
    rw [unavailable]
    refine iff_of_false nofun ?_
    rintro ⟨status, body, whole, here, same, -⟩
    exact heard ⟨status, body, whole, same, here⟩

/-- A request to give up a lease fails with the error that the lease is lost if and only if the reply
disowns it. -/
theorem exchange_disowned :
    (exchange agent (.destroy id) reply).outcome = .error (.sessionNotFound lease) ↔
      lease = id ∧ Disowned agent id reply := by
  rw [exchange_lost, leaseOf, Option.some.injEq, @eq_comm _ id]
  rfl

/-! ## Who asks -/

/-- A manager counts a lease as given up if the agent does, or disowns it. -/
theorem managed_destroyed {outcome : Except Error Unit} :
    (Manager.Call.destroy id).reply outcome = .destroyed (.ok ()) ↔
      outcome = .ok () ∨ ∃ lease, outcome = .error (.sessionNotFound lease) := by
  change Manager.Reply.destroyed (Manager.forgiveUnknown outcome) = _ ↔ _
  rw [Manager.Reply.destroyed.injEq]
  cases outcome with
  | ok => exact iff_of_true rfl (.inl rfl)
  | error error => cases error <;> simp [Manager.forgiveUnknown]

/-- A scene within reach that has tunnels brings back its first reply, if a message can be made. -/
theorem outcome_of_scene {scene : Command.Scene} {request : Backend.Request}
    (reached : scene.isReached = true) (tunnels : scene.hasTunnels = true)
    (first : scene.responses.head? = some (.reply reply)) :
    (scene.exchange agent request).2.1 = (exchange agent request reply).outcome := by
  have lets (sent : Command.Sent) : scene.lets sent = true := by
    cases sent with
    | plain => rfl
    | tunnel => exact tunnels
  cases made : Agent.message agent.settings request <;>
    simp [Command.Scene.exchange, Command.Scene.replyTo, Option.filter, exchange, made, reached, first,
      lets]

/-- The program that is to destroy a session ends with what the agent's reply comes to. -/
theorem rehearse_destroy {surroundings : Command.Surroundings} {scene : Command.Scene}
    {arguments : List String} (task : Command.task surroundings arguments = .destroy agent id)
    (reached : scene.isReached = true) (tunnels : scene.hasTunnels = true)
    (first : scene.responses.head? = some (.reply reply)) :
    ∃ sent, Command.rehearse surroundings scene arguments =
      .ended (Command.destroyed id (exchange agent (.destroy id) reply).outcome) sent := by
  refine ⟨(scene.exchange agent (.destroy id)).1.toList, ?_⟩
  rw [Command.rehearse, task, ← outcome_of_scene reached tunnels first]

theorem code_destroyed {outcome : Except Error Unit} :
    (Command.destroyed id outcome).code = 0 ↔ outcome = .ok () := by
  cases outcome with
  | ok => exact iff_of_true rfl rfl
  | error error => exact iff_of_false nofun nofun

/-- **Giving up a lease that does not exist.** A store never says that it does not know the lease. An agent
counts as having given it up exactly if its reply is a success or has the status for what is missing. If
it says in other ways that the lease does not exist, the request fails with the error that the lease is
lost. A manager takes that as done, and the program says that it failed. -/
theorem unknown_lease_given_up (agent : Agent) (id : String) :
    (∀ sweep (store : Store) now fresh, (store.serve sweep now fresh (.destroy id)).1 =
      if store.reachable then .ok ()
      else .error (.backendUnavailable "in-memory backend is unreachable")) ∧
    ∀ reply,
      ((exchange agent (.destroy id) reply).outcome = .ok () ↔ Done agent id reply) ∧
      (∀ lease, (exchange agent (.destroy id) reply).outcome = .error (.sessionNotFound lease) ↔
        lease = id ∧ Disowned agent id reply) ∧
      ((Manager.Call.destroy id).reply (exchange agent (.destroy id) reply).outcome =
        .destroyed (.ok ()) ↔ Done agent id reply ∨ Disowned agent id reply) ∧
      ∀ surroundings scene arguments, Command.task surroundings arguments = .destroy agent id →
        scene.isReached = true → scene.hasTunnels = true →
        scene.responses.head? = some (.reply reply) →
        ∃ ending sent, Command.rehearse surroundings scene arguments = .ended ending sent ∧
          (ending.code = 0 ↔ Done agent id reply) ∧
          (Disowned agent id reply → ending = Command.failure ("session not found: " ++ id)) := by
  refine ⟨fun sweep store now fresh => served_destroy sweep store now fresh id, fun reply =>
    ⟨exchange_destroyed, fun lease => exchange_disowned, ?_, ?_⟩⟩
  · rw [managed_destroyed, exchange_destroyed]
    refine or_congr_right ⟨?_, ?_⟩
    · rintro ⟨lease, lost⟩
      exact (exchange_disowned.mp lost).2
    · intro disowned
      exact ⟨id, exchange_disowned.mpr ⟨rfl, disowned⟩⟩
  · intro surroundings scene arguments task reached tunnels first
    obtain ⟨sent, ended⟩ := rehearse_destroy task reached tunnels first
    refine ⟨_, sent, ended, code_destroyed.trans exchange_destroyed, fun disowned => ?_⟩
    rw [exchange_disowned.mpr ⟨rfl, disowned⟩]
    rfl

end

/-- What an agent says by the text of a failure when it does not know a lease. -/
def disowningBody : List UInt8 := Text.encode "Invalid session \"abc\""

/-- Surroundings without files and without variables. -/
def bareSurroundings : Command.Surroundings := ⟨fun _ => .nothing, fun _ => none⟩

theorem task_destroy :
    Command.task bareSurroundings ["sessions", "destroy", "abc", "-a", "consul.test:8500"] =
      .destroy plainAgent "abc" := by
  have parsed : Command.parse ["sessions", "destroy", "abc", "-a", "consul.test:8500"] =
      .line ⟨.destroy, ⟨[(.address, "consul.test:8500")], some "abc"⟩, [{}, {}]⟩ := by
    simp [Command.parse, Command.parseFrom, Command.Level.below?, Command.addArgument,
      Command.Level.takesArgument, Command.shortOptions, Command.short?, Command.Switch.takesValue]
    rfl
  rw [Command.task, parsed]
  rfl

/-- The program is to destroy a session, and the agent disowns the lease. The program fails, where a
manager would take the same reply as done. -/
theorem disowned_lease_fails :
    Disowned plainAgent "abc" (.answered 500 disowningBody true) ∧
      (Manager.Call.destroy "abc").reply
          (exchange plainAgent (.destroy "abc") (.answered 500 disowningBody true)).outcome =
        .destroyed (.ok ()) ∧
      ∃ sent, Command.rehearse bareSurroundings
          ⟨true, true, [.reply (.answered 500 disowningBody true)], none⟩
          ["sessions", "destroy", "abc", "-a", "consul.test:8500"] =
        .ended (Command.failure "session not found: abc") sent := by
  have heard : Heard plainAgent (.destroy "abc") 500 := heard_of_made rfl (by decide +kernel)
  have disowned : Disowned plainAgent "abc" (.answered 500 disowningBody true) := by
    refine ⟨500, disowningBody, true, heard, rfl, by decide, by decide, .inr (.inl ?_)⟩
    decide +kernel
  obtain ⟨-, replied⟩ := unknown_lease_given_up plainAgent "abc"
  obtain ⟨-, -, managed, ran⟩ := replied (.answered 500 disowningBody true)
  obtain ⟨ending, sent, ended, -, fails⟩ := ran bareSurroundings
    ⟨true, true, [.reply (.answered 500 disowningBody true)], none⟩
    ["sessions", "destroy", "abc", "-a", "consul.test:8500"] task_destroy rfl rfl rfl
  rw [fails disowned] at ended
  exact ⟨disowned, managed.mpr (.inr disowned), sent, ended⟩

end Leasehold.Agent
