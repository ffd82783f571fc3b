import Leasehold.Agent.Answer
import Leasehold.Command.Hold
import Leasehold.Proofs.Session.SoleCall
import Leasehold.Proofs.Tolerance

/-! Runs that hold a lock before an agent. A request is made some time after it was asked for, and its
answer comes some time after it was made or never; in between the program goes on by itself, and
somebody may interrupt. Nothing is assumed of the order of the times or of the agent's replies, and the
program need not do at once what it can do without time going by (`onward_of_next?`). -/
namespace Leasehold.Command

open Tolerance (isOwn)

/-- A run with the requests that are under way. -/
structure Run where
  /-- The program's side of the run. -/
  hold : Hold
  /-- The requests that were made and not answered yet, with who waits for the answers. -/
  awaited : List (Asker × Backend.Request) := []

/-- What the program does next by itself. -/
inductive Onward (now : Instant) (hold : Hold) : Hold → Prop where
  /-- Something happens to the session. -/
  | happened (own : isOwn event = true) : Onward now hold (hold.happen now event)
  /-- The pause between two attempts is over. -/
  | attempted (held : hold.session = some session) (pausing : hold.stage = .pausing due)
      (elapsed : due ≤ now) : Onward now hold (hold.attempt now session)
  /-- The session's signal tells that the lease is lost, or that it was given up in order. -/
  | told (held : hold.session = some session) (holding : hold.stage = .holding)
      (told : session.err.recv session.signal = some outcome) :
      Onward now hold (hold.leave now (outcome.elim .released .lost))
  /-- The session is given up. -/
  | concluded (held : hold.session = some session) (leaving : hold.stage = .leaving ending caller)
      (finished : session.callers[caller]? = some ⟨intent, .finished problem⟩) :
      Onward now hold (hold.conclude ending)

/-- What happens in a run. -/
inductive Act where
  /-- The program goes on by itself. -/
  | onward
  /-- A request is made that was asked for. -/
  | made (asker : Asker) (request : Backend.Request)
  /-- A request comes to an end, with what the agent replied or without a reply. -/
  | replied (asker : Asker) (request : Backend.Request) (reply : Agent.Reply)
  /-- Somebody interrupts. -/
  | interrupted

/-- What an act makes of a run. -/
inductive Step (agent : Agent) (run : Run) : Act → Run → Prop where
  | onward (onward : Onward now run.hold next) : Step agent run .onward { run with hold := next }
  | made {request : Backend.Request} (asked : run.hold.asked = front ++ (asker, request) :: back) :
      Step agent run (.made asker request)
        ⟨{ run.hold with asked := front ++ back }, (asker, request) :: run.awaited⟩
  | replied {request : Backend.Request} (now : Instant)
      (awaited : run.awaited = front ++ (asker, request) :: back) (reply : Agent.Reply) :
      Step agent run (.replied asker request reply)
        ⟨run.hold.answered now asker request (agent.exchange request reply).outcome, front ++ back⟩
  | interrupted (now : Instant) : Step agent run .interrupted { run with hold := run.hold.interrupt now }

/-- One thing that happened in a run. -/
structure Moment where
  /-- The run before. -/
  before : Run
  /-- What happened. -/
  act : Act
  /-- The run afterwards. -/
  after : Run

/-- A run from its beginning, with all moments so far, the latest first. -/
inductive Ran (agent : Agent) (plan : HoldPlan) : List Moment → Run → Prop where
  | started (started : Hold.start plan = .ok hold) : Ran agent plan [] { hold }
  | moved (ran : Ran agent plan moments run) (step : Step agent run act next) :
      Ran agent plan (⟨run, act, next⟩ :: moments) next

/-- The request that the program makes at a moment. -/
def Moment.request? (moment : Moment) : Option Backend.Request :=
  match moment.act with
  | .made _ request => some request
  | _ => none

/-- The requests that the program has made, in their order, whatever was sent for them. -/
def requested : List Moment → List Backend.Request
  | [] => []
  | moment :: earlier => requested earlier ++ moment.request?.toList

/-! ## What the program does at once -/

/-- What happens to a session at once happens to it by itself. -/
theorem isOwn_of_ready? {session : Session} {event : Session.Event}
    (ready : session.ready? = some event) : isOwn event = true := by
  unfold Session.ready? at ready
  split at ready
  · cases ready; rfl
  · split at ready
    · cases ready
    all_goals
      split at ready
      · cases ready; rfl
      · cases ready

/-- The next thing that the program does without time going by is a thing that it does by itself. -/
theorem onward_of_next? {hold next : Hold} {now : Instant} (goes : hold.next? now = some next) :
    Onward now hold next := by
  obtain ⟨session, held, goes⟩ := Option.bind_eq_some_iff.mp goes
  split at goes
  · rename_i event happens
    cases goes
    refine .happened ?_
    unfold Hold.sessionNext? at happens
    split at happens
    · rename_i ready
      cases happens
      exact isOwn_of_ready? ready
    · obtain ⟨index, -, rfl⟩ := Option.map_eq_some_iff.mp happens
      rfl
  · split at goes
    · rename_i due pausing
      split at goes
      · rename_i elapsed
        cases goes
        exact .attempted held pausing elapsed
      · cases goes
    · rename_i holding
      split at goes
      · rename_i error told
        cases goes
        exact .told held holding told
      · rename_i told
        cases goes
        exact .told held holding told
      · cases goes
    · rename_i ending caller leaving
      split at goes
      · rename_i intent failure finished
        cases goes
        exact .concluded held leaving finished
      · cases goes
    · cases goes

end Leasehold.Command
