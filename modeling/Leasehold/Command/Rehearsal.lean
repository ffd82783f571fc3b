import Leasehold.Agent.Answer
import Leasehold.Command.Program
/-!
Runs of the program on a simulated clock, before an agent whose replies are known beforehand.

1. The replies are given in their order, one for each message, and at once. A reply that stalls makes
   the message fail when its time is over. When the replies are used up, messages are lost.
2. Messages go through a proxy. One that is to be encrypted asks the proxy for a tunnel to the agent,
   which uses up a reply; in a scene without tunnels the message is lost then.
3. Somebody may interrupt, once the lock is held or once so many messages were answered, and not
   before everything has happened that can happen at that time.
4. A run that does not end by itself within a minute has no end.
-/
namespace Leasehold.Command

/-- What an agent does with a message. -/
inductive Response where
  /-- It replies at once. -/
  | reply (reply : Agent.Reply)
  /-- It never replies. -/
  | stall

/-- When somebody interrupts. -/
inductive Interruption where
  /-- Once the lock is held. -/
  | holding
  /-- Once so many messages were answered. -/
  | answered (count : Nat)
deriving DecidableEq

/-- What the proxy of a scene gets to see. -/
inductive Sent where
  /-- A message. -/
  | plain (message : Agent.Message)
  /-- A request for a tunnel to a host and a port, for a message that nobody sees. -/
  | tunnel (target : List Char)

/-- The host and port of the tunnel that a message to a URL needs, if it is to be encrypted. -/
def tunnelOf? (url : Url) : Option (List Char) :=
  if url.scheme = "https".toList then
    let port := url.port.getD 443
    some ((url.host.map Url.Host.chars).getD [] ++ ':' :: Nat.toDigits 10 port)
  else none

/-- What the proxy gets to see of a message. -/
def Sent.ofMessage (message : Agent.Message) : Sent :=
  match tunnelOf? message.url with
  | some target => .tunnel target
  | none => .plain message

/-- The agent's side of a run. -/
structure Scene where
  /-- Whether messages reach the proxy at all. -/
  isReached : Bool
  /-- Whether the proxy makes tunnels. -/
  hasTunnels : Bool
  /-- What the agent does with the messages, in their order. -/
  responses : List Response
  /-- When somebody interrupts. -/
  interruption : Option Interruption

/-- What came of a run. -/
inductive Result where
  /-- It ended, and this is what the proxy has seen. -/
  | ended (ending : Ending) (sent : List Sent)
  /-- It has no end. -/
  | endless

/-- A message that waits for the end of its time. -/
structure Waiting where
  /-- Who waits for the answer. -/
  asker : Asker
  /-- The request. -/
  request : Backend.Request
  /-- When the time is over. -/
  due : Instant
  /-- How the request ends then. -/
  result : request.Outcome

/-- A run. -/
structure Rehearsal where
  /-- The agent. -/
  agent : Agent
  /-- The agent's side of the run, as far as it is to come. -/
  scene : Scene
  /-- The program's side of the run. -/
  hold : Hold
  /-- The time. -/
  now : Instant := 0
  /-- The messages that wait for the end of their time. -/
  waiting : List Waiting := []
  /-- What the proxy has seen. -/
  sent : List Sent := []
  /-- How many of them were answered. -/
  count : Nat := 0

namespace Scene

/-- Whether the proxy lets the message through that it is asked to send, or to make a tunnel for. -/
def lets (scene : Scene) : Sent → Bool
  | .plain _ => true
  | .tunnel _ => scene.hasTunnels

/-- What comes back through the proxy, and whether only when its time is over. -/
def replyTo (scene : Scene) (sent : Sent) : Agent.Reply × Bool :=
  match scene.responses.head? with
  | some (.reply reply) => (if scene.lets sent then reply else .lost, false)
  | some .stall => (.lost, true)
  | none => (.lost, false)

/-- Makes a request. The result says what the proxy gets to see, how the request ends, and whether it
ends only when its time is over. -/
def exchange (scene : Scene) (agent : Agent) (request : Backend.Request) :
    Option Sent × request.Outcome × Bool × Scene :=
  let lost := agent.exchange request .lost
  match lost.sent.filter fun _ => scene.isReached with
  | none => (none, lost.outcome, false, scene)
  | some message =>
    let sent := Sent.ofMessage message
    let (reply, stalls) := scene.replyTo sent
    (some sent, (agent.exchange request reply).outcome, stalls,
      { scene with responses := scene.responses.tail })

end Scene

namespace Rehearsal

/-- The end of the minute. -/
def limit : Instant := (Duration.seconds 60).nanos

/-- Makes the next request of the program. A request for which nothing is sent uses up no reply. -/
def ask (run : Rehearsal) (asker : Asker) (request : Backend.Request)
    (rest : List (Asker × Backend.Request)) : Rehearsal :=
  let (sent, outcome, stalls, scene) := run.scene.exchange run.agent request
  let hold := { run.hold with asked := rest }
  match sent with
  | none => { run with hold := hold.answered run.now asker request outcome }
  | some sent =>
    let run := { run with scene, sent := run.sent ++ [sent] }
    if stalls then
      let due := run.now + run.agent.settings.requestTimeout.nanos
      { run with hold, waiting := run.waiting ++ [⟨asker, request, due, outcome⟩] }
    else
      { run with
        count := run.count + 1
        hold := hold.answered run.now asker request outcome }

/-- Whether somebody interrupts now. -/
def isInterrupted (run : Rehearsal) : Bool :=
  match run.scene.interruption with
  | some .holding => run.hold.isHolding
  | some (.answered count) => count ≤ run.count
  | none => false

/-- The times at which something is due. -/
def dues (run : Rehearsal) : List Instant := run.hold.dues ++ run.waiting.map (·.due)

/-- Goes on for a number of rounds. -/
def go : Nat → Rehearsal → Result
  | 0, _ => .endless
  | fuel + 1, run =>
    let run := { run with hold := run.hold.settle run.now }
    match run.hold.ending?, run.hold.asked with
    | some ending, _ => .ended (held run.hold.plan.key run.hold.lines ending) run.sent
    | none, (asker, request) :: rest => go fuel (run.ask asker request rest)
    | none, [] =>
      match run.waiting.find? (·.due ≤ run.now) with
      | some expired =>
        go fuel
          { run with
            waiting := run.waiting.eraseP (·.due ≤ run.now)
            hold := run.hold.answered run.now expired.asker expired.request expired.result }
      | none =>
        if run.isInterrupted then
          go fuel
            { run with
              scene := { run.scene with interruption := none }
              hold := run.hold.interrupt run.now }
        else
          match run.dues with
          | [] => .endless
          | due :: dues =>
            let next := dues.foldl min due
            if limit < next then .endless else go fuel { run with now := max run.now next }

end Rehearsal

/-- A run of the program. -/
def rehearse (surroundings : Surroundings) (scene : Scene) (arguments : List String) : Result :=
  match task surroundings arguments with
  | .done ending => .ended ending []
  | .list agent =>
    let (sent, outcome, _, _) := scene.exchange agent .list
    .ended (listed outcome) sent.toList
  | .destroy agent id =>
    let (sent, outcome, _, _) := scene.exchange agent (.destroy id)
    .ended (destroyed id outcome) sent.toList
  | .hold agent hold => Rehearsal.go 1000000 { agent, scene, hold }

end Leasehold.Command
