import Leasehold.Agent.Http
import Leasehold.Command.Program
import Std.Async.DNS
import Std.Async.Signal
import Std.Async.TCP
import Std.Async.Timer
/-!
The program: reads its surroundings, does what `Command.task` says, and prints. Messages to an agent go
over connections one at a time. There is no encryption here, so that a message that needs it gets no reply,
and redirections are not followed.
-/
open Leasehold
open Std.Async

/-- What is found under a path. -/
def lookAt (path : String) : IO Command.Found := do
  if path.isEmpty then return .nothing
  try
    let bytes ← IO.FS.readBinFile path
    return .file bytes.data.toList
  catch
    | .noFileOrDirectory .. => return .nothing
    | _ => return .unreadable

/-- The paths and variables that a run may ask for, with what is found there. -/
def surround (arguments : List String) : IO Command.Surroundings := do
  let names := [Command.addressVariable, Command.tokenVariable, Command.fileVariable]
  let values ← names.filterMapM fun name => do
    return (← IO.getEnv name).map fun value => (name, value)
  let named := match Command.parse arguments with
    | .line line => (line.value? .config).toList
    | _ => []
  let files := named ++ (values.lookup Command.fileVariable).toList ++ [Command.defaultFile]
  let found ← files.mapM fun path => do return (path, ← lookAt path)
  return ⟨fun path => (found.lookup path).getD .nothing, fun name => values.lookup name⟩

/-- The addresses of a host. -/
def addresses : Url.Host → Async (Array Std.Net.IPAddr)
  | .domain name => DNS.getAddrInfo (String.ofList name) ""
  | .ipv4 address =>
    let byte (place : Nat) := UInt8.ofNat (address / place % 256)
    return #[.v4 (.ofParts (byte 16777216) (byte 65536) (byte 256) (byte 1))]
  | .ipv6 pieces =>
    let piece (index : Nat) := UInt16.ofNat (pieces.getD index 0)
    return #[.v6 (.ofParts (piece 0) (piece 1) (piece 2) (piece 3) (piece 4) (piece 5) (piece 6)
      (piece 7))]

/-- A host's address with a port. -/
def atPort (port : Nat) : Std.Net.IPAddr → Std.Net.SocketAddress
  | .v4 address => .v4 ⟨address, UInt16.ofNat port⟩
  | .v6 address => .v6 ⟨address, UInt16.ofNat port⟩

/-- Receives bytes until a connection ends or a time is over. -/
partial def receive (client : TCP.Socket.Client) (due : Instant) (received : ByteArray) :
    Async (Option ByteArray) := do
  let left := (due - (← IO.monoNanosNow)) / 1000000
  if left = 0 then return none
  let sleep ← Selector.sleep (.ofNat left)
  let bytes ← Selectable.one
    #[.case (client.recvSelector 65536) fun bytes => return some bytes,
      .case sleep fun _ => return none]
  match bytes with
  | none => return none
  | some none => return some received
  | some (some bytes) => receive client due (received ++ bytes)

/-- Sends a message to the first address of its host, and reads the reply. -/
def converse (message : Agent.Message) (due : Instant) : Async Agent.Reply := do
  let port := (message.url.port <|> Url.defaultPort? message.url.scheme).getD 80
  let some host := message.url.host | return .lost
  let some address := (← addresses host)[0]? | return .lost
  let client ← TCP.Socket.Client.mk
  client.connect (atPort port address)
  client.send (ByteArray.mk message.bytes.toArray)
  match ← receive client due ByteArray.empty with
  | some bytes => return Agent.readReply bytes.data.toList
  | none => return .lost

/-- Makes a request of an agent. -/
def request (agent : Agent) (request : Backend.Request) : IO request.Outcome := do
  let due := (← IO.monoNanosNow) + agent.settings.requestTimeout.nanos
  let reply ←
    match Agent.message agent.settings request with
    | .ok message =>
      if message.url.scheme = "http".toList then
        try (converse message due).block catch _ => pure Agent.Reply.lost
      else pure Agent.Reply.lost
    | .error _ => pure Agent.Reply.lost
  return (agent.exchange request reply).outcome

/-- Prints how the program ends. -/
def finish (ending : Command.Ending) : IO UInt32 := do
  IO.print ending.output
  IO.eprint ending.complaint
  return UInt32.ofNat ending.code

/-- Waits until something is due, or somebody interrupts, and says whether somebody has. -/
def pause (interruption : Option Signal.Waiter) (dues : List Instant) : Async Bool := do
  let interrupted := interruption.toArray.map fun waiter =>
    Selectable.case waiter.selector fun _ => return true
  match dues with
  | [] => Selectable.one interrupted
  | due :: dues =>
    let left := (dues.foldl min due - (← IO.monoNanosNow) + 999999) / 1000000
    let sleep ← Selector.sleep (.ofNat left)
    Selectable.one (interrupted.push (.case sleep fun _ => return false))

/-- Listens for interruptions once the session is open, and goes on listening. -/
def listen (interruption : Option Signal.Waiter) (hold : Command.Hold) :
    IO (Option Signal.Waiter) := do
  match interruption, hold.session with
  | none, some _ => return some (← Signal.Waiter.mk .sigint true)
  | _, _ => return interruption

/-- Holds a lock, and prints what is new after each step. -/
partial def holdLock (agent : Agent) (interruption : Option Signal.Waiter) (hold : Command.Hold) :
    IO UInt32 := do
  let now ← IO.monoNanosNow
  let hold := hold.settle now
  for line in hold.lines do IO.println line
  (← IO.getStdout).flush
  let hold := { hold with lines := [] }
  let interruption ← listen interruption hold
  match hold.ending?, hold.asked with
  | some ending, _ => finish (Command.held hold.plan.key [] ending)
  | none, (asker, asked) :: rest =>
    let result ← request agent asked
    let now ← IO.monoNanosNow
    holdLock agent interruption ({ hold with asked := rest }.answered now asker asked result)
  | none, [] =>
    let interrupted ← (pause interruption hold.dues).block
    let now ← IO.monoNanosNow
    holdLock agent interruption (if interrupted then hold.interrupt now else hold)

/-- The program. -/
def main (arguments : List String) : IO UInt32 := do
  match Command.task (← surround arguments) arguments with
  | .done ending => finish ending
  | .list agent => finish (Command.listed (← request agent .list))
  | .destroy agent id => finish (Command.destroyed id (← request agent (.destroy id)))
  | .hold agent hold => holdLock agent none hold
