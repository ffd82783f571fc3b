import Leasehold.Duration
/-!
The form in which an agent is told a span: whole seconds when nothing of a whole millisecond is
left beyond them, else whole milliseconds. What is below a millisecond is dropped.
-/
namespace Leasehold.Duration

/-- A span for an agent, in seconds or in milliseconds (`go_duration`). -/
def onWire (span : Duration) : String :=
  if span.subsecNanos / 1000000 = 0 then
    String.ofList (Nat.toDigits 10 span.secs ++ ['s'])
  else
    String.ofList (Nat.toDigits 10 span.millis ++ ['m', 's'])

example : (seconds 20).onWire = "20s" := by decide +kernel
example : (Duration.mk 1500000000 (by decide)).onWire = "1500ms" := by decide +kernel
example : (Duration.mk 999999 (by decide)).onWire = "0s" := by decide +kernel

end Leasehold.Duration
