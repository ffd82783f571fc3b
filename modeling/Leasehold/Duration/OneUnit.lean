import Leasehold.Duration
/-!
A span written in one unit: seconds when it has a whole one, else milliseconds, else microseconds,
else nanoseconds, with a decimal fraction that stops at its last digit other than zero. Messages
show spans in this form, as in `20s`, `1.5s`, `500µs` and `0ns`.
-/
namespace Leasehold.Duration

/-- The digits of `part / 10 ^ width` after the point, up to the last one other than zero. -/
def fractionDigits : Nat → Nat → List Char
  | 0, _ => []
  | width + 1, part =>
    if part = 0 then []
    else Nat.digitChar (part / Nat.pow 10 width) :: fractionDigits width (part % Nat.pow 10 width)

/-- A whole number, then a point and the fraction if there is one. -/
def decimal (whole width part : Nat) : List Char :=
  match fractionDigits width part with
  | [] => Nat.toDigits 10 whole
  | digits => Nat.toDigits 10 whole ++ '.' :: digits

/-- A span in its largest unit that gives a whole part, with a decimal fraction. -/
def inOneUnit (span : Duration) : String :=
  let nanos := span.nanos
  if nanos ≥ 1000000000 then
    String.ofList (decimal (nanos / 1000000000) 9 (nanos % 1000000000) ++ ['s'])
  else if nanos ≥ 1000000 then
    String.ofList (decimal (nanos / 1000000) 6 (nanos % 1000000) ++ ['m', 's'])
  else if nanos ≥ 1000 then
    String.ofList (decimal (nanos / 1000) 3 (nanos % 1000) ++ ['µ', 's'])
  else
    String.ofList (Nat.toDigits 10 nanos ++ ['n', 's'])

example : (seconds 20).inOneUnit = "20s" := by decide +kernel
example : (Duration.mk 1500000000 (by decide)).inOneUnit = "1.5s" := by decide +kernel
example : (Duration.mk 500000 (by decide)).inOneUnit = "500µs" := by decide +kernel
example : zero.inOneUnit = "0ns" := by decide +kernel
example : (Duration.mk 2000000001 (by decide)).inOneUnit = "2.000000001s" := by decide +kernel

end Leasehold.Duration
