/-!
Spans of time and points in time. A span has whole seconds in a 64-bit word and nanoseconds below
one second; it is kept as its total number of nanoseconds together with that bound. A point in time
is the number of nanoseconds that the clock has run, without a bound.
-/
namespace Leasehold

/-- A point on the clock, in nanoseconds since the clock started. -/
abbrev Instant := Nat

/-- A span of time of at most 2^64 - 1 seconds and 999999999 nanoseconds. -/
structure Duration where
  /-- The whole span in nanoseconds. -/
  nanos : Nat
  /-- The whole seconds fit a 64-bit word. -/
  bounded : nanos < 18446744073709551616000000000
deriving DecidableEq

namespace Duration

/-- The span of this many nanoseconds, if it is in range. -/
def ofNanos? (nanos : Nat) : Option Duration :=
  if bounded : nanos < 18446744073709551616000000000 then some ⟨nanos, bounded⟩ else none

/-- The span of this many whole seconds. -/
def seconds (count : UInt64) : Duration :=
  ⟨count.toNat * 1000000000, by have := count.toNat_lt; omega⟩

/-- The empty span. -/
def zero : Duration := seconds 0

instance : Inhabited Duration := ⟨zero⟩

/-- The whole seconds of a span. -/
def secs (span : Duration) : Nat := span.nanos / 1000000000

/-- What a span has beyond its whole seconds, in nanoseconds. -/
def subsecNanos (span : Duration) : Nat := span.nanos % 1000000000

/-- The whole milliseconds of a span. -/
def millis (span : Duration) : Nat := span.nanos / 1000000

/-- Whether a span is empty. -/
def isZero (span : Duration) : Bool := span.nanos == 0

/-- Half a span, rounded down to a nanosecond. -/
def half (span : Duration) : Duration :=
  ⟨span.nanos / 2, by have := span.bounded; omega⟩

/-- The shorter of two spans. -/
def shorter (left right : Duration) : Duration :=
  if left.nanos ≤ right.nanos then left else right

theorem ofNanos?_nanos (span : Duration) : ofNanos? span.nanos = some span := by
  unfold ofNanos?
  rw [dif_pos span.bounded]

theorem ofNanos?_eq_some_iff {nanos : Nat} {span : Duration} :
    ofNanos? nanos = some span ↔ span.nanos = nanos := by
  constructor
  · intro found
    unfold ofNanos? at found
    split at found
    · cases found; rfl
    · cases found
  · rintro rfl
    exact ofNanos?_nanos span

theorem nanos_eq_secs_add_subsec (span : Duration) :
    span.nanos = span.secs * 1000000000 + span.subsecNanos := by
  unfold secs subsecNanos
  omega

theorem shorter_nanos (left right : Duration) :
    (shorter left right).nanos = min left.nanos right.nanos := by
  unfold shorter
  split <;> omega

end Duration

end Leasehold
