import Prospectus.Time.Moment

/-!
# Spans of time

A span is a number of seconds and nanoseconds.  It is shown in the largest of
the units s, ms, µs, ns that it reaches, with as many decimals as it needs.
-/

namespace Prospectus.Time

/-- A length of time. -/
structure Span where
  seconds : Nat
  nanos : Nat
deriving Repr, DecidableEq

/-- The span of some seconds and nanoseconds, whole seconds counted as such. -/
def Span.of (seconds nanos : Nat) : Span :=
  ⟨seconds + nanos / 1000000000, nanos % 1000000000⟩

/-- The span of a number of milliseconds. -/
def Span.ofMillis (ms : Nat) : Span := ⟨ms / 1000, ms % 1000 * 1000000⟩

/-- Whole milliseconds of a span. -/
def Span.toMillis (s : Span) : Nat := s.seconds * 1000 + s.nanos / 1000000

/-- A number with a fraction of `width` digits, less the zeros at its end. -/
def decimalText (whole fraction width : Nat) : String :=
  let digits := ((padded width fraction).toList.reverse.dropWhile (· = '0')).reverse
  if fraction = 0 then toString whole
  else toString whole ++ "." ++ String.ofList digits

/-- The span as `1.5s`, `250ms`, `3µs` or `0ns`. -/
def Span.text (s : Span) : String :=
  if 0 < s.seconds then decimalText s.seconds s.nanos 9 ++ "s"
  else if 1000000 ≤ s.nanos
    then decimalText (s.nanos / 1000000) (s.nanos % 1000000) 6 ++ "ms"
  else if 1000 ≤ s.nanos then decimalText (s.nanos / 1000) (s.nanos % 1000) 3 ++
    "µs"
  else toString s.nanos ++ "ns"

end Prospectus.Time
