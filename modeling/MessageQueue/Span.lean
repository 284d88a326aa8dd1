/-!
# Signed spans of time

A span counts nanoseconds and may be negative.  Spans are given in whole seconds or milliseconds, of
which there may be no more than milliseconds fit in 63 bits.
-/

namespace MessageQueue

/-- A span of time, forwards or backwards. -/
structure Span where
  nanoseconds : Int
deriving DecidableEq, Repr

namespace Span

/-- The most milliseconds of a span. -/
def maxMilliseconds : Nat := Nat.pow 2 63 - 1

/-- So many seconds, if that is a span. -/
def ofSeconds? (n : Int) : Option Span :=
  if n.natAbs ≤ maxMilliseconds / 1000 then some ⟨n * 1000000000⟩ else none

/-- So many thousandths of a second, if that is a span. -/
def ofMilliseconds? (n : Int) : Option Span :=
  if n.natAbs ≤ maxMilliseconds then some ⟨n * 1000000⟩ else none

/-- So many nanoseconds. -/
def ofNanoseconds (n : Int) : Span := ⟨n⟩

/-- The whole seconds of a span; what is left over is dropped in either direction. -/
def seconds (s : Span) : Int := s.nanoseconds.tdiv 1000000000

/-- The whole seconds of a span, brought between zero and a bound. -/
def secondsWithin (s : Span) (bound : Nat) : Nat := min s.seconds.toNat bound

end Span
end MessageQueue
