import MediaSession.Decimal

/-!
# MediaSession.Span

Lengths of time in whole seconds and nanoseconds.

* `Span.ofParts?`: nanoseconds beyond a second carried into the seconds
* `Span.text`: the exact value in the largest unit that keeps a whole part
* `Span.millisUp`: the first whole millisecond not before the end
-/

namespace MediaSession

/-- A length of time; the nanoseconds stay below one second. -/
structure Span where
  seconds : UInt64
  nanos : Fin 1000000000
deriving DecidableEq

namespace Span

def zero : Span := ⟨0, 0⟩

def ofMillis (ms : Nat) : Span :=
  ⟨UInt64.ofNat (ms / 1000), Fin.ofNat 1000000000 (ms % 1000 * 1000000)⟩

/-- Whole seconds among the nanoseconds are carried; a sum that no longer fits is refused. -/
def ofParts? (seconds : UInt64) (nanos : Nat) : Option Span :=
  let total := seconds.toNat + nanos / 1000000000
  if total < 18446744073709551616 then some ⟨UInt64.ofNat total, Fin.ofNat 1000000000 nanos⟩
  else none

def isZero (s : Span) : Bool := s.seconds == 0 && s.nanos == 0

/-- Milliseconds, a part of one counted as a whole one. -/
def millisUp (s : Span) : Nat := s.seconds.toNat * 1000 + (s.nanos.val + 999999) / 1000000

/-- Seconds if there are any, else milliseconds, microseconds or nanoseconds. -/
def text (s : Span) : String :=
  let n := s.nanos.val
  if s.seconds ≠ 0 then Decimal.trimmed 9 s.seconds.toNat n ++ "s"
  else if 1000000 ≤ n then Decimal.trimmed 6 (n / 1000000) (n % 1000000) ++ "ms"
  else if 1000 ≤ n then Decimal.trimmed 3 (n / 1000) (n % 1000) ++ "µs"
  else Decimal.trimmed 1 n 0 ++ "ns"

end Span
end MediaSession
