import CertIssuer.Number.Binary

/-!
Spans of time: whole seconds of 64 bits and nanoseconds below a second.
-/

namespace CertIssuer

open Number

/-- A span of time. -/
structure Span where
  seconds : UInt64
  nanoseconds : UInt32
  deriving DecidableEq

namespace Span

/-- No time at all. -/
def zero : Span := ⟨0, 0⟩

/-- A span of whole seconds. -/
def ofSeconds (seconds : UInt64) : Span := ⟨seconds, 0⟩

/-- The nanoseconds in a second. -/
def nanosecondsPerSecond : Nat := 1000000000

/-- All of a span in nanoseconds. -/
def totalNanoseconds (d : Span) : Nat :=
  d.seconds.toNat * nanosecondsPerSecond + d.nanoseconds.toNat

/-- The span of a number of nanoseconds, if its seconds fit. -/
def ofNanoseconds? (n : Nat) : Option Span :=
  if n / nanosecondsPerSecond < UInt64.size then
    some ⟨(n / nanosecondsPerSecond).toUInt64, (n % nanosecondsPerSecond).toUInt32⟩
  else none

/-- The span nearest to a number of seconds, a tie going to the even nanosecond; none for a number
below zero, too large or not a number. -/
def ofBinary? : Binary → Option Span
  | .finite negative q =>
    if negative && q ≠ 0 then none
    else if UInt64.size ≤ q then none
    else ofNanoseconds? (roundEven (q * nanosecondsPerSecond))
  | _ => none

end Span
end CertIssuer
