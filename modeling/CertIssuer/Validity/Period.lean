import CertIssuer.Time.Span

/-!
Validity periods: the whole days of a lifetime, and the period nearest to them that the authority
offers.
-/

namespace CertIssuer.Period

/-- The periods that the authority offers, in days. -/
def allowed : List Int64 := [7, 30, 90, 365, 730, 1095, 5475]

/-- The period of a request that asks for none. -/
def standard : Int64 := 7

/-- The whole days of a span. -/
def days (d : Span) : Int64 :=
  let n := d.seconds.toNat / 86400
  if n ≤ Int64.maxValue.toInt then Int64.ofNat n else Int64.maxValue

/-- The distance of two numbers of days. -/
def distance (a b : Int64) : Nat := (a.toInt - b.toInt).natAbs

/-- Takes a candidate that is strictly nearer than the best so far. -/
def nearer (of : Int64) (best : Int64 × Nat) (candidate : Int64) : Int64 × Nat :=
  if distance candidate of < best.2 then (candidate, distance candidate of) else best

/-- The period of a list nearest to a number of days, the first of those equally near; the number
itself when no period is nearer than the greatest distance of two numbers. -/
def closest (of : Int64) (periods : List Int64) : Int64 :=
  (periods.foldl (nearer of) (of, UInt64.size - 1)).1

/-- The period to ask for when a request asks for a lifetime. -/
def ofLifetime (d : Span) : Int64 := closest (days d) allowed

end CertIssuer.Period
