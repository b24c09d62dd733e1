import CertIssuer.Time.Span

/-!
Delays before another attempt: each is the sum of the two before it, up to a greatest one, for every
object on its own.
-/

namespace CertIssuer

/-- The delays of one object: the least and the greatest, the one before and the next. -/
structure Backoff where
  least : UInt64
  greatest : UInt64
  previous : UInt64
  current : UInt64
  deriving DecidableEq

namespace Backoff

/-- The sum of two numbers, or the greatest number of 64 bits. -/
def saturatingAdd (a b : UInt64) : UInt64 :=
  if a.toNat + b.toNat < UInt64.size then a + b else UInt64.ofNat (UInt64.size - 1)

/-- Delays from the least one up. -/
def new (least greatest : UInt64) : Backoff := ⟨least, greatest, 0, least⟩

/-- The next delay in seconds, and the delays after it. -/
def next (b : Backoff) : UInt64 × Backoff :=
  let sum := saturatingAdd b.previous b.current
  (b.current,
    { b with previous := b.current, current := if b.greatest < sum then b.greatest else sum })

/-- Delays from the least one up again. -/
def reset (b : Backoff) : Backoff := { b with previous := 0, current := b.least }

end Backoff

/-- The delays of all objects. An object that is not listed starts from the least delay. -/
structure BackoffRegistry where
  least : UInt64
  greatest : UInt64
  states : List (String × Backoff)

namespace BackoffRegistry

/-- Delays of no object yet. -/
def new (least greatest : UInt64) : BackoffRegistry := ⟨least, greatest, []⟩

/-- The delays of an object. -/
def state (r : BackoffRegistry) (key : String) : Backoff :=
  (r.states.lookup key).getD (.new r.least r.greatest)

/-- The entries of the other objects. -/
def others (r : BackoffRegistry) (key : String) : List (String × Backoff) :=
  r.states.filter fun e => e.1 ≠ key

/-- The next delay of an object. -/
def next (r : BackoffRegistry) (key : String) : UInt64 × BackoffRegistry :=
  let (delay, b) := (r.state key).next
  (delay, { r with states := (key, b) :: r.others key })

/-- Forgets the delays of an object. -/
def reset (r : BackoffRegistry) (key : String) : BackoffRegistry :=
  { r with states := r.others key }

end BackoffRegistry
end CertIssuer
