import CertIssuer.Number.Binary
import CertIssuer.Time.Span

/-!
The rate limiter: a bucket that holds at most `burst` tokens and is refilled at a constant rate. A
request takes one token; while there is none it waits for as long as the missing part needs to come
in, and then tries again.

The limiter is written once for every arithmetic of tokens. Over the rational numbers it is exact,
and over binary numbers every operation is rounded.
-/

namespace CertIssuer

open Number (Binary binary64)

/-- The operations that tokens are counted with. -/
structure Arithmetic (α : Type) where
  one : α
  add : α → α → α
  sub : α → α → α
  mul : α → α → α
  div : α → α → α
  min : α → α → α
  atMost : α → α → Bool
  /-- A number of nanoseconds in seconds. -/
  seconds : Nat → α

namespace Arithmetic

/-- Exact arithmetic. -/
def exact : Arithmetic Rat where
  one := 1
  add := (· + ·)
  sub := (· - ·)
  mul := (· * ·)
  div := (· / ·)
  min x y := if x ≤ y then x else y
  atMost x y := x ≤ y
  seconds n := mkRat n Span.nanosecondsPerSecond

/-- Arithmetic that rounds every result to 64 bits. -/
def rounded : Arithmetic Binary where
  one := .ofNat binary64 1
  add := Binary.add binary64
  sub := Binary.sub binary64
  mul := Binary.mul binary64
  div := Binary.div binary64
  min := Binary.min
  atMost := Binary.le
  seconds n :=
    .add binary64 (.ofNat binary64 (n / Span.nanosecondsPerSecond))
      (.div binary64 (.ofNat binary64 (n % Span.nanosecondsPerSecond))
        (.ofNat binary64 Span.nanosecondsPerSecond))

end Arithmetic

/-- A limiter: how many tokens come in per second, and how many the bucket holds. -/
structure RateLimiter (α : Type) where
  rate : α
  burst : α

/-- A bucket: the tokens it held at an instant, in nanoseconds. -/
structure Bucket (α : Type) where
  tokens : α
  refilledAt : Nat

/-- The outcome of an attempt to take a token. -/
inductive Attempt (α : Type) where
  | granted
  /-- There is none; the missing part takes that many seconds. -/
  | wait (seconds : α)

namespace RateLimiter

variable {α : Type}

/-- A full bucket. -/
def full (l : RateLimiter α) (now : Nat) : Bucket α := ⟨l.burst, now⟩

/-- The bucket with the tokens that came in up to an instant. -/
def refill (A : Arithmetic α) (l : RateLimiter α) (b : Bucket α) (now : Nat) : Bucket α :=
  ⟨A.min (A.add b.tokens (A.mul (A.seconds (now - b.refilledAt)) l.rate)) l.burst, now⟩

/-- Takes a token if there is one. -/
def take (A : Arithmetic α) (l : RateLimiter α) (b : Bucket α) : Attempt α × Bucket α :=
  if A.atMost A.one b.tokens then (.granted, { b with tokens := A.sub b.tokens A.one })
  else (.wait (A.div (A.sub A.one b.tokens) l.rate), b)

/-- One attempt at an instant. -/
def attempt (A : Arithmetic α) (l : RateLimiter α) (b : Bucket α) (now : Nat) :
    Attempt α × Bucket α :=
  take A l (refill A l b now)

/-! ### Limiters over binary numbers -/

/-- The least positive normal number of 64 bits. -/
def leastRate : Binary := .finite false (Number.twoTo (-1022))

/-- A limiter of binary numbers; the rate is kept above zero and the burst at one or more. -/
def new (rate : Binary) (burst : Int) : RateLimiter Binary :=
  ⟨.max (rate.convert binary64) leastRate, .ofInt binary64 (max burst 1)⟩

/-- The span to sleep for a wait; none if the wait is no span of time. -/
def sleepSpan (seconds : Binary) : Option Span := Span.ofBinary? seconds

/-! ### Waiting -/

/-- The nanoseconds in a millisecond. -/
def nanosecondsPerMillisecond : Nat := 1000000

/-- The millisecond at which a sleep ends that begins at a millisecond. -/
def wakeUp (now : Nat) (span : Span) : Nat :=
  (now * nanosecondsPerMillisecond + span.totalNanoseconds + (nanosecondsPerMillisecond - 1))
    / nanosecondsPerMillisecond

/-- Waits for a token from a millisecond on, in at most that many attempts: the millisecond at which
it is granted, and the bucket then. -/
def acquireWithin (l : RateLimiter Binary) :
    Nat → Bucket Binary → Nat → Option (Nat × Bucket Binary)
  | 0, _, _ => none
  | fuel + 1, b, now =>
    match attempt .rounded l b (now * nanosecondsPerMillisecond) with
    | (.granted, b) => some (now, b)
    | (.wait seconds, b) => (sleepSpan seconds).bind fun d => acquireWithin l fuel b (wakeUp now d)

/-- How many attempts a request makes before it counts as stuck; the second one nearly always
succeeds, and further ones are due to rounding. -/
def patience : Nat := 1000

/-- Waits for a token from a millisecond on. -/
def acquire (l : RateLimiter Binary) (b : Bucket Binary) (now : Nat) :
    Option (Nat × Bucket Binary) :=
  acquireWithin l patience b now

end RateLimiter
end CertIssuer
