/-!
Binary floating-point numbers over exact rationals. A number is not a number, infinite, or a sign
with an exact magnitude; an operation computes the exact result and rounds it once, to the nearest
number of its format, a tie to the even one.
-/

namespace CertIssuer.Number

/-- A binary format: the bits of its significand, the exponent of its least positive number, and
the exponent of the first power of two above all its numbers. -/
structure Format where
  precision : Nat
  minExponent : Int
  maxExponent : Int
  deriving DecidableEq

/-- The format of 32 bits. -/
def binary32 : Format := ⟨24, -149, 128⟩

/-- The format of 64 bits. -/
def binary64 : Format := ⟨53, -1074, 1024⟩

/-- A floating-point number; the magnitude of a finite one is never negative. -/
inductive Binary where
  | nan
  | infinite (negative : Bool)
  | finite (negative : Bool) (magnitude : Rat)
  deriving DecidableEq

/-! ### Rounding -/

/-- A power of two. -/
def twoTo (e : Int) : Rat :=
  if 0 ≤ e then (Nat.pow 2 e.toNat : Rat) else mkRat 1 (Nat.pow 2 (-e).toNat)

/-- A power of ten. -/
def tenTo (e : Int) : Rat :=
  if 0 ≤ e then (Nat.pow 10 e.toNat : Rat) else mkRat 1 (Nat.pow 10 (-e).toNat)

/-- The exponent of the greatest power of two that is not above a positive number. -/
def floorLog2 (q : Rat) : Int :=
  let e : Int := (q.num.toNat.log2 : Int) - (q.den.log2 : Int)
  if twoTo e ≤ q then e else e - 1

/-- The whole number nearest to a number that is not negative, a tie going to the even one. -/
def roundEven (q : Rat) : Nat :=
  let n := q.num.toNat / q.den
  let twice := 2 * (q.num.toNat % q.den)
  if twice < q.den then n
  else if q.den < twice then n + 1
  else if n % 2 = 0 then n else n + 1

/-- The distance between neighbouring numbers of the format around a positive number. -/
def Format.spacing (f : Format) (q : Rat) : Rat :=
  twoTo (max (floorLog2 q - (f.precision - 1)) f.minExponent)

/-- The number of the format nearest to an exact magnitude. -/
def Format.round (f : Format) (negative : Bool) (q : Rat) : Binary :=
  if q ≤ 0 then .finite negative 0
  else
    let unit := f.spacing q
    let rounded := (roundEven (q / unit) : Rat) * unit
    if twoTo f.maxExponent ≤ rounded then .infinite negative else .finite negative rounded

namespace Binary

/-- Positive zero. -/
def zero : Binary := .finite false 0

/-- A natural number, rounded to the format. -/
def ofNat (f : Format) (n : Nat) : Binary := f.round false n

/-- A signed whole number, rounded to the format. -/
def ofInt (f : Format) (n : Int) : Binary := f.round (n < 0) n.natAbs

/-- An exact signed number, rounded to the format; zero takes the given sign. -/
def ofRat (f : Format) (negativeZero : Bool) (q : Rat) : Binary :=
  if q = 0 then .finite negativeZero 0
  else if q < 0 then f.round true (-q) else f.round false q

/-- The same number in another format. -/
def convert (f : Format) : Binary → Binary
  | .finite negative q => f.round negative q
  | other => other

/-- The exact signed value of a finite number. -/
def value? : Binary → Option Rat
  | .finite true q => some (-q)
  | .finite false q => some q
  | _ => none

/-- The sum, rounded once. -/
def add (f : Format) : Binary → Binary → Binary
  | .nan, _ => .nan
  | _, .nan => .nan
  | .infinite s, .infinite t => if s = t then .infinite s else .nan
  | .infinite s, _ => .infinite s
  | _, .infinite t => .infinite t
  | .finite s p, .finite t q =>
    ofRat f (s && t) ((if s then -p else p) + (if t then -q else q))

/-- The number with the other sign. -/
def neg : Binary → Binary
  | .nan => .nan
  | .infinite s => .infinite !s
  | .finite s q => .finite (!s) q

/-- The difference, rounded once. -/
def sub (f : Format) (x y : Binary) : Binary := add f x (neg y)

/-- The product, rounded once. -/
def mul (f : Format) : Binary → Binary → Binary
  | .nan, _ => .nan
  | _, .nan => .nan
  | .infinite s, .infinite t => .infinite (s != t)
  | .infinite s, .finite t q => if q = 0 then .nan else .infinite (s != t)
  | .finite s p, .infinite t => if p = 0 then .nan else .infinite (s != t)
  | .finite s p, .finite t q => f.round (s != t) (p * q)

/-- The quotient, rounded once. -/
def div (f : Format) : Binary → Binary → Binary
  | .nan, _ => .nan
  | _, .nan => .nan
  | .infinite _, .infinite _ => .nan
  | .infinite s, .finite t _ => .infinite (s != t)
  | .finite s _, .infinite t => .finite (s != t) 0
  | .finite s p, .finite t q =>
    if q = 0 then (if p = 0 then .nan else .infinite (s != t)) else f.round (s != t) (p / q)

/-- Whether the first number is below the second; never so for a pair that is not ordered. -/
def lt : Binary → Binary → Bool
  | .nan, _ => false
  | _, .nan => false
  | .infinite s, .infinite t => s && !t
  | .infinite s, .finite _ _ => s
  | .finite _ _, .infinite t => !t
  | .finite s p, .finite t q => (if s then -p else p) < (if t then -q else q)

/-- Whether the first number is at most the second; never so for a pair that is not ordered. -/
def le : Binary → Binary → Bool
  | .nan, _ => false
  | _, .nan => false
  | x, y => !lt y x

/-- The lesser number; a number wins over what is not a number. -/
def min (x y : Binary) : Binary :=
  match x, y with
  | .nan, y => y
  | x, .nan => x
  | x, y => if lt y x then y else x

/-- The greater number; a number wins over what is not a number. -/
def max (x y : Binary) : Binary :=
  match x, y with
  | .nan, y => y
  | x, .nan => x
  | x, y => if lt x y then y else x

end Binary
end CertIssuer.Number
