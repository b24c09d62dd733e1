/-!
Whole numbers in decimal: a sign that may be left out, then ASCII digits, within given bounds. The
text is read from left to right and the first fault met is reported.
-/

namespace CertIssuer.Number

/-- Why a text is not a whole number within the bounds. -/
inductive IntegerFault where
  | empty
  | invalidDigit
  | tooLarge
  | tooSmall
  deriving DecidableEq

/-- The wording of a fault. -/
def IntegerFault.message : IntegerFault → String
  | .empty => "cannot parse integer from empty string"
  | .invalidDigit => "invalid digit found in string"
  | .tooLarge => "number too large to fit in target type"
  | .tooSmall => "number too small to fit in target type"

/-- The value of an ASCII digit. -/
def digit? (c : Char) : Option Nat :=
  if '0' ≤ c ∧ c ≤ '9' then some (c.toNat - 48) else none

/-- The number that digits spell, whatever else is among them. -/
def ofDigits (cs : List Char) : Nat := cs.foldl (fun n c => 10 * n + (c.toNat - 48)) 0

/-- Appends digits to `n`, which must never exceed `limit`. -/
def readDigits (limit : Nat) (overflow : IntegerFault) : Nat → List Char → Except IntegerFault Nat
  | n, [] => .ok n
  | n, c :: rest =>
    match digit? c with
    | none => .error .invalidDigit
    | some d =>
      if limit < 10 * n + d then .error overflow else readDigits limit overflow (10 * n + d) rest

/-- Reads a number of at least one digit. -/
def readMagnitude (limit : Nat) (overflow : IntegerFault) :
    List Char → Except IntegerFault Nat
  | [] => .error .invalidDigit
  | cs => readDigits limit overflow 0 cs

/-- Reads a number from `low` to `high`, where `low ≤ 0`; a minus sign is a digit fault when nothing
below zero is allowed. -/
def readInteger (low high : Int) (s : String) : Except IntegerFault Int :=
  match s.toList with
  | [] => .error .empty
  | '+' :: rest => (readMagnitude high.toNat .tooLarge rest).map Int.ofNat
  | '-' :: rest =>
    if low < 0 then (readMagnitude (-low).toNat .tooSmall rest).map fun n => -Int.ofNat n
    else .error .invalidDigit
  | cs => (readMagnitude high.toNat .tooLarge cs).map Int.ofNat

/-- Reads a natural number below `2 ^ width`. -/
def readWord (width : Nat) (s : String) : Option Nat :=
  match readInteger 0 (Int.pow 2 width - 1) s with
  | .ok n => some n.toNat
  | .error _ => none

end CertIssuer.Number
