import CertIssuer.Number.Binary
import CertIssuer.Number.Decimal

/-!
Decimal literals of floating-point numbers: a sign, digits around a point, an exponent, or a word
for infinity or for what is not a number. The exact value of the literal is rounded once.
-/

namespace CertIssuer.Number

/-- A decimal literal taken apart: the number is `mantissa * 10 ^ exponent`. -/
structure Literal where
  mantissa : Nat
  exponent : Int
  deriving DecidableEq

/-- An ASCII letter in lower case, any other character as it is. -/
def lowerAscii (c : Char) : Char :=
  if 'A' ≤ c ∧ c ≤ 'Z' then Char.ofNat (c.toNat + 32) else c

/-- Whether a character is an ASCII digit. -/
def isDigit (c : Char) : Bool := (digit? c).isSome

/-- The exponent part: nothing, or a letter `e`, a sign that may be left out, and digits. -/
def readExponent : List Char → Option Int
  | [] => some 0
  | e :: rest =>
    if lowerAscii e ≠ 'e' then none
    else
      let (negative, digits) : Bool × List Char :=
        match rest with
        | '+' :: ds => (false, ds)
        | '-' :: ds => (true, ds)
        | ds => (false, ds)
      if digits.isEmpty || !digits.all isDigit then none
      else some (if negative then -(ofDigits digits : Int) else ofDigits digits)

/-- Reads an unsigned literal with at least one digit before the exponent. -/
def readLiteral (cs : List Char) : Option Literal :=
  let whole := cs.takeWhile isDigit
  let rest := cs.dropWhile isDigit
  let (fraction, rest) : List Char × List Char :=
    match rest with
    | '.' :: more => (more.takeWhile isDigit, more.dropWhile isDigit)
    | other => ([], other)
  if whole.isEmpty && fraction.isEmpty then none
  else
    (readExponent rest).map fun e => ⟨ofDigits (whole ++ fraction), e - fraction.length⟩

/-- How many decimal digits a number has. -/
def decimalLength (n : Nat) : Nat := (Nat.toDigits 10 n).length

/-- The decimal exponents beyond which every literal is zero or infinite in the formats here. -/
def decimalHorizon : Int := 400

/-- The number of the format nearest to a literal. A literal beyond the horizon is not expanded. -/
def Literal.round (f : Format) (negative : Bool) (l : Literal) : Binary :=
  if l.mantissa = 0 then .finite negative 0
  else
    let top := l.exponent + decimalLength l.mantissa
    if decimalHorizon < top then .infinite negative
    else if top < -decimalHorizon then .finite negative 0
    else f.round negative (l.mantissa * tenTo l.exponent)

/-- Reads a floating-point number without its sign. -/
def readUnsigned (f : Format) (negative : Bool) (cs : List Char) : Option Binary :=
  let word := String.ofList (cs.map lowerAscii)
  if word = "inf" ∨ word = "infinity" then some (.infinite negative)
  else if word = "nan" then some .nan
  else (readLiteral cs).map (Literal.round f negative)

/-- Why a text is no floating-point number. -/
inductive LiteralFault where
  | empty
  | invalid
  deriving DecidableEq

/-- The wording of a fault. -/
def LiteralFault.message : LiteralFault → String
  | .empty => "cannot parse float from empty string"
  | .invalid => "invalid float literal"

/-- Reads a floating-point number. -/
def readBinary (f : Format) (s : String) : Except LiteralFault Binary :=
  let read negative cs :=
    match readUnsigned f negative cs with
    | some x => .ok x
    | none => .error .invalid
  match s.toList with
  | [] => .error .empty
  | '+' :: rest => read false rest
  | '-' :: rest => read true rest
  | cs => read false cs

end CertIssuer.Number
