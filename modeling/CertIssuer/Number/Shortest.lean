import CertIssuer.Number.Literal

/-!
The shortest decimal that reads back as a given floating-point number: of the decimals with the
fewest digits among those that read back, the one nearest to the number. Two ways to write it:
always positional, and with an exponent for very large and very small numbers.
-/

namespace CertIssuer.Number

/-- The number of the form `10 ^ e` next above a positive number, as its exponent. -/
def decimalTop (q : Rat) : Int :=
  let e : Int := (decimalLength q.num.toNat : Int) - (decimalLength q.den : Int)
  if q < tenTo (e - 1) then e - 1
  else if q < tenTo e then e
  else e + 1

/-- The decimals of `k` digits next to a positive number, nearest first. -/
def neighbours (q : Rat) (k : Nat) : List Literal :=
  let exponent := decimalTop q - k
  let scaled := q / tenTo exponent
  let below := scaled.num.toNat / scaled.den
  let distance := scaled - below
  let low : Literal := ⟨below, exponent⟩
  let high : Literal := ⟨below + 1, exponent⟩
  if distance = 0 then [low]
  else if 2 * distance < 1 then [low, high]
  else if 1 < 2 * distance then [high, low]
  else if below % 2 = 0 then [low, high] else [high, low]

/-- The first decimal among those of `k`, `k + 1`, … digits that reads back as the number. -/
def shortestFrom (f : Format) (q : Rat) : Nat → Nat → Literal
  | 0, k => (neighbours q k).headD ⟨0, 0⟩
  | more + 1, k =>
    match (neighbours q k).find? fun l => l.round f false = .finite false q with
    | some l => l
    | none => shortestFrom f q more (k + 1)

/-- A literal without trailing zeros in its mantissa, given that many attempts. -/
def Literal.strip : Nat → Literal → Literal
  | 0, l => l
  | fuel + 1, l =>
    if l.mantissa ≠ 0 ∧ l.mantissa % 10 = 0 then
      Literal.strip fuel ⟨l.mantissa / 10, l.exponent + 1⟩
    else l

/-- The shortest decimal of a positive number; seventeen digits always suffice. -/
def shortest (f : Format) (q : Rat) : Literal := (shortestFrom f q 17 1).strip 20

/-- The digits of a positive literal with a point at its place and no exponent. -/
def Literal.positional (l : Literal) : String :=
  let digits := Nat.toDigits 10 l.mantissa
  if 0 ≤ l.exponent then String.ofList (digits ++ List.replicate l.exponent.toNat '0')
  else
    let places := (-l.exponent).toNat
    let whole := digits.length - places
    if places < digits.length then
      String.ofList (digits.take whole ++ '.' :: digits.drop whole)
    else String.ofList ('0' :: '.' :: List.replicate (places - digits.length) '0' ++ digits)

/-- The sign of a negative number. -/
def signText (negative : Bool) : String := if negative then "-" else ""

/-- A number in positional form, whatever its size; `NaN` and `inf` for the rest. -/
def Binary.positional (f : Format) : Binary → String
  | .nan => "NaN"
  | .infinite negative => signText negative ++ "inf"
  | .finite negative q =>
    signText negative ++ (if q = 0 then "0" else (shortest f q).positional)

/-- One digit before the point, and an exponent. -/
def Literal.scientific (l : Literal) : String :=
  let digits := Nat.toDigits 10 l.mantissa
  let exponent := l.exponent + digits.length - 1
  match digits with
  | [] => "0"
  | [d] => String.ofList [d] ++ "e" ++ toString exponent
  | d :: more => String.ofList (d :: '.' :: more) ++ "e" ++ toString exponent

/-- A number of 64 bits as data formats write it: positional between `1e-5` and `1e16`, always with
a point, and with an exponent elsewhere. -/
def Binary.dataText (x : Binary) : String :=
  match x with
  | .nan | .infinite _ => "null"
  | .finite negative q =>
    if q = 0 then signText negative ++ "0.0"
    else
      let l := shortest binary64 q
      let top := l.exponent + decimalLength l.mantissa
      signText negative ++
        (if -5 < top ∧ top ≤ 16 then
          (if 0 ≤ l.exponent then l.positional ++ ".0" else l.positional)
        else l.scientific)

end CertIssuer.Number
