/-!
Instants of UTC time, in milliseconds since the start of 1970, and their text: the proleptic
Gregorian date and the time of day in whole seconds, rounded down.
-/

namespace CertIssuer

/-- Milliseconds since the start of 1970. -/
abbrev Instant := Int

namespace Instant

/-- A calendar date. -/
structure Date where
  year : Int
  month : Int
  day : Int
  deriving DecidableEq

/-- The date of a day, counted from the first day of 1970. Years are counted from March, so that
the leap day comes last. -/
def dateOfDay (days : Int) : Date :=
  let z := days + 719468
  let era := Int.fdiv z 146097
  let dayOfEra := z - era * 146097
  let yearOfEra := (dayOfEra - dayOfEra / 1460 + dayOfEra / 36524 - dayOfEra / 146096) / 365
  let dayOfYear := dayOfEra - (365 * yearOfEra + yearOfEra / 4 - yearOfEra / 100)
  let m := (5 * dayOfYear + 2) / 153
  let month := if m < 10 then m + 3 else m - 9
  let year := yearOfEra + era * 400
  ⟨if month ≤ 2 then year + 1 else year, month, dayOfYear - (153 * m + 2) / 5 + 1⟩

/-- Decimal digits with leading zeros up to a width. -/
def padded (width n : Nat) : String :=
  let digits := Nat.toDigits 10 n
  String.ofList (List.replicate (width - digits.length) '0' ++ digits)

/-- A year: four digits, with a sign in front when it is negative or has more. -/
def yearText (year : Int) : String :=
  if year < 0 then "-" ++ padded 4 year.natAbs
  else if 9999 < year then "+" ++ padded 4 year.natAbs
  else padded 4 year.natAbs

/-- The text of an instant up to the second, without a zone. -/
def localText (t : Instant) : String :=
  let seconds := Int.fdiv t 1000
  let date := dateOfDay (Int.fdiv seconds 86400)
  let s := (Int.fmod seconds 86400).toNat
  yearText date.year ++ "-" ++ padded 2 date.month.toNat ++ "-" ++ padded 2 date.day.toNat ++ "T"
    ++ padded 2 (s / 3600) ++ ":" ++ padded 2 (s / 60 % 60) ++ ":" ++ padded 2 (s % 60)

/-- The text of an instant, as resources record it. -/
def format (t : Instant) : String := localText t ++ "Z"

/-- The last millisecond of the last year that dates can represent. -/
def latest : Instant := 8210266876799999

/-- A later instant, unless it is past the last one that dates can represent. -/
def add? (t : Instant) (milliseconds : Int) : Option Instant :=
  if t + milliseconds ≤ latest then some (t + milliseconds) else none

end Instant
end CertIssuer
