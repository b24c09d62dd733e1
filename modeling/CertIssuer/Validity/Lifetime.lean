import CertIssuer.Number.Literal
import CertIssuer.Text.Quoted
import CertIssuer.Time.Span

/-!
Lifetimes: the durations that requests ask for, written as numbers with units one after the other,
such as `2160h0m0s` or `1.5h`. The components are summed from left to right as binary numbers.
-/

namespace CertIssuer.Lifetime

open Number

/-- Why a text is no lifetime; a text that is quoted has no white space around it. -/
inductive Fault where
  | empty
  | invalid (text : String)
  | negative (text : String)
  deriving DecidableEq

/-- The wording of a fault. -/
def Fault.message : Fault → String
  | .empty => "duration cannot be empty"
  | .invalid text => "invalid duration " ++ Text.quoted text
  | .negative text => "negative duration " ++ Text.quoted text ++ " is not supported"

/-! ### Components -/

/-- The units of time. -/
inductive TimeUnit where
  | nanosecond
  | microsecond
  | millisecond
  | second
  | minute
  | hour
  deriving DecidableEq

/-- A unit in seconds, as a decimal literal. -/
def TimeUnit.literal : TimeUnit → Literal
  | .nanosecond => ⟨1, -9⟩
  | .microsecond => ⟨1, -6⟩
  | .millisecond => ⟨1, -3⟩
  | .second => ⟨1, 0⟩
  | .minute => ⟨60, 0⟩
  | .hour => ⟨3600, 0⟩

/-- A unit in seconds. -/
def TimeUnit.seconds (u : TimeUnit) : Binary := u.literal.round binary64 false

/-- A number with its unit. -/
structure Component where
  number : Literal
  unit : TimeUnit
  deriving DecidableEq

/-- The seconds of a component. -/
def Component.seconds (c : Component) : Binary :=
  Binary.mul binary64 (c.number.round binary64 false) c.unit.seconds

/-- A unit, and what follows it. The sign for micro is either of two code points. -/
def readUnit : List Char → Option (TimeUnit × List Char)
  | 'n' :: 's' :: rest => some (.nanosecond, rest)
  | 'u' :: 's' :: rest => some (.microsecond, rest)
  | '\u00b5' :: 's' :: rest => some (.microsecond, rest)
  | '\u03bc' :: 's' :: rest => some (.microsecond, rest)
  | 'm' :: 's' :: rest => some (.millisecond, rest)
  | 's' :: rest => some (.second, rest)
  | 'm' :: rest => some (.minute, rest)
  | 'h' :: rest => some (.hour, rest)
  | _ => none

/-- A number, and what follows it: digits, which may be followed by a point and more digits, or a
point and digits. -/
def readAmount (cs : List Char) : Option (Literal × List Char) :=
  match cs.takeWhile isDigit, cs.dropWhile isDigit with
  | [], '.' :: rest =>
    match rest.takeWhile isDigit, rest.dropWhile isDigit with
    | [], _ => none
    | fraction, after => some (⟨ofDigits fraction, -(fraction.length : Int)⟩, after)
  | [], _ => none
  | whole, '.' :: rest =>
    let fraction := rest.takeWhile isDigit
    some (⟨ofDigits (whole ++ fraction), -(fraction.length : Int)⟩, rest.dropWhile isDigit)
  | whole, rest => some (⟨ofDigits whole, 0⟩, rest)

/-- A component, and what follows it. -/
def readComponent (cs : List Char) : Option (Component × List Char) := do
  let (number, rest) ← readAmount cs
  let (unit, rest) ← readUnit rest
  some (⟨number, unit⟩, rest)

/-- The components a text consists of, at most `fuel` of them. -/
def readComponents : Nat → List Char → Option (List Component)
  | _, [] => some []
  | 0, _ => none
  | fuel + 1, cs => do
    let (c, rest) ← readComponent cs
    (readComponents fuel rest).map (c :: ·)

/-- The components a text consists of. A component has at least two characters. -/
def components (cs : List Char) : Option (List Component) :=
  if cs.isEmpty then none else readComponents cs.length cs

/-! ### Sums -/

/-- The sum of the components in seconds, from left to right. -/
def total (cs : List Component) : Binary :=
  cs.foldl (fun sum c => Binary.add binary64 sum c.seconds) Binary.zero

/-- Reads a lifetime without its sign. -/
def readUnsigned (cs : List Char) : Option Span :=
  if cs = ['0'] then some .zero
  else (components cs).bind fun parts => Span.ofBinary? (total parts)

/-- Reads a lifetime. -/
def parse (text : String) : Except Fault Span :=
  let trimmed := Text.trim text
  let read cs :=
    match readUnsigned cs with
    | some span => .ok span
    | none => .error (.invalid trimmed)
  match trimmed.toList with
  | [] => .error .empty
  | '-' :: _ => .error (.negative trimmed)
  | '+' :: rest => read rest
  | cs => read cs

end CertIssuer.Lifetime
