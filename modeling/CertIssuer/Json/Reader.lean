import CertIssuer.Json.Basic
import CertIssuer.Number.Literal

/-!
Reading JSON text: one value with white space around it, and nothing else. A string literal with an
unpaired surrogate is well formed but has no text.
-/

namespace CertIssuer.Json

open Number

/-! ### Tokens -/

/-- Whether a character is white space between tokens. -/
def isSpace (c : Char) : Bool := c = ' ' || c = '\n' || c = '\t' || c = '\r'

/-- The value of a hexadecimal digit. -/
def hexValue? (c : Char) : Option Nat :=
  if '0' ≤ c ∧ c ≤ '9' then some (c.toNat - 48)
  else if 'a' ≤ c ∧ c ≤ 'f' then some (c.toNat - 87)
  else if 'A' ≤ c ∧ c ≤ 'F' then some (c.toNat - 55)
  else none

/-- The value of four hexadecimal digits. -/
def codeUnit? (a b c d : Char) : Option Nat := do
  let a ← hexValue? a
  let b ← hexValue? b
  let c ← hexValue? c
  let d ← hexValue? d
  some (a * 4096 + b * 256 + c * 16 + d)

/-- One element of a string literal: a character, or a 16-bit unit written as an escape. -/
inductive Piece where
  | char (c : Char)
  | unit (n : Nat)

/-- The character a one-letter escape stands for. -/
def simpleEscape? (c : Char) : Option Char :=
  if c = '"' then some '"'
  else if c = '\\' then some '\\'
  else if c = '/' then some '/'
  else if c = 'b' then some '\x08'
  else if c = 'f' then some '\x0c'
  else if c = 'n' then some '\n'
  else if c = 'r' then some '\r'
  else if c = 't' then some '\t'
  else none

/-- The pieces of a string literal after its opening quote, and what follows the closing one. -/
def readPieces : List Char → Option (List Piece × List Char)
  | [] => none
  | '"' :: rest => some ([], rest)
  | '\\' :: 'u' :: a :: b :: c :: d :: rest =>
    match codeUnit? a b c d, readPieces rest with
    | some n, some (pieces, after) => some (.unit n :: pieces, after)
    | _, _ => none
  | '\\' :: c :: rest =>
    match simpleEscape? c, readPieces rest with
    | some e, some (pieces, after) => some (.char e :: pieces, after)
    | _, _ => none
  | c :: rest =>
    if c.toNat < 0x20 then none
    else (readPieces rest).map fun r => (.char c :: r.1, r.2)

/-- The text of the pieces; none if a surrogate stands without its partner. -/
def joinPieces : List Piece → Option (List Char)
  | [] => some []
  | .char c :: rest => (joinPieces rest).map (c :: ·)
  | .unit high :: .unit low :: rest =>
    if 0xD800 ≤ high ∧ high ≤ 0xDBFF then
      if 0xDC00 ≤ low ∧ low ≤ 0xDFFF then
        (joinPieces rest).map
          (Char.ofNat (0x10000 + (high - 0xD800) * 1024 + (low - 0xDC00)) :: ·)
      else none
    else if 0xDC00 ≤ high ∧ high ≤ 0xDFFF then none
    else (joinPieces (.unit low :: rest)).map (Char.ofNat high :: ·)
  | .unit n :: rest =>
    if 0xD800 ≤ n ∧ n ≤ 0xDFFF then none else (joinPieces rest).map (Char.ofNat n :: ·)

/-- The text of a string literal after its opening quote, none inside if it has no text, and what
follows the literal. -/
def readString (cs : List Char) : Option (Option String × List Char) :=
  (readPieces cs).map fun r => ((joinPieces r.1).map String.ofList, r.2)

/-- The least and greatest whole numbers that stay exact. -/
def exactRange : Int × Int := (Int64.minValue.toInt, UInt64.size - 1)

/-- Digits without a superfluous leading zero, and what follows them. -/
def readWhole (cs : List Char) : Option (List Char × List Char) :=
  match cs.takeWhile isDigit, cs.dropWhile isDigit with
  | [], _ => none
  | '0' :: _ :: _, _ => none
  | digits, rest => some (digits, rest)

/-- The digits after a point, if one follows. -/
def readFraction (cs : List Char) : Option (Option (List Char) × List Char) :=
  match cs with
  | '.' :: rest =>
    match rest.takeWhile isDigit, rest.dropWhile isDigit with
    | [], _ => none
    | digits, rest => some (some digits, rest)
  | other => some (none, other)

/-- The exponent, if one follows. -/
def readPower (cs : List Char) : Option (Option Int × List Char) :=
  match cs with
  | [] => some (none, [])
  | e :: rest =>
    if lowerAscii e ≠ 'e' then some (none, e :: rest)
    else
      let (negative, rest) : Bool × List Char :=
        match rest with
        | '+' :: more => (false, more)
        | '-' :: more => (true, more)
        | more => (false, more)
      match rest.takeWhile isDigit, rest.dropWhile isDigit with
      | [], _ => none
      | digits, rest =>
        some (some (if negative then -(ofDigits digits : Int) else ofDigits digits), rest)

/-- A number, and what follows it. -/
def readNumber (cs : List Char) : Option (Json × List Char) := do
  let (negative, cs) : Bool × List Char :=
    match cs with
    | '-' :: rest => (true, rest)
    | other => (false, other)
  let (whole, cs) ← readWhole cs
  let (fraction, cs) ← readFraction cs
  let (power, cs) ← readPower cs
  let n : Int := if negative then -(ofDigits whole : Int) else ofDigits whole
  let isExact := fraction.isNone && power.isNone && exactRange.1 ≤ n && n ≤ exactRange.2
    && !(negative && n = 0)
  if isExact then some (.int n, cs)
  else
    let digits := fraction.getD []
    let literal : Literal := ⟨ofDigits (whole ++ digits), power.getD 0 - digits.length⟩
    some (.real (literal.round binary64 negative), cs)

/-! ### Values -/

mutual

/-- A value, and what follows it. -/
def readValue : Nat → List Char → Option (Json × List Char)
  | 0, _ => none
  | fuel + 1, cs =>
    match cs.dropWhile isSpace with
    | 'n' :: 'u' :: 'l' :: 'l' :: rest => some (.null, rest)
    | 't' :: 'r' :: 'u' :: 'e' :: rest => some (.bool true, rest)
    | 'f' :: 'a' :: 'l' :: 's' :: 'e' :: rest => some (.bool false, rest)
    | '"' :: rest =>
      (readString rest).map fun r =>
        (match r.1 with
          | some s => .str s
          | none => .unpaired, r.2)
    | '[' :: rest =>
      match rest.dropWhile isSpace with
      | ']' :: after => some (.arr [], after)
      | other => (readItems fuel other).map fun r => (.arr r.1, r.2)
    | '\x7b' :: rest =>
      match rest.dropWhile isSpace with
      | '\x7d' :: after => some (.obj [], after)
      | other =>
        (readMembers fuel other).map fun r =>
          (match r.1 with
            | some fields => .obj fields
            | none => .unpaired, r.2)
    | other => readNumber other

/-- The items of an array up to its closing bracket. -/
def readItems : Nat → List Char → Option (List Json × List Char)
  | 0, _ => none
  | fuel + 1, cs => do
    let (item, rest) ← readValue fuel cs
    match rest.dropWhile isSpace with
    | ',' :: more =>
      let (items, after) ← readItems fuel more
      some (item :: items, after)
    | ']' :: after => some ([item], after)
    | _ => none

/-- The members of an object up to its closing brace; none inside if a name has no text. -/
def readMembers : Nat → List Char → Option (Option (List (String × Json)) × List Char)
  | 0, _ => none
  | fuel + 1, cs => do
    match cs.dropWhile isSpace with
    | '"' :: rest =>
      let (name, rest) ← readString rest
      match rest.dropWhile isSpace with
      | ':' :: rest =>
        let (value, rest) ← readValue fuel rest
        let member := name.map fun n => (n, value)
        match rest.dropWhile isSpace with
        | ',' :: more =>
          let (fields, after) ← readMembers fuel more
          some (member.bind fun m => fields.map (m :: ·), after)
        | '\x7d' :: after => some (member.map fun m => [m], after)
        | _ => none
      | _ => none
    | _ => none

end

/-- The value of a JSON text. -/
def parseChars (cs : List Char) : Option Json :=
  match readValue (2 * cs.length + 2) cs with
  | some (value, rest) => if rest.all isSpace then some value else none
  | none => none

/-- The value of a JSON text. -/
def parse (text : String) : Option Json := parseChars text.toList

end CertIssuer.Json
