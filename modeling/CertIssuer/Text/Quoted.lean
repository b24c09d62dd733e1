import CertIssuer.Text.Printable

/-!
Quoted texts, the way messages show a name or a value they received: between double quotes, with
every character that would not be seen as itself written as an escape.
-/

namespace CertIssuer.Text

/-- The value of a hexadecimal digit's character, in lower case. -/
def hexDigit (n : Nat) : Char :=
  if n < 10 then Char.ofNat (48 + n) else Char.ofNat (87 + n)

/-- A code point in lower-case hexadecimal, without padding. -/
def hexOf (n : Nat) : List Char := Nat.toDigits 16 n

/-- One character inside quotes. -/
def escaped (c : Char) : List Char :=
  if c = '"' then ['\\', '"']
  else if c = '\\' then ['\\', '\\']
  else if c = '\t' then ['\\', 't']
  else if c = '\r' then ['\\', 'r']
  else if c = '\n' then ['\\', 'n']
  else if c = '\x00' then ['\\', '0']
  else if isExtending c || !isVisible c then
    ['\\', 'u', '\x7b'] ++ hexOf c.toNat ++ ['\x7d']
  else [c]

/-- The text between double quotes, with escapes. -/
def quoted (s : String) : String :=
  String.ofList ('"' :: s.toList.flatMap escaped ++ ['"'])

/-- A list of texts, each quoted, between square brackets. -/
def quotedList (items : List String) : String :=
  "[" ++ String.intercalate ", " (items.map quoted) ++ "]"

end CertIssuer.Text
