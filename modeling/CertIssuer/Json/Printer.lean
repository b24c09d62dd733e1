import CertIssuer.Json.Basic
import CertIssuer.Number.Shortest
import CertIssuer.Text.Quoted

/-!
Writing JSON text without white space. Inside strings only quotes, backslashes and control
characters are escaped.
-/

namespace CertIssuer.Json

/-- Two hexadecimal digits. -/
def hexPair (n : Nat) : List Char := [Text.hexDigit (n / 16), Text.hexDigit (n % 16)]

/-- One character inside a string literal. -/
def escapedChar (c : Char) : List Char :=
  if c = '"' then ['\\', '"']
  else if c = '\\' then ['\\', '\\']
  else if c = '\x08' then ['\\', 'b']
  else if c = '\x0c' then ['\\', 'f']
  else if c = '\n' then ['\\', 'n']
  else if c = '\r' then ['\\', 'r']
  else if c = '\t' then ['\\', 't']
  else if c.toNat < 0x20 then ['\\', 'u', '0', '0'] ++ hexPair c.toNat
  else [c]

/-- A string literal. -/
def stringLiteral (s : String) : String :=
  String.ofList ('"' :: s.toList.flatMap escapedChar ++ ['"'])

mutual

/-- The text of a value. -/
def print : Json → String
  | .null => "null"
  | .unpaired => "null"
  | .bool true => "true"
  | .bool false => "false"
  | .int n => toString n
  | .real x => x.dataText
  | .str s => stringLiteral s
  | .arr items => "[" ++ String.intercalate "," (printItems items) ++ "]"
  | .obj fields => "\x7b" ++ String.intercalate "," (printMembers fields) ++ "\x7d"

/-- The texts of the items. -/
def printItems : List Json → List String
  | [] => []
  | item :: rest => item.print :: printItems rest

/-- The texts of the members. -/
def printMembers : List (String × Json) → List String
  | [] => []
  | (name, value) :: rest => (stringLiteral name ++ ":" ++ value.print) :: printMembers rest

end

end CertIssuer.Json
