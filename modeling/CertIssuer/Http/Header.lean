import CertIssuer.Text.Utf8

/-!
Header fields: which bytes a value may hold, and how a value is looked up and read as text.
-/

namespace CertIssuer.Http

/-- Whether a byte may stand in the value of a header field that is sent. -/
def isHeaderByte (b : UInt8) : Bool := (0x20 ≤ b && b ≠ 0x7F) || b = 9

/-- Whether a byte of a header field that was received is visible, a space or a tab. -/
def isVisibleByte (b : UInt8) : Bool := (0x20 ≤ b && b < 0x7F) || b = 9

/-- Whether a byte is one of those dropped around a value. -/
def isOptionalSpace (b : UInt8) : Bool := b = 0x20 || b = 9

/-- A value without spaces and tabs around it. -/
def trimValue (value : Bytes) : Bytes :=
  ((value.dropWhile isOptionalSpace).reverse.dropWhile isOptionalSpace).reverse

/-- The name of a header field without regard to the case of letters. -/
def foldName (name : String) : String := String.ofList (name.toList.map Char.toLower)

/-- The value of the first header field of a name. -/
def header? (headers : List (String × Bytes)) (name : String) : Option Bytes :=
  (headers.find? fun h => foldName h.1 = foldName name).map fun h => trimValue h.2

/-- The text of a value; none if it is not visible ASCII. -/
def valueText? (value : Bytes) : Option String :=
  if value.all isVisibleByte then some (String.ofList (value.map fun b => Char.ofNat b.toNat))
  else none

end CertIssuer.Http
