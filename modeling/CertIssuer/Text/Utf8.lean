/-!
UTF-8: byte strings read as sequences of scalar values and of the broken pieces between them. Strict
decoding reports the first broken piece; lenient decoding puts U+FFFD in the place of each.
-/

namespace CertIssuer

/-- A byte string. -/
abbrev Bytes := List UInt8

namespace Text

/-- What stands at one place of a byte string read as UTF-8. -/
inductive Utf8Unit where
  /-- A complete scalar value. -/
  | scalar (c : Char)
  /-- The longest beginning of a sequence, of `width` bytes, that the next byte does not
  continue. -/
  | broken (width : Nat)
  /-- The beginning of a sequence, of `width` bytes, at the end of the byte string. -/
  | cut (width : Nat)
  deriving DecidableEq

/-- Whether a byte continues a sequence. -/
def isContinuation (b : UInt8) : Bool := 0x80 ≤ b && b ≤ 0xBF

/-- How many bytes the sequence takes that a byte starts; zero for a byte that starts none. -/
def sequenceWidth (b : UInt8) : Nat :=
  if b < 0x80 then 1
  else if 0xC2 ≤ b && b ≤ 0xDF then 2
  else if 0xE0 ≤ b && b ≤ 0xEF then 3
  else if 0xF0 ≤ b && b ≤ 0xF4 then 4
  else 0

/-- Whether `second` may follow the first byte of a sequence of three or four bytes: no overlong
form, no surrogate, nothing above U+10FFFF. -/
def isSecond (first second : UInt8) : Bool :=
  if first = 0xE0 then 0xA0 ≤ second && second ≤ 0xBF
  else if first = 0xED then 0x80 ≤ second && second ≤ 0x9F
  else if first = 0xF0 then 0x90 ≤ second && second ≤ 0xBF
  else if first = 0xF4 then 0x80 ≤ second && second ≤ 0x8F
  else isContinuation second

/-- The low six bits of a continuation byte. -/
def payload (b : UInt8) : Nat := b.toNat % 64

/-- The scalar value of a complete sequence. -/
def scalarOf : Bytes → Char
  | [a] => Char.ofNat a.toNat
  | [a, b] => Char.ofNat (a.toNat % 32 * 64 + payload b)
  | [a, b, c] => Char.ofNat (a.toNat % 16 * 4096 + payload b * 64 + payload c)
  | [a, b, c, d] =>
    Char.ofNat (a.toNat % 8 * 262144 + payload b * 4096 + payload c * 64 + payload d)
  | _ => '\uFFFD'

/-- Whether `next` continues the sequence that `pending` begins. -/
def continues : Bytes → UInt8 → Bool
  | [], _ => false
  | [a], next => isSecond a next
  | _ :: _ :: _, next => isContinuation next

/-- Whether the bytes are as many as their first one announces. -/
def isComplete : Bytes → Bool
  | [] => false
  | a :: rest => rest.length + 1 = sequenceWidth a

/-- A byte string taken apart from left to right, after the bytes of a sequence that has begun. -/
def utf8Scan : Bytes → Bytes → List Utf8Unit
  | [], [] => []
  | pending@(_ :: _), [] => [.cut pending.length]
  | pending, b :: rest =>
    if continues pending b then
      if isComplete (pending ++ [b]) then .scalar (scalarOf (pending ++ [b])) :: utf8Scan [] rest
      else utf8Scan (pending ++ [b]) rest
    else
      let before := if pending.isEmpty then [] else [.broken pending.length]
      if isComplete [b] then before ++ .scalar (scalarOf [b]) :: utf8Scan [] rest
      else if sequenceWidth b = 0 then before ++ .broken 1 :: utf8Scan [] rest
      else before ++ utf8Scan [b] rest

/-- A byte string taken apart from left to right. -/
def utf8Units (bytes : Bytes) : List Utf8Unit := utf8Scan [] bytes

/-- Why a byte string is not UTF-8: the number of sound bytes before the first fault, and the width
of the broken piece, or none when the byte string ends in the middle of a sequence. -/
structure Utf8Fault where
  index : Nat
  width : Option Nat
  deriving DecidableEq

/-- The wording of a fault. -/
def Utf8Fault.message (fault : Utf8Fault) : String :=
  match fault.width with
  | some width => s!"invalid utf-8 sequence of {width} bytes from index {fault.index}"
  | none => s!"incomplete utf-8 byte sequence from index {fault.index}"

/-- The scalar values of the units, up to the first fault. -/
def collectUnits (index : Nat) : List Utf8Unit → Except Utf8Fault (List Char)
  | [] => .ok []
  | .scalar c :: rest => (collectUnits (index + c.utf8Size) rest).map (c :: ·)
  | .broken width :: _ => .error ⟨index, some width⟩
  | .cut _ :: _ => .error ⟨index, none⟩

/-- The character a unit becomes under lenient decoding. -/
def Utf8Unit.shown : Utf8Unit → Char
  | .scalar c => c
  | .broken _ | .cut _ => '\uFFFD'

/-- The text of a byte string, or the first fault in it. -/
def decodeUtf8 (bytes : Bytes) : Except Utf8Fault String :=
  (collectUnits 0 (utf8Units bytes)).map String.ofList

/-- The text of a byte string with U+FFFD for every broken piece. -/
def decodeLossy (bytes : Bytes) : String :=
  String.ofList ((utf8Units bytes).map Utf8Unit.shown)

/-- The UTF-8 bytes of a text. -/
def encodeUtf8 (s : String) : Bytes := s.toList.flatMap String.utf8EncodeChar

theorem toByteArray_encodeUtf8 (s : String) : (encodeUtf8 s).toByteArray = s.toByteArray := by
  have hofList := String.toByteArray_ofList (l := s.toList)
  rw [String.ofList_toList] at hofList
  exact hofList.symm

/-- Texts of the same bytes are the same. -/
theorem encodeUtf8_inj {s t : String} : encodeUtf8 s = encodeUtf8 t ↔ s = t := by
  constructor
  · intro h
    rw [← String.toByteArray_inj, ← toByteArray_encodeUtf8, ← toByteArray_encodeUtf8, h]
  · rintro rfl
    rfl

/-- Only the empty text has no bytes. -/
theorem encodeUtf8_eq_nil {s : String} : encodeUtf8 s = [] ↔ s = "" := by
  have hempty : encodeUtf8 "" = [] := rfl
  rw [← hempty, encodeUtf8_inj]

end Text
end CertIssuer
