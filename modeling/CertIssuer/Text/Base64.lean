import CertIssuer.Text.Utf8

/-!
Standard base64 with padding, in its strict form: the only text accepted for a byte string is the
one that encoding gives. Decoding names the first fault of any other text.
-/

namespace CertIssuer.Base64

/-- Why a text is not base64. -/
inductive Fault where
  | invalidByte (offset : Nat) (byte : UInt8)
  | invalidLength (length : Nat)
  | invalidLastSymbol (offset : Nat) (byte : UInt8)
  | invalidPadding
  deriving DecidableEq

/-- The wording of a fault. -/
def Fault.message : Fault → String
  | .invalidByte offset byte => s!"Invalid symbol {byte.toNat}, offset {offset}."
  | .invalidLength length => s!"Invalid input length: {length}"
  | .invalidLastSymbol offset byte => s!"Invalid last symbol {byte.toNat}, offset {offset}."
  | .invalidPadding => "Invalid padding"

/-! ### Symbols -/

/-- The padding byte. -/
def pad : UInt8 := 61

/-- The byte that stands for six bits. -/
def symbol (n : Nat) : UInt8 :=
  if n < 26 then (65 + n).toUInt8
  else if n < 52 then (71 + n).toUInt8
  else if n < 62 then (n - 4).toUInt8
  else if n = 62 then 43
  else 47

/-- The six bits a byte stands for. -/
def bits? (b : UInt8) : Option Nat :=
  if 65 ≤ b && b ≤ 90 then some (b.toNat - 65)
  else if 97 ≤ b && b ≤ 122 then some (b.toNat - 71)
  else if 48 ≤ b && b ≤ 57 then some (b.toNat + 4)
  else if b = 43 then some 62
  else if b = 47 then some 63
  else none

/-! ### Encoding -/

/-- The symbols of a byte string. -/
def encodeBytes : Bytes → Bytes
  | [] => []
  | [a] => [symbol (a.toNat / 4), symbol (a.toNat % 4 * 16), pad, pad]
  | [a, b] =>
    [symbol (a.toNat / 4), symbol (a.toNat % 4 * 16 + b.toNat / 16), symbol (b.toNat % 16 * 4), pad]
  | a :: b :: c :: rest =>
    symbol (a.toNat / 4) :: symbol (a.toNat % 4 * 16 + b.toNat / 16)
      :: symbol (b.toNat % 16 * 4 + c.toNat / 64) :: symbol (c.toNat % 64) :: encodeBytes rest

/-- The base64 text of a byte string. -/
def encode (bytes : Bytes) : String :=
  String.ofList ((encodeBytes bytes).map fun b => Char.ofNat b.toNat)

/-! ### Decoding -/

/-- The bits of the symbol at an offset. -/
def bitsAt (offset : Nat) (b : UInt8) : Except Fault Nat :=
  match bits? b with
  | some n => .ok n
  | none => .error (.invalidByte offset b)

/-- The symbols of the last, possibly padded group: their bits, how many padding bytes follow, and
where padding began. -/
structure Tail where
  bits : List Nat
  padding : Nat
  firstPadding : Nat
  lastSymbol : UInt8

/-- Reads the last group, byte by byte, counting from `index` within the group. -/
def scanTail (start : Nat) : Nat → Tail → Bytes → Except Fault Tail
  | _, tail, [] => .ok tail
  | index, tail, b :: rest =>
    if b = pad then
      if index < 2 then .error (.invalidByte (start + index) b)
      else
        let first := if tail.padding = 0 then index else tail.firstPadding
        scanTail start (index + 1) { tail with padding := tail.padding + 1, firstPadding := first }
          rest
    else if 0 < tail.padding then .error (.invalidByte (start + tail.firstPadding) pad)
    else
      match bitsAt (start + index) b with
      | .error fault => .error fault
      | .ok n =>
        scanTail start (index + 1) { tail with bits := tail.bits ++ [n], lastSymbol := b } rest

/-- The bytes that the symbols of the last group carry, and the bits left over. -/
def tailBytes : List Nat → Bytes × Nat
  | [p, q] => ([(p * 4 + q / 16).toUInt8], q % 16)
  | [p, q, r] => ([(p * 4 + q / 16).toUInt8, (q % 16 * 16 + r / 4).toUInt8], r % 4)
  | [p, q, r, s] =>
    ([(p * 4 + q / 16).toUInt8, (q % 16 * 16 + r / 4).toUInt8, (r % 4 * 64 + s).toUInt8], 0)
  | _ => ([], 0)

/-- Decodes the last group, which starts at offset `start`. -/
def decodeTail (start : Nat) (group : Bytes) : Except Fault Bytes :=
  match scanTail start 0 ⟨[], 0, 0, 0⟩ group with
  | .error fault => .error fault
  | .ok tail =>
    let count := tail.bits.length
    if !group.isEmpty && count < 2 then .error (.invalidLength (start + count))
    else if (tail.padding + count) % 4 ≠ 0 then .error .invalidPadding
    else
      let (bytes, leftover) := tailBytes tail.bits
      if leftover ≠ 0 then .error (.invalidLastSymbol (start + count - 1) tail.lastSymbol)
      else .ok bytes

/-- Decodes group by group; every group but the last is four symbols. -/
def decodeGroups (start : Nat) : Bytes → Except Fault Bytes
  | a :: b :: c :: d :: e :: rest =>
    match bitsAt start a, bitsAt (start + 1) b, bitsAt (start + 2) c, bitsAt (start + 3) d with
    | .ok p, .ok q, .ok r, .ok s =>
      (decodeGroups (start + 4) (e :: rest)).map fun bytes => (tailBytes [p, q, r, s]).1 ++ bytes
    | .error fault, _, _, _ => .error fault
    | _, .error fault, _, _ => .error fault
    | _, _, .error fault, _ => .error fault
    | _, _, _, .error fault => .error fault
  | group => decodeTail start group

/-- A stray byte after the last complete group is reported before anything else. -/
def strayLast? (bytes : Bytes) : Option Fault :=
  if bytes.length % 4 = 1 then
    match bytes.getLast? with
    | some b => if b ≠ pad ∧ bits? b = none then some (.invalidByte (bytes.length - 1) b) else none
    | none => none
  else none

/-- The byte string of base64 symbols, or the first fault in them. -/
def decodeBytes (bytes : Bytes) : Except Fault Bytes :=
  match strayLast? bytes with
  | some fault => .error fault
  | none => decodeGroups 0 bytes

/-- The byte string of a base64 text, or the first fault in it. -/
def decode (s : String) : Except Fault Bytes := decodeBytes (Text.encodeUtf8 s)

end CertIssuer.Base64
