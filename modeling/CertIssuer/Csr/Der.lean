import CertIssuer.Text.Utf8

/-!
DER elements: a tag, a length and that many content bytes. A reader takes a byte string to what it
read and the bytes behind it. Only the number of a tag is compared where nothing else is said.
-/

namespace CertIssuer.Der

/-- What comes before the content of an element. -/
structure Header where
  /-- Zero for the universal class, two for the context-specific one. -/
  tagClass : Nat
  constructed : Bool
  tag : Nat
  length : Nat
  deriving DecidableEq

/-- An element. -/
structure Element where
  header : Header
  content : Bytes
  deriving DecidableEq

/-! ### Tag numbers -/

/-- BOOLEAN. -/
def boolean : Nat := 1

/-- INTEGER. -/
def integer : Nat := 2

/-- BIT STRING. -/
def bitString : Nat := 3

/-- OCTET STRING. -/
def octetString : Nat := 4

/-- UTF8String. -/
def utf8String : Nat := 12

/-- SEQUENCE. -/
def sequence : Nat := 16

/-- SET. -/
def set : Nat := 17

/-- PrintableString. -/
def printableString : Nat := 19

/-- TeletexString. -/
def teletexString : Nat := 20

/-- UniversalString. -/
def universalString : Nat := 28

/-- BMPString. -/
def bmpString : Nat := 30

/-- The context-specific class. -/
def contextSpecific : Nat := 2

/-! ### Elements -/

/-- A tag number in groups of seven bits, at most `fuel` of them; numbers are of 32 bits. -/
def readLongTag : Nat → Nat → Bytes → Option (Nat × Bytes)
  | 0, _, _ => none
  | _, _, [] => none
  | fuel + 1, n, b :: rest =>
    let n := (n * 128 + b.toNat % 128) % UInt32.size
    if b < 0x80 then some (n, rest) else readLongTag fuel n rest

/-- A tag: class, whether constructed, and number. -/
def readTag : Bytes → Option (Nat × Bool × Nat × Bytes)
  | [] => none
  | b :: rest =>
    let tagClass := b.toNat / 64
    let constructed := b.toNat / 32 % 2 = 1
    if b.toNat % 32 = 31 then
      (readLongTag 5 0 rest).map fun r => (tagClass, constructed, r.1, r.2)
    else some (tagClass, constructed, b.toNat % 32, rest)

/-- The number that bytes spell. -/
def ofBytes (bytes : Bytes) : Nat := bytes.foldl (fun n b => n * 256 + b.toNat) 0

/-- A definite length, in one byte or in up to 126 bytes that are counted by the first. -/
def readLength : Bytes → Option (Nat × Bytes)
  | [] => none
  | b :: rest =>
    if b < 0x80 then some (b.toNat, rest)
    else if b = 0x80 ∨ b = 0xFF then none
    else
      let count := b.toNat - 128
      if rest.length < count then none
      else
        let n := ofBytes (rest.take count)
        if n < UInt64.size then some (n, rest.drop count) else none

/-- The header of an element. -/
def readHeader (input : Bytes) : Option (Header × Bytes) := do
  let (tagClass, constructed, tag, rest) ← readTag input
  let (length, rest) ← readLength rest
  some (⟨tagClass, constructed, tag, length⟩, rest)

/-- An element. -/
def readElement (input : Bytes) : Option (Element × Bytes) := do
  let (header, rest) ← readHeader input
  if rest.length < header.length then none
  else some (⟨header, rest.take header.length⟩, rest.drop header.length)

/-- The content of an element with that tag number. -/
def readContent (tag : Nat) (input : Bytes) : Option (Bytes × Bytes) := do
  let (e, rest) ← readElement input
  if e.header.tag = tag then some (e.content, rest) else none

/-- The content of an element with that tag number that is not constructed. -/
def readPrimitive (tag : Nat) (input : Bytes) : Option (Bytes × Bytes) := do
  let (e, rest) ← readElement input
  if e.header.tag = tag ∧ e.header.constructed = false then some (e.content, rest) else none

/-- Reads one value from the content of a SEQUENCE; the rest of the content is ignored. -/
def inSequence {α : Type} (read : Bytes → Option (α × Bytes)) (input : Bytes) :
    Option (α × Bytes) := do
  let (content, rest) ← readContent sequence input
  let (a, _) ← read content
  some (a, rest)

/-- Reads values until nothing is left, at most `fuel` of them. -/
def readManyWithin {α : Type} (read : Bytes → Option (α × Bytes)) : Nat → Bytes → Option (List α)
  | _, [] => some []
  | 0, _ => none
  | fuel + 1, input => do
    let (a, rest) ← read input
    (readManyWithin read fuel rest).map (a :: ·)

/-- Reads values until nothing is left. Every value takes at least one byte. -/
def readMany {α : Type} (read : Bytes → Option (α × Bytes)) (input : Bytes) : Option (List α) :=
  readManyWithin read input.length input

/-! ### Values -/

/-- A whole number that is not negative, in as few bytes as possible and below `2 ^ 32`. -/
def readSmallInteger (input : Bytes) : Option (Nat × Bytes) := do
  let (content, rest) ← readPrimitive integer input
  match content with
  | [] => none
  | [b] => if b < 0x80 then some (b.toNat, rest) else none
  | a :: b :: more =>
    if 0x80 ≤ a then none
    else if a = 0 ∧ b < 0x80 then none
    else
      let n := ofBytes (a :: b :: more)
      if n < UInt32.size then some (n, rest) else none

/-- The encoded bytes of an object identifier; any tag will do, but it may not be constructed. -/
def readObjectIdentifier (input : Bytes) : Option (Bytes × Bytes) := do
  let (e, rest) ← readElement input
  if e.header.constructed then none else some (e.content, rest)

/-- How many of the low bits of a byte are zero before the first that is not; eight for zero. -/
def trailingZeros (b : UInt8) : Nat :=
  ((List.range 8).find? fun i => b.toNat / Nat.pow 2 i % 2 = 1).getD 8

/-- A bit string: a count of unused bits, at most seven, and bytes whose unused bits are zero. -/
def readBitString (input : Bytes) : Option (Bytes × Bytes) := do
  let (content, rest) ← readPrimitive bitString input
  match content with
  | [] => none
  | unused :: bits =>
    if 7 < unused then none
    else
      match bits.getLast? with
      | none => if unused = 0 then some ([], rest) else none
      | some last => if trailingZeros last < unused.toNat then none else some (bits, rest)

end CertIssuer.Der
