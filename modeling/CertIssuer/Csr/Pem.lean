import CertIssuer.Text.Base64
import CertIssuer.Text.Blank

/-!
PEM blocks: the first block of a byte string, between a BEGIN and an END marker with a tag each. A
marker is looked for without going back: after a byte that does not continue it, the search starts
anew behind that byte.
-/

namespace CertIssuer.Pem

open Text

/-- Why a byte string holds no PEM block. -/
inductive Fault where
  | malformedFraming
  | missingBeginTag
  | missingEndTag
  | mismatchedTags (begun ended : String)
  | notUtf8 (fault : Utf8Fault)
  | invalidData (fault : Base64.Fault)
  | invalidHeader (line : String)
  deriving DecidableEq

/-- The wording of a fault. -/
def Fault.message : Fault → String
  | .malformedFraming => "malformedframing"
  | .missingBeginTag => "missing BEGIN tag"
  | .missingEndTag => "missing END tag"
  | .mismatchedTags begun ended =>
    "mismatching BEGIN (\"" ++ begun ++ "\") and END (\"" ++ ended ++ "\") tags"
  | .notUtf8 fault => "invalid utf-8 value: " ++ fault.message
  | .invalidData fault => "invalid data: " ++ fault.message
  | .invalidHeader line => "invalid header: " ++ line

/-! ### Markers -/

/-- Looks for the rest of a marker, after `consumed` bytes: how many bytes are consumed when the
marker is complete, and what follows it. -/
def seek (marker : Bytes) : Bytes → Nat → Bytes → Option (Nat × Bytes)
  | [], consumed, rest => some (consumed, rest)
  | _ :: _, _, [] => none
  | m :: ms, consumed, b :: rest => seek marker (if b = m then ms else marker) (consumed + 1) rest

/-- What stands before the first find of a marker, and what stands behind it. -/
def splitAt? (marker input : Bytes) : Option (Bytes × Bytes) :=
  (seek marker marker 0 input).map fun r => (input.take (r.1 - marker.length), r.2)

/-- The marker before a tag that opens a block. -/
def beginMarker : Bytes := encodeUtf8 "-----BEGIN "

/-- The marker before a tag that closes a block. -/
def endMarker : Bytes := encodeUtf8 "-----END "

/-- The marker behind a tag. -/
def closing : Bytes := encodeUtf8 "-----"

/-- Whether a byte may stand between a marker and the payload. -/
def isGap (b : UInt8) : Bool := b = 32 || b = 9 || b = 10 || b = 13

/-! ### Blocks -/

/-- The parts of a block. -/
structure Frame where
  begun : Bytes
  headers : Bytes
  data : Bytes
  ended : Bytes

/-- The headers of a payload, before its first empty line, and the data behind it. -/
def splitHeaders (payload : Bytes) : Bytes × Bytes :=
  match splitAt? [10, 10] payload with
  | some parts => parts
  | none =>
    match splitAt? [13, 10, 13, 10] payload with
    | some parts => parts
    | none => ([], payload)

/-- The parts of the first block of a byte string. -/
def frame? (input : Bytes) : Option Frame := do
  let (_, rest) ← splitAt? beginMarker input
  let (begun, rest) ← splitAt? closing rest
  let (payload, rest) ← splitAt? endMarker (rest.dropWhile isGap)
  let (ended, _) ← splitAt? closing rest
  let (headers, data) := splitHeaders payload
  some ⟨begun, headers, data, ended⟩

/-- A line without the carriage return at its end. -/
def withoutReturn (line : List Char) : List Char :=
  match line.reverse with
  | '\r' :: rest => rest.reverse
  | _ => line

/-- The lines of a text; a line feed at the end starts no line. -/
def lines (s : String) : List (List Char) :=
  let parts := s.toList.splitOn '\n'
  let parts := if parts.getLast? = some [] then parts.dropLast else parts
  parts.map withoutReturn

/-- The text of a part. -/
def text (bytes : Bytes) : Except Fault String :=
  match decodeUtf8 bytes with
  | .ok s => .ok s
  | .error fault => .error (.notUtf8 fault)

/-- The contents of a block. -/
def Frame.contents (f : Frame) : Except Fault Bytes := do
  let begun ← text f.begun
  if begun = "" then throw .missingBeginTag
  let ended ← text f.ended
  if ended = "" then throw .missingEndTag
  if begun ≠ ended then throw (.mismatchedTags begun ended)
  let data ← text f.data
  match Base64.decode (String.ofList (data.toList.filter fun c => !isBlank c)) with
  | .error fault => throw (.invalidData fault)
  | .ok contents =>
    let headers ← text f.headers
    match (lines headers).find? fun line => !line.contains ':' with
    | some line => throw (.invalidHeader (String.ofList line))
    | none => pure contents

/-- The contents of the first block of a byte string. -/
def parse (input : Bytes) : Except Fault Bytes :=
  match frame? input with
  | some f => f.contents
  | none => .error .malformedFraming

end CertIssuer.Pem
