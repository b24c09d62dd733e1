import CertIssuer.Csr.Der
import CertIssuer.Csr.Pem

/-!
Certificate signing requests: the DNS names that a request wants its certificate to cover. They are
the dNSName entries of all subjectAltName extensions in the first extension request.
-/

namespace CertIssuer.Csr

open Der

/-- Why a byte string is no signing request. -/
inductive Fault where
  | pem (fault : Pem.Fault)
  | der
  deriving DecidableEq

/-- The wording of a fault. -/
def Fault.message : Fault → String
  | .pem fault => "error decoding certificate request PEM block: " ++ fault.message
  | .der => "error parsing certificate request: malformed PKCS#10 request"

/-! ### Names and keys -/

/-- An algorithm: an object identifier, and parameters that may be left out. -/
def readAlgorithm : Bytes → Option (Unit × Bytes) :=
  inSequence fun content => do
    let (_, rest) ← readObjectIdentifier content
    if rest.isEmpty then some ((), rest)
    else
      let (_, rest) ← readElement rest
      some ((), rest)

/-- A distinguished name; its parts are not looked at. -/
def readName (input : Bytes) : Option (Unit × Bytes) :=
  (readContent sequence input).map fun r => ((), r.2)

/-- A public key. -/
def readPublicKey : Bytes → Option (Unit × Bytes) :=
  inSequence fun content => do
    let (_, rest) ← readAlgorithm content
    let (_, rest) ← readBitString rest
    some ((), rest)

/-! ### Alternative names -/

/-- The object identifier of subjectAltName. -/
def subjectAltName : Bytes := [0x55, 0x1D, 0x11]

/-- A general name: its text if it is a DNS name, nothing if it is a sound name of another form. -/
def generalName (e : Element) : Option (Option String) :=
  let text :=
    match Text.decodeUtf8 e.content with
    | .ok s => some s
    | .error _ => none
  if e.header.tagClass ≠ contextSpecific then none
  else
    match e.header.tag with
    | 0 => (readObjectIdentifier e.content).map fun _ => none
    | 1 => text.map fun _ => none
    | 2 => text.map some
    | 3 => some none
    | 4 => (readName e.content).bind fun r => if r.2.isEmpty then some none else none
    | 5 => some none
    | 6 => text.map fun _ => none
    | 7 => some none
    | 8 => some none
    | _ => none

/-- The DNS names of a subjectAltName value; none if any general name in it is not sound. -/
def alternativeNames (value : Bytes) : Option (List String) := do
  let (content, _) ← readContent sequence value
  let elements ← readMany readElement content
  let names ← elements.mapM generalName
  some (names.filterMap id)

/-! ### Extensions -/

/-- An extension: its object identifier and its value. -/
structure Extension where
  id : Bytes
  value : Bytes
  deriving DecidableEq

/-- Skips a truth value if one comes next. -/
def skipBoolean (input : Bytes) : Bytes :=
  match readElement input with
  | some (e, rest) => if e.header.tag = boolean ∧ e.content.length = 1 then rest else input
  | none => input

/-- An extension. -/
def readExtension : Bytes → Option (Extension × Bytes) :=
  inSequence fun content => do
    let (id, rest) ← readObjectIdentifier content
    let (value, rest) ← readPrimitive octetString (skipBoolean rest)
    some (⟨id, value⟩, rest)

/-- The DNS names of an extension; one that is not sound has none. -/
def Extension.dnsNames (e : Extension) : List String :=
  if e.id = subjectAltName then (alternativeNames e.value).getD [] else []

/-! ### Attributes -/

/-- The object identifier of extensionRequest. -/
def extensionRequest : Bytes := [0x2A, 0x86, 0x48, 0x86, 0xF7, 0x0D, 0x01, 0x09, 0x0E]

/-- The object identifier of challengePassword. -/
def challengePassword : Bytes := [0x2A, 0x86, 0x48, 0x86, 0xF7, 0x0D, 0x01, 0x09, 0x07]

/-- Whether a byte is a character of a PrintableString. -/
def isPrintableByte (b : UInt8) : Bool :=
  (65 ≤ b && b ≤ 90) || (97 ≤ b && b ≤ 122) || (48 ≤ b && b ≤ 57)
    || [32, 39, 40, 41, 43, 44, 45, 46, 47, 58, 61, 63].contains b

/-- Whether bytes are sound UTF-32 in network order. -/
def isUtf32 : Bytes → Bool
  | [] => true
  | a :: b :: c :: d :: rest => (ofBytes [a, b, c, d]).isValidChar && isUtf32 rest
  | _ => false

/-- Whether bytes are sound UTF-16 in network order. -/
def isUtf16 : Bytes → Bool
  | [] => true
  | a :: _ :: c :: d :: rest =>
    if 0xD8 ≤ a && a ≤ 0xDB then 0xDC ≤ c && c ≤ 0xDF && isUtf16 rest
    else !(0xDC ≤ a && a ≤ 0xDF) && isUtf16 (c :: d :: rest)
  | a :: _ :: rest => !(0xD8 ≤ a && a ≤ 0xDF) && isUtf16 rest
  | _ => false

/-- Whether an element is a string of one of the types a challenge password may have. -/
def isDirectoryString (e : Element) : Bool :=
  !e.header.constructed &&
    (if e.header.tag = utf8String then (Text.decodeUtf8 e.content).toOption.isSome
    else if e.header.tag = printableString then e.content.all isPrintableByte
    else if e.header.tag = universalString then isUtf32 e.content
    else if e.header.tag = bmpString then isUtf16 e.content
    else if e.header.tag = teletexString then e.content.all fun b => b < 0x80
    else false)

/-- An attribute: the extensions it asks for, if it is an extension request. -/
def readAttribute : Bytes → Option (Option (List Extension) × Bytes) :=
  inSequence fun content => do
    let (id, rest) ← readObjectIdentifier content
    let (header, value) ← readHeader rest
    if header.tag ≠ set then none
    else if id = extensionRequest then
      let (extensions, rest) ← readContent sequence value
      let extensions ← readMany readExtension extensions
      some (some extensions, rest)
    else if id = challengePassword then
      let (e, rest) ← readElement value
      if isDirectoryString e then some (none, rest) else none
    else some (none, value)

/-- The attributes that end a request: behind a header, as many as there are. -/
def readAttributes (input : Bytes) : Option (List (Option (List Extension))) := do
  let (header, rest) ← readHeader input
  if header.tagClass = contextSpecific ∧ header.tag = 0 then readMany readAttribute rest else none

/-! ### Requests -/

/-- What is signed of a request: its attributes. -/
def readInfo : Bytes → Option (List (Option (List Extension)) × Bytes) :=
  inSequence fun content => do
    let (_, rest) ← readSmallInteger content
    let (_, rest) ← readName rest
    let (_, rest) ← readPublicKey rest
    let attributes ← readAttributes rest
    some (attributes, [])

/-- A request: its attributes. The signature has to be there and is not checked. -/
def readRequest : Bytes → Option (List (Option (List Extension)) × Bytes) :=
  inSequence fun content => do
    let (attributes, rest) ← readInfo content
    let (_, rest) ← readAlgorithm rest
    let (_, rest) ← readBitString rest
    some (attributes, rest)

/-- The DNS names of attributes. -/
def dnsNamesOf (attributes : List (Option (List Extension))) : List String :=
  match attributes.filterMap id with
  | extensions :: _ => extensions.flatMap Extension.dnsNames
  | [] => []

/-- The DNS names that a signing request in PEM asks for, in its order. -/
def dnsNames (request : Bytes) : Except Fault (List String) :=
  match Pem.parse request with
  | .error fault => .error (.pem fault)
  | .ok contents =>
    match readRequest contents with
    | some (attributes, _) => .ok (dnsNamesOf attributes)
    | none => .error .der

end CertIssuer.Csr
