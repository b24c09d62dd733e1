import CertIssuer.Text.Quoted
import CertIssuer.Text.Utf8

/-!
Request targets: the path and query that a request to an `http` URL names. What may not stand in a
request line is percent-encoded, dot segments are resolved, and the fragment is left out.
-/

namespace CertIssuer.Http

open Text

/-- A byte as a percent sign and two hexadecimal digits in upper case. -/
def percentByte (b : UInt8) : List Char :=
  '%' :: [b.toNat / 16, b.toNat % 16].map fun n =>
    if n < 10 then Char.ofNat (48 + n) else Char.ofNat (55 + n)

/-- Encodes the characters of a set, and all that are not printable ASCII. -/
def percentEncode (special : List Char) (cs : List Char) : List Char :=
  cs.flatMap fun c =>
    if 0x20 ≤ c.toNat ∧ c.toNat < 0x7F ∧ !special.contains c then [c]
    else (String.utf8EncodeChar c).flatMap percentByte

/-- The characters that are encoded in a path. -/
def pathSpecial : List Char := [' ', '"', '#', '<', '>', '?', '\x60', '\x7b', '\x7d']

/-- The characters that are encoded in a query. -/
def querySpecial : List Char := [' ', '"', '#', '<', '>', '\x27']

/-- Whether a segment stands for the segment it is in. -/
def isDot (segment : String) : Bool := [".", "%2e", "%2E"].contains segment

/-- Whether a segment stands for the one above. -/
def isDoubleDot (segment : String) : Bool :=
  ["..", ".%2e", ".%2E", "%2e.", "%2E.", "%2e%2e", "%2e%2E", "%2E%2e", "%2E%2E"].contains segment

/-- Resolves dot segments; `above` holds the segments so far, the latest first. -/
def resolve (above : List String) : List String → List String
  | [] => above.reverse
  | [last] =>
    if isDoubleDot last then (("" :: above.tail).reverse)
    else if isDot last then ("" :: above).reverse
    else (last :: above).reverse
  | segment :: rest =>
    if isDoubleDot segment then resolve above.tail rest
    else if isDot segment then resolve above rest
    else resolve (segment :: above) rest

/-- Whether a character separates segments. -/
def isSlash (c : Char) : Bool := c = '/' || c = '\\'

/-- The path that begins with a slash. -/
def pathOf (cs : List Char) : List Char :=
  let segments := (cs.splitOnP isSlash).map fun s => String.ofList (percentEncode pathSpecial s)
  let segments := match segments with
    | "" :: rest => rest
    | other => other
  '/' :: (String.intercalate "/" (resolve [] segments)).toList

/-- Whether a character ends the authority of a URL. -/
def endsAuthority (c : Char) : Bool := isSlash c || c = '?' || c = '#'

/-- What follows the scheme and the authority of a URL. -/
def afterAuthority (url : List Char) : List Char :=
  let hierarchy := (url.dropWhile fun c => c ≠ ':').drop 1
  (hierarchy.dropWhile isSlash).dropWhile fun c => !endsAuthority c

/-- The URL without surrounding blanks and without tabs and line breaks. -/
def cleaned (url : List Char) : List Char :=
  let inner := url.dropWhile fun c => c.toNat ≤ 0x20
  let inner := (inner.reverse.dropWhile fun c => c.toNat ≤ 0x20).reverse
  inner.filter fun c => c ≠ '\t' && c ≠ '\n' && c ≠ '\r'

/-- The request target of a URL. -/
def target (url : String) : String :=
  let rest := (afterAuthority (cleaned url.toList)).takeWhile fun c => c ≠ '#'
  let path := rest.takeWhile fun c => c ≠ '?'
  match rest.dropWhile fun c => c ≠ '?' with
  | [] => String.ofList (pathOf path)
  | _ :: query => String.ofList (pathOf path ++ '?' :: percentEncode querySpecial query)

end CertIssuer.Http
