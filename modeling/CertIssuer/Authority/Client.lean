import CertIssuer.Authority.Signing
import CertIssuer.Http.Header
import CertIssuer.Http.Status
import CertIssuer.Http.Url
import CertIssuer.Json.Printer
import CertIssuer.Json.Reader
import CertIssuer.Log
import CertIssuer.Text.Blank

/-!
The client of the authority: one service key and an endpoint. A call is a request built from them,
and an answer read from the response, whose body says by itself whether the call succeeded.
-/

namespace CertIssuer

/-- A client bound to a service key. -/
structure Client where
  endpoint : String
  serviceKey : String
  deriving DecidableEq

/-- A request on the wire. -/
structure WireRequest where
  target : String
  serviceKey : Bytes
  body : Json

/-- A response on the wire. -/
structure WireResponse where
  status : Nat
  headers : List (String × Bytes)
  body : Bytes

/-! ### Envelopes -/

/-- A message in the envelope around an answer. -/
structure ApiMessage where
  code : Int
  message : String
  deriving DecidableEq

/-- The envelope around an answer. -/
structure Envelope where
  success : Bool
  errors : List ApiMessage
  result : Option SignResponse
  deriving DecidableEq

namespace Envelope

/-- A message read from JSON. -/
def messageOfJson? (j : Json) : Option ApiMessage := do
  let m ← j.record? ["code", "message"]
  let code ← Json.required Json.int64? (m "code")
  let message ← Json.withDefault "" Json.text? (m "message")
  some ⟨code, message⟩

/-- An envelope read from JSON. -/
def ofJson? (j : Json) : Option Envelope := do
  let m ← j.record? ["success", "errors", "result"]
  let success ← Json.withDefault false Json.bool? (m "success")
  let errors ← Json.withDefault [] (Json.list? messageOfJson?) (m "errors")
  let result ← Json.optional SignResponse.ofJson? (m "result")
  some ⟨success, errors, result⟩

/-- An envelope read from text. -/
def parse (text : String) : Option Envelope := (Json.parse text).bind ofJson?

/-- What an envelope that came with a status says about the call. -/
def outcome (e : Envelope) (status : Nat) (rayId : String) : Except SignError SignResponse :=
  if e.success then
    match e.result with
    | some r => .ok r
    | none => .error (.invalidResponse "response has no result")
  else
    match e.errors with
    | first :: _ => .error (.api ⟨first.code, first.message, rayId⟩)
    | [] =>
      .error (.api ⟨status, "request failed with status " ++ Http.statusText status, rayId⟩)

end Envelope

namespace Client

/-- Why a service key cannot be used. -/
inductive KeyFault where
  | notUtf8 (fault : Text.Utf8Fault)
  | empty
  deriving DecidableEq

/-- The texts of a fault, from what was attempted to what went wrong. -/
def KeyFault.chain : KeyFault → List String
  | .notUtf8 fault => ["service key is not valid UTF-8", fault.message]
  | .empty => ["service key is empty"]

/-- A client for the text of a service key without white space around it. -/
def new (endpoint : String) (serviceKey : Bytes) : Except KeyFault Client :=
  match Text.decodeUtf8 serviceKey with
  | .error fault => .error (.notUtf8 fault)
  | .ok s => if Text.trim s = "" then .error .empty else .ok ⟨endpoint, Text.trim s⟩

/-- The endpoint without slashes at its end. -/
def base (c : Client) : String :=
  String.ofList (c.endpoint.toList.reverse.dropWhile (· = '/')).reverse

/-- The URL that signs certificates. -/
def url (c : Client) : String := c.base ++ "/certificates"

/-- The wire form of a call; a service key that no header field can hold is not sent. -/
def request (c : Client) (r : SignRequest) : Except TransportFault WireRequest :=
  let key := Text.encodeUtf8 c.serviceKey
  if key.all Http.isHeaderByte then .ok ⟨Http.target c.url, key, r.toJson⟩
  else .error .unsendableKey

/-- The identifier in a response under which the authority knows the call. -/
def rayId (response : WireResponse) : String :=
  ((Http.header? response.headers "cf-ray").bind Http.valueText?).getD ""

/-- Whether a response of that status has a body. -/
def hasBody (status : Nat) : Bool := status ≠ 204 && status ≠ 304

/-- The text of a response. -/
def bodyText (response : WireResponse) : String :=
  if hasBody response.status then Text.decodeLossy response.body else ""

/-- What a response says about the call. -/
def interpret (response : WireResponse) : Except SignError SignResponse :=
  match Envelope.parse (bodyText response) with
  | none =>
    .error (.invalidResponse ("status " ++ Http.statusText response.status
      ++ ": the body is no answer of the API"))
  | some e => e.outcome response.status (rayId response)

/-- The event that a response arrived. -/
def responded (response : WireResponse) : Log.Event :=
  Log.debug "Origin CA API responded"
    [("http.status", toString response.status), ("ray_id", rayId response)]

/-- The outcome of a call whose response is given, none standing for a connection that was closed,
and the events of the call. -/
def exchange (c : Client) (r : SignRequest) (response : Option WireResponse) :
    Except SignError SignResponse × List Log.Event :=
  match c.request r with
  | .error fault => (.error (.transport fault), [])
  | .ok _ =>
    match response with
    | none => (.error (.transport .connectionClosed), [])
    | some response => (interpret response, [responded response])

/-- A client in diagnostics, without its service key. -/
def describe (c : Client) : String :=
  "OriginCaClient \x7b endpoint: " ++ Text.quoted c.endpoint
    ++ ", service_key: \"***\", .. \x7d"

end Client
end CertIssuer
