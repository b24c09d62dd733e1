import CertIssuer.Http.Status
import CertIssuer.Json.Printer
import CertIssuer.Json.Reader
import CertIssuer.Store.Error

/-!
The store behind an API server. Every operation is one exchange: an object is read by its path, and
a status is written as a merge patch which also names the version the object had when it was read,
so that the server can refuse a write based on an older one.
-/

namespace CertIssuer

/-- A request to the API server. -/
inductive ApiRequest where
  | get (uri : String)
  | patchStatus (uri : String) (patch : Json)

/-- A response of the API server. -/
structure ApiResponse where
  status : Nat
  body : String

/-- An exchange with the API server: the request, unless there is nothing to send it to, and what a
response to it means. -/
structure Exchange (α : Type) where
  request : Except StoreError ApiRequest
  interpret : ApiResponse → Except StoreError α

namespace ApiServer

/-! ### Request targets -/

/-- Whether a character may stand in the path of a request target. -/
def isPathChar (c : Char) : Bool :=
  0x20 < c.toNat && !(['#', '<', '>', '?', '\x60'].contains c)

/-- Whether a character may stand in the query of a request target. -/
def isQueryChar (c : Char) : Bool := 0x20 < c.toNat && !(['"', '#', '<', '>'].contains c)

/-- The longest request target in bytes. -/
def longestTarget : Nat := 65534

/-- The request target that a text spells, without its fragment. -/
def target? (s : String) : Option String :=
  let path := s.toList.takeWhile isPathChar
  let fits := s.utf8ByteSize ≤ longestTarget
  match s.toList.dropWhile isPathChar with
  | '?' :: rest =>
    let query := rest.takeWhile isQueryChar
    match rest.dropWhile isQueryChar with
    | [] | '#' :: _ => if fits then some (String.ofList (path ++ '?' :: query)) else none
    | _ => none
  | [] | '#' :: _ => if fits then some (String.ofList path) else none
  | _ => none

/-! ### Paths of objects -/

/-- The path of a request. -/
def requestPath (ns name : String) : String :=
  "/apis/" ++ CertificateRequest.apiVersion ++ "/namespaces/" ++ ns ++ "/certificaterequests/"
    ++ name

/-- The path of an issuer. -/
def issuerPath : IssuerKey → String
  | .origin key =>
    "/apis/" ++ Issuer.apiVersion ++ "/namespaces/" ++ key.ns ++ "/originissuers/" ++ key.name
  | .cluster name => "/apis/" ++ Issuer.apiVersion ++ "/clusteroriginissuers/" ++ name

/-- The path of a secret. -/
def secretPath (key : ObjectKey) : String :=
  "/api/" ++ Secret.apiVersion ++ "/namespaces/" ++ key.ns ++ "/secrets/" ++ key.name

/-! ### Responses -/

/-- A failure read from JSON. -/
def statusOfJson? (j : Json) : Option ApiStatus := do
  let m ← j.record? ["status", "message", "reason", "code"]
  let status ← Json.required Json.text? (m "status")
  let message ← Json.withDefault "" Json.text? (m "message")
  let reason ← Json.withDefault "" Json.text? (m "reason")
  let code ← Json.required (Json.int? 0 65535) (m "code")
  some ⟨status, message, reason, code.toNat⟩

/-- The failure that a response reports; a body that is no such report is quoted. -/
def failure (r : ApiResponse) : ApiStatus :=
  match (Json.parse r.body).bind statusOfJson? with
  | some s => s
  | none =>
    ⟨Http.statusText r.status, Text.quoted r.body, "Failed to parse error data", r.status⟩

/-- Whether a status code stands for a failure. -/
def isFailure (code : Nat) : Bool := 400 ≤ code && code < 600

/-- The object in a response. -/
def object {α : Type} (ofJson? : Json → Option α) (r : ApiResponse) : Except ApiFault α :=
  if isFailure r.status then .error (.reported (failure r))
  else
    match (Json.parse r.body).bind ofJson? with
    | some a => .ok a
    | none => .error .undecodable

/-- What a response means that should hold the object of a name: only a failure whose reason is
`NotFound` says that there is none. -/
def interpretRead {α : Type} (ofJson? : Json → Option α) (resource name : String)
    (r : ApiResponse) : Except StoreError α :=
  match object ofJson? r with
  | .ok a => .ok a
  | .error (.reported s) =>
    if s.reason = "NotFound" then .error (.notFound resource name) else .error (.api (.reported s))
  | .error fault => .error (.api fault)

/-- What a response to a patch means; it has to hold the patched object. -/
def interpretWrite {α : Type} (ofJson? : Json → Option α) (r : ApiResponse) :
    Except StoreError Unit :=
  match object ofJson? r with
  | .ok _ => .ok ()
  | .error fault => .error (.api fault)

/-! ### Reads -/

/-- The exchange that reads the object of a name at a path. -/
def read {α : Type} (ofJson? : Json → Option α) (resource name path : String) : Exchange α where
  request :=
    match if name = "" then none else target? path with
    | some uri => .ok (.get uri)
    | none => .error (.api .unaddressable)
  interpret := interpretRead ofJson? resource name

/-- Reads a request. -/
def readRequest (key : ObjectKey) : Exchange CertificateRequest :=
  read CertificateRequest.ofJson? CertificateRequest.resource key.name (requestPath key.ns key.name)

/-- Reads an issuer. -/
def readIssuer (key : IssuerKey) : Exchange Issuer :=
  read Issuer.ofJson? key.kind.resource key.name (issuerPath key)

/-- Reads a secret. -/
def readSecret (key : ObjectKey) : Exchange Secret :=
  read Secret.ofJson? Secret.resource key.name (secretPath key)

/-! ### Status writes -/

/-- The name under which fields are written. -/
def fieldManager : String := "origin-ca-issuer"

/-- The patch that replaces a status, given the version of the object when it was read. -/
def statusPatch (status : Option Json) (version : Option String) : Json :=
  .obj ([("status", status.getD .null)]
    ++ Json.member? "metadata" (fun v => .obj [("resourceVersion", .str v)]) version)

/-- The exchange that writes the status of an object at a path. -/
def write {σ τ : Type} (statusToJson : τ → Json) (ofJson? : Json → Option (Object σ τ))
    (path : Except StoreError String) (o : Object σ τ) : Exchange Unit where
  request :=
    match path with
    | .error e => .error e
    | .ok path =>
      match target? (path ++ "/status?&fieldManager=" ++ fieldManager) with
      | some uri =>
        .ok (.patchStatus uri
          (statusPatch (o.status.map statusToJson) o.metadata.resourceVersion))
      | none => .error (.api .unaddressable)
  interpret := interpretWrite ofJson?

/-- The path of an object that must have a namespace. -/
def pathWithin (kind : String) (m : Metadata) (path : String → String) :
    Except StoreError String :=
  match m.ns with
  | some ns => .ok (path ns)
  | none => .error (.missingMetadata kind "namespace")

/-- Writes the status of a request. -/
def writeRequest (r : CertificateRequest) : Exchange Unit :=
  write RequestStatus.toJson CertificateRequest.ofJson?
    (pathWithin CertificateRequest.kind r.metadata fun ns => requestPath ns r.metadata.anyName) r

/-- Writes the status of an issuer. -/
def writeIssuer (kind : IssuerKind) (i : Issuer) : Exchange Unit :=
  let name := i.metadata.anyName
  write IssuerStatus.toJson Issuer.ofJson?
    (match kind with
      | .origin => pathWithin kind.text i.metadata fun ns => issuerPath (.origin ⟨ns, name⟩)
      | .cluster => .ok (issuerPath (.cluster name))) i

/-- The store in diagnostics. -/
def describe : String := "KubeStore \x7b .. \x7d"

end ApiServer
end CertIssuer
