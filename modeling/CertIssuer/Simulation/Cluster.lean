import CertIssuer.Authority.Endpoint
import CertIssuer.Controller.Policy
import CertIssuer.Json.MergePatch
import CertIssuer.Metrics.Registry
import CertIssuer.Store.ApiServer

/-!
Clusters: an API server that holds objects by their paths, and in which plans run through the
exchanges of `ApiServer`. The server keeps the requests it received.
-/

namespace CertIssuer

/-- A cluster. -/
structure Cluster where
  /-- The objects by their paths. -/
  objects : List (String × Json)
  /-- Responses that take the place of reading the object at a path. -/
  overrides : List (String × ApiResponse)
  /-- The status code that patches are answered with; only with 200 they are carried out. -/
  patchStatus : Nat
  /-- The requests received so far. -/
  received : List ApiRequest
  now : Instant
  /-- The URL under which the authority is called. -/
  authorityUrl : String
  authority : Endpoint
  metrics : MetricsRegistry

namespace Cluster

/-! ### The API server -/

/-- The path in a request target, which is that of the object also where the status is written. -/
def objectPathOf (uri : String) : String :=
  let path := uri.toList.takeWhile (· ≠ '?')
  let suffix := "/status".toList
  if suffix.isSuffixOf path then String.ofList (path.take (path.length - suffix.length))
  else String.ofList path

/-- A response that reports a failure. -/
def failure (code : Nat) (reason message : String) : ApiResponse :=
  ⟨code, (Json.obj [("apiVersion", .str "v1"), ("code", .int code), ("kind", .str "Status"),
    ("message", .str message), ("metadata", .obj []), ("reason", .str reason),
    ("status", .str "Failure")]).print⟩

/-- The response to reading what stands at a path. -/
def read (c : Cluster) (path : String) : ApiResponse :=
  match c.overrides.lookup path, c.objects.lookup path with
  | some response, _ => response
  | none, some object => ⟨200, object.print⟩
  | none, none => failure 404 "NotFound" "not found"

/-- An object with another status. -/
def withStatus (object patch : Json) : Json :=
  .obj (Json.withMember "status" ((patch.get? "status").getD .null) object.members)

/-- The response to a patch of the status of what stands at a path, and the objects after it. -/
def patch (c : Cluster) (path : String) (body : Json) : ApiResponse × List (String × Json) :=
  if c.patchStatus = 200 then
    match c.objects.lookup path with
    | some object =>
      let patched := withStatus object body
      (⟨200, patched.print⟩, c.objects.map fun e => if e.1 = path then (path, patched) else e)
    | none => (failure 404 "NotFound" "not found", c.objects)
  else (failure c.patchStatus "Conflict" "the object has been modified", c.objects)

/-- Serves a request. -/
def serve (c : Cluster) (request : ApiRequest) : ApiResponse × Cluster :=
  let c := { c with received := c.received ++ [request] }
  match request with
  | .get uri => (c.read (objectPathOf uri), c)
  | .patchStatus uri body =>
    let (response, objects) := c.patch (objectPathOf uri) body
    (response, { c with objects })

/-- Carries out an exchange. -/
def exchange {α : Type} (c : Cluster) (e : Exchange α) : Except StoreError α × Cluster :=
  match e.request with
  | .error fault => (.error fault, c)
  | .ok request =>
    let (response, c) := c.serve request
    (e.interpret response, c)

/-! ### Plans -/

/-- Calls the authority. -/
def sign (c : Cluster) (client : Client) (r : SignRequest) :
    Except SignError SignResponse × Cluster :=
  let (called, authority) := c.authority.call client r
  let c := { c with authority }
  (called.1,
    if Endpoint.isAnswered called.1 then { c with metrics := c.metrics.observeSign .zero } else c)

/-- How a cluster answers the operations of plans. -/
def handler : Plan.Handler Client Cluster where
  handle
    | .readRequest key, c => c.exchange (ApiServer.readRequest key)
    | .readIssuer key, c => c.exchange (ApiServer.readIssuer key)
    | .readSecret key, c => c.exchange (ApiServer.readSecret key)
    | .writeRequest r, c => c.exchange (ApiServer.writeRequest r)
    | .writeIssuer kind i, c => c.exchange (ApiServer.writeIssuer kind i)
    | .now, c => (c.now, c)
    | .openSigner serviceKey, c =>
      (match Client.new c.authorityUrl serviceKey with
        | .ok client => .ok client
        | .error fault => .error fault.chain, c)
    | .sign client r, c => c.sign client r
    | .note _, c => ((), c)
    | .tally m, c => ((), { c with metrics := c.metrics.record .zero m })

/-! ### Listings -/

/-- The text of a member of an object's metadata. -/
def metadataText? (object : Json) (name : String) : Option String :=
  ((object.get? "metadata").bind fun m => m.get? name).bind Json.text?

/-- The kind of an object. -/
def kindOf (object : Json) : String := ((object.get? "kind").bind Json.text?).getD ""

/-- The path under which an object is kept. -/
def pathOf (object : Json) : String :=
  let ns := (metadataText? object "namespace").getD ""
  let name := (metadataText? object "name").getD ""
  match WatchedKind.ofText? (kindOf object) with
  | some .request => ApiServer.requestPath ns name
  | some (.issuer kind) => ApiServer.issuerPath (.referred kind ns name)
  | none => ApiServer.secretPath ⟨ns, name⟩

/-- A watched object in a listing. -/
def refOf? (object : Json) : Option ObjectRef :=
  (WatchedKind.ofText? (kindOf object)).map fun kind =>
    ⟨kind, metadataText? object "namespace", (metadataText? object "name").getD ""⟩

/-- The watched objects of a cluster. -/
def watched (c : Cluster) : List ObjectRef := c.objects.filterMap fun e => refOf? e.2

/-- The cluster after every watched object was reconciled once. -/
def reconcileAll (settings : RequestReconcile.Settings) (c : Cluster) : Cluster :=
  c.watched.foldl (fun c object => ((Controller.reconcile settings object).run handler c).2) c

end Cluster
end CertIssuer
