import CertIssuer.Controller.Backoff
import CertIssuer.Reconcile.Readiness

/-!
The requeue policy: what becomes of an object after each of its reconciles. A retryable error comes
back after the next of the object's delays; success, a terminal error and the disappearance of the
object start its delays over.
-/

namespace CertIssuer

/-! ### Watched objects -/

/-- The kinds of objects that are watched. -/
inductive WatchedKind where
  | request
  | issuer (kind : IssuerKind)
  deriving DecidableEq

namespace WatchedKind

/-- The name of a kind. -/
def text : WatchedKind → String
  | .request => CertificateRequest.kind
  | .issuer kind => kind.text

/-- The kind of that name. -/
def ofText? (s : String) : Option WatchedKind :=
  if s = CertificateRequest.kind then some .request else (IssuerKind.ofText? s).map .issuer

/-- The group of a kind. -/
def group : WatchedKind → String
  | .request => "cert-manager.io"
  | .issuer _ => issuerGroup

end WatchedKind

/-- What names a watched object. -/
structure ObjectRef where
  kind : WatchedKind
  ns : Option String
  name : String
  deriving DecidableEq

namespace ObjectRef

/-- The key of the object's delays. -/
def backoffKey (r : ObjectRef) : String := objectPath r.kind.text r.ns r.name

/-- The object in the log. -/
def describe (r : ObjectRef) : String :=
  r.kind.text ++ ".v1." ++ r.kind.group ++ "/" ++ r.name
    ++ (match r.ns with
      | some ns => "." ++ ns
      | none => "")

end ObjectRef

/-! ### Actions -/

/-- When an object is reconciled next. -/
inductive Action where
  /-- When it changes. -/
  | awaitChange
  /-- After a number of seconds, or when it changes before that. -/
  | requeue (seconds : UInt64)
  deriving DecidableEq

namespace Action

/-- An action in the log. -/
def describe : Action → String
  | .awaitChange => "Action \x7b requeue_after: None \x7d"
  | .requeue seconds => "Action \x7b requeue_after: Some(" ++ toString seconds.toNat ++ "s) \x7d"

end Action

namespace Controller

/-- What follows from a reconcile: the next action, the delays from now on, and what is logged. -/
structure Reaction where
  action : Action
  registry : BackoffRegistry
  events : List Log.Event

/-! ### Reactions to reconciles -/

/-- The most seconds whose milliseconds are a signed number of 64 bits. -/
def secondsHorizon : UInt64 := 9223372036854775

/-- How many milliseconds after an error its next attempt is announced for. -/
def announced (seconds : UInt64) : Int :=
  if seconds ≤ secondsHorizon then seconds.toNat * 1000 else 0

/-- The event that another attempt was scheduled. -/
def retrying (key : String) (seconds : UInt64) (next : Instant) : Log.Event :=
  Log.info ("Retrying " ++ key ++ " in " ++ toString seconds.toNat ++ "s (next attempt at "
    ++ next.localText ++ "+00:00)") []

/-- The event that no other attempt was scheduled. -/
def givingUp (key : String) (e : ReconcileError) : Log.Event :=
  Log.warn ("Not retrying " ++ key ++ " until it changes: " ++ e.message) []

/-- The reaction to a failed reconcile; none if the next attempt were past the last date. -/
def onError (registry : BackoffRegistry) (now : Instant) (object : ObjectRef) (e : ReconcileError) :
    Option Reaction :=
  let key := object.backoffKey
  match e.errorClass with
  | .terminal => some ⟨.awaitChange, registry.reset key, [givingUp key e]⟩
  | .retryable =>
    let (seconds, later) := registry.next key
    (now.add? (announced seconds)).map fun next =>
      ⟨.requeue seconds, later, [retrying key seconds next]⟩

/-- The reaction to a reconcile. -/
def onResult (registry : BackoffRegistry) (now : Instant) (object : ObjectRef) :
    Except ReconcileError Unit → Option Reaction
  | .ok () => some ⟨.awaitChange, registry.reset object.backoffKey, []⟩
  | .error e => onError registry now object e

/-- The reconcile of a watched object, which is read again by its name. -/
def reconcile {σ : Type} (settings : RequestReconcile.Settings) (object : ObjectRef) :
    Plan σ (Except ReconcileError Unit) :=
  let ns := object.ns.getD ""
  match object.kind with
  | .request => RequestReconcile.reconcile settings ns object.name
  | .issuer kind => Readiness.reconcile settings.clusterNs (.referred kind ns object.name)

/-! ### Reactions to the stream of a watch -/

/-- What the stream of a watch reports. -/
inductive StreamItem where
  | reconciled (object : ObjectRef) (action : Action)
  | failed (object : ObjectRef) (e : ReconcileError)
  /-- The object disappeared while it waited for its next attempt. -/
  | vanished (object : ObjectRef)
  /-- The watch was interrupted. -/
  | interrupted (text : String)
  deriving DecidableEq

/-- The wording of a watch that lists objects without a version. -/
def noVersionText : String :=
  "no metadata.resourceVersion in watch result (does resource support watch?)"

/-- The event that a stream item is logged as. -/
def StreamItem.event : StreamItem → Log.Event
  | .reconciled object action =>
    Log.debug "watch.event.reconciled"
      [("object", object.describe), ("action", action.describe)]
  | .failed object e =>
    Log.debug "watch.event.reconciliation_failed"
      [("object", object.describe), ("error", e.message)]
  | .vanished object => Log.debug "object no longer exists" [("object", object.describe)]
  | .interrupted text =>
    Log.warn "watch stream error, the watcher will retry" [("error", text)]

/-- The delays after a stream item. -/
def onItem (registry : BackoffRegistry) : StreamItem → BackoffRegistry
  | .vanished object => registry.reset object.backoffKey
  | _ => registry

end Controller
end CertIssuer
