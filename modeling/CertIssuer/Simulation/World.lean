import CertIssuer.Controller.Policy
import CertIssuer.Store.Memory

/-!
Worlds: a store in memory, a clock, an authority and a log, in which plans run. Each operation of
the store can be made to fail, in which case it leaves the store alone.
-/

namespace CertIssuer

/-- An authority of state `ω`: how it opens signers for service keys, and how it answers their
calls. -/
structure Authority (σ ω : Type) where
  openSigner : Bytes → ω → Except (List String) σ × ω
  sign : σ → SignRequest → ω → (Except SignError SignResponse × List Log.Event) × ω

/-- The operations of a store. -/
inductive StoreMethod where
  | readRequest
  | readIssuer (kind : IssuerKind)
  | readSecret
  | writeRequest
  | writeIssuer (kind : IssuerKind)
  deriving DecidableEq

/-- A world with an authority of state `ω`. -/
structure World (ω : Type) where
  store : MemoryStore
  /-- The operations that fail, and how. -/
  faults : List (StoreMethod × StoreError)
  now : Instant
  authority : ω
  log : List Log.Event

namespace World

variable {σ ω α : Type}

/-- Makes an operation fail, or no longer. -/
def withFault (w : World ω) (method : StoreMethod) (fault : Option StoreError) : World ω :=
  let others := w.faults.filter fun f => f.1 ≠ method
  { w with
    faults :=
      match fault with
      | some e => (method, e) :: others
      | none => others }

/-- Appends events to the log. -/
def noting (w : World ω) (events : List Log.Event) : World ω := { w with log := w.log ++ events }

/-! ### Operations -/

/-- The answer of an operation, unless it was made to fail. -/
def guarded (w : World ω) (method : StoreMethod) (answer : Except StoreError α) :
    Except StoreError α :=
  match w.faults.lookup method with
  | some e => .error e
  | none => answer

/-- The world after a write. -/
def written (w : World ω) : Except StoreError MemoryStore → Except StoreError Unit × World ω
  | .ok store => (.ok (), { w with store })
  | .error e => (.error e, w)

/-- Reads a request. -/
def readRequest (w : World ω) (key : ObjectKey) : Except StoreError CertificateRequest :=
  w.guarded .readRequest (w.store.readRequest key)

/-- Reads an issuer. -/
def readIssuer (w : World ω) (key : IssuerKey) : Except StoreError Issuer :=
  w.guarded (.readIssuer key.kind) (w.store.readIssuer key)

/-- Reads a secret. -/
def readSecret (w : World ω) (key : ObjectKey) : Except StoreError Secret :=
  w.guarded .readSecret (w.store.readSecret key)

/-- Writes the status of a request. -/
def writeRequest (w : World ω) (r : CertificateRequest) : Except StoreError Unit × World ω :=
  w.written (w.guarded .writeRequest (w.store.writeRequest r))

/-- Writes the status of an issuer. -/
def writeIssuer (w : World ω) (kind : IssuerKind) (i : Issuer) :
    Except StoreError Unit × World ω :=
  w.written (w.guarded (.writeIssuer kind) (w.store.writeIssuer kind i))

/-! ### Plans -/

/-- How a world answers the operations of plans. -/
def handler (a : Authority σ ω) : Plan.Handler σ (World ω) where
  handle
    | .readRequest key, w => (w.readRequest key, w)
    | .readIssuer key, w => (w.readIssuer key, w)
    | .readSecret key, w => (w.readSecret key, w)
    | .writeRequest r, w => w.writeRequest r
    | .writeIssuer kind i, w => w.writeIssuer kind i
    | .now, w => (w.now, w)
    | .openSigner serviceKey, w =>
      let (opened, authority) := a.openSigner serviceKey w.authority
      (opened, { w with authority })
    | .sign signer r, w =>
      let (answer, authority) := a.sign signer r w.authority
      (answer.1, { w with authority }.noting answer.2)
    | .note event, w => ((), w.noting [event])
    | .tally _, w => ((), w)

/-- Runs a plan in a world. -/
def run (a : Authority σ ω) (p : Plan σ α) (w : World ω) : α × World ω := p.run (handler a) w

/-- Reconciles a watched object in a world, with what the controller makes of the result at an
instant. -/
def attend (a : Authority σ ω) (settings : RequestReconcile.Settings) (registry : BackoffRegistry)
    (instant : Instant) (object : ObjectRef) (w : World ω) :
    (Except ReconcileError Unit × Option Controller.Reaction) × World ω :=
  let (result, w) := w.run a (Controller.reconcile settings object)
  let reaction := Controller.onResult registry instant object result
  ((result, reaction),
    match reaction with
    | some r => w.noting r.events
    | none => w)

end World
end CertIssuer
