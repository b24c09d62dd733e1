import CertIssuer.Authority.Signing
import CertIssuer.Log
import CertIssuer.Store.Error

/-!
Plans: what a reconcile does to the world, one operation after the other. A plan is data, so one and
the same reconcile can be run on a store in memory or on an API server, and several of them can be
interleaved operation by operation.
-/

namespace CertIssuer

/-- What is counted and timed. -/
inductive Measurement where
  | started (kind : String)
  | finished (kind : String)
  | failed (kind : String)
  | issued (requestType : String)
  | signFailed (errorClass : String)
  deriving DecidableEq

/-- An operation on the world, where `σ` is the type of signers. -/
inductive Op (σ : Type) where
  | readRequest (key : ObjectKey)
  | readIssuer (key : IssuerKey)
  | readSecret (key : ObjectKey)
  | writeRequest (request : CertificateRequest)
  | writeIssuer (kind : IssuerKind) (issuer : Issuer)
  | now
  | openSigner (serviceKey : Bytes)
  | sign (signer : σ) (request : SignRequest)
  | note (event : Log.Event)
  | tally (measurement : Measurement)

/-- The type of the answer to an operation. -/
abbrev Op.Answer {σ : Type} : Op σ → Type
  | .readRequest _ => Except StoreError CertificateRequest
  | .readIssuer _ => Except StoreError Issuer
  | .readSecret _ => Except StoreError Secret
  | .writeRequest _ => Except StoreError Unit
  | .writeIssuer _ _ => Except StoreError Unit
  | .now => Instant
  | .openSigner _ => Except (List String) σ
  | .sign _ _ => Except SignError SignResponse
  | .note _ => Unit
  | .tally _ => Unit

/-- A plan that ends with a value. -/
inductive Plan (σ α : Type) where
  | done (a : α)
  | ask (op : Op σ) (next : op.Answer → Plan σ α)

namespace Plan

variable {σ α β : Type}

/-- One plan, and then another that depends on its value. -/
def bind : Plan σ α → (α → Plan σ β) → Plan σ β
  | .done a, f => f a
  | .ask op next, f => .ask op fun answer => (next answer).bind f

instance : Monad (Plan σ) where
  pure := .done
  bind := .bind

/-- The plan of a single operation. -/
def perform (op : Op σ) : Plan σ op.Answer := .ask op .done

/-- Writes an event to the log. -/
def note (event : Log.Event) : Plan σ Unit := perform (.note event)

/-- Counts a measurement. -/
def tally (m : Measurement) : Plan σ Unit := perform (.tally m)

/-- Fails with an error. -/
def fail {ε : Type} (e : ε) : Plan σ (Except ε α) := .done (.error e)

/-! ### Running -/

/-- How a world of type `ω` answers operations. -/
structure Handler (σ ω : Type) where
  handle : (op : Op σ) → ω → op.Answer × ω

/-- Runs a plan on a world. -/
def run {ω : Type} (h : Handler σ ω) : Plan σ α → ω → α × ω
  | .done a, w => (a, w)
  | .ask op next, w =>
    let answered := h.handle op w
    (next answered.1).run h answered.2

/-- A bound plan runs its parts one after the other. -/
theorem run_bind {ω : Type} (h : Handler σ ω) (p : Plan σ α) (f : α → Plan σ β) (w : ω) :
    (p.bind f).run h w = (f (p.run h w).1).run h (p.run h w).2 := by
  induction p generalizing w with
  | done a => rfl
  | ask op next ih => exact ih _ _

end Plan
end CertIssuer
