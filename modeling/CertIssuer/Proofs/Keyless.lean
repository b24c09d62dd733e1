import CertIssuer.Reconcile.Readiness

/-!
Plans without keys: those that neither read a secret nor speak to the authority. All that a
reconcile writes to the log and into a status is written by such plans, so a service key can be in
it only if it is handed to one of them.
-/

namespace CertIssuer

variable {σ α β : Type}

/-- Whether an operation neither reads a secret nor speaks to the authority. -/
def Op.isKeyless : Op σ → Bool
  | .readSecret _ | .openSigner _ | .sign _ _ => false
  | .readRequest _ | .readIssuer _ | .writeRequest _ | .writeIssuer _ _ | .now | .note _
  | .tally _ => true

namespace Plan

/-- The plan has no operation that reads a secret or speaks to the authority. -/
def Keyless : Plan σ α → Prop
  | .done _ => True
  | .ask op next => op.isKeyless = true ∧ ∀ answer, (next answer).Keyless

theorem Keyless.bind {p : Plan σ α} {f : α → Plan σ β} (h : p.Keyless) (next : ∀ x, (f x).Keyless) :
    (p.bind f).Keyless := by
  induction p with
  | done x => exact next x
  | ask op _ ih => exact ⟨h.1, fun answer => ih answer (h.2 answer)⟩

theorem keyless_perform {op : Op σ} (h : op.isKeyless = true) : (perform op).Keyless :=
  ⟨h, fun _ => trivial⟩

theorem keyless_note (event : Log.Event) : (note event : Plan σ Unit).Keyless :=
  keyless_perform rfl

theorem keyless_tally (m : Measurement) : (tally m : Plan σ Unit).Keyless := keyless_perform rfl

end Plan

namespace RequestReconcile

open Plan (keyless_perform keyless_note keyless_tally)

theorem keyless_noteIfAny (event : Option Log.Event) :
    (noteIfAny event : Plan σ Unit).Keyless := by
  cases event with
  | none => trivial
  | some e => exact keyless_note e

variable {r : CertificateRequest}

theorem keyless_record (status : Truth) (reason message : String) :
    (record r status reason message : Plan σ Unit).Keyless := by
  refine (keyless_perform rfl).bind fun now => (keyless_noteIfAny _).bind fun _ => ?_
  refine (keyless_perform rfl).bind fun written => ?_
  cases written with
  | ok _ => trivial
  | error e => exact keyless_note _

theorem keyless_recordAndFail (reason message : String) (e : ReconcileError) :
    (recordAndFail r reason message e : Plan σ _).Keyless :=
  (keyless_record ..).bind fun _ => trivial

theorem keyless_deny : (deny r : Plan σ _).Keyless :=
  (keyless_note _).bind fun _ => (keyless_perform rfl).bind fun _ =>
    (keyless_record ..).bind fun _ => trivial

theorem keyless_refuseKind (kind : String) : (refuseKind r kind : Plan σ _).Keyless :=
  (keyless_note _).bind fun _ => keyless_recordAndFail ..

theorem keyless_awaitIssuer (e : ReconcileError) : (awaitIssuer r e : Plan σ _).Keyless :=
  (keyless_note _).bind fun _ => keyless_recordAndFail ..

theorem keyless_awaitCredential (issuer : ResolvedIssuer) (e : ReconcileError) :
    (awaitCredential r issuer e : Plan σ _).Keyless :=
  (keyless_note _).bind fun _ => keyless_recordAndFail ..

theorem keyless_issue (issuer : ResolvedIssuer) (certificate : Bytes) :
    (issue r issuer certificate : Plan σ _).Keyless :=
  (keyless_record ..).bind fun _ => (keyless_tally _).bind fun _ =>
    (keyless_note _).bind fun _ => trivial

theorem keyless_rejected (e : ProvisionError) : (rejected r e : Plan σ _).Keyless := by
  refine (keyless_tally _).bind fun _ => ?_
  split
  · exact (keyless_note _).bind fun _ => trivial
  · exact (keyless_note _).bind fun _ => keyless_recordAndFail ..

end RequestReconcile

theorem Resolve.keyless_issuer (kind : IssuerKind) (name requestNs clusterNs : String) :
    (issuer kind name requestNs clusterNs : Plan σ _).Keyless := by
  refine (Plan.keyless_perform rfl).bind fun answer => ?_
  cases answer <;> trivial

namespace Readiness

open Plan (keyless_perform keyless_note)

theorem keyless_persist (kind : IssuerKind) (i : Issuer) (found : Except ReconcileError Unit) :
    (persist kind i found : Plan σ _).Keyless := by
  refine (keyless_perform rfl).bind fun written => ?_
  cases found with
  | ok _ =>
    cases written with
    | ok _ => exact (keyless_note _).bind fun _ => trivial
    | error e => trivial
  | error e =>
    cases written with
    | ok _ => trivial
    | error unwritten => exact (keyless_note _).bind fun _ => trivial

theorem keyless_record (kind : IssuerKind) (i : Issuer) (ns : String) (now : Instant)
    (key : Except ReconcileError Bytes) : (record kind i ns now key : Plan σ _).Keyless := by
  cases key with
  | ok _ => exact (RequestReconcile.keyless_noteIfAny _).bind fun _ => keyless_persist ..
  | error e =>
    exact (keyless_note _).bind fun _ => (RequestReconcile.keyless_noteIfAny _).bind fun _ =>
      keyless_persist ..

end Readiness

end CertIssuer
