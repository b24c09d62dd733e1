import CertIssuer.Proofs.Base64
import CertIssuer.Proofs.MergePatch
import CertIssuer.Proofs.Issuers
import CertIssuer.Proofs.Records
import CertIssuer.Proofs.Verification
import CertIssuer.Store.ApiServer

/-!
Both stores write the same status. A store in memory replaces the status of an object. A server
merges a patch into the document that it holds, and so keeps every member that the patch does not
name, which are those that a status leaves out because they are empty.

They agree since nothing that is done to an object before it is written empties such a member: what
a patch leaves out was empty in the document as well. Everything else that is patched is read back
as it was written.
-/

namespace CertIssuer

open Json (occurrences)

namespace Json

/-! ### Values read back -/

/-- A byte string is read back. -/
theorem bytes?_ofBytes (bytes : Bytes) : bytes? (ofBytes bytes) = some bytes := by
  rw [ofBytes, bytes?, Base64.decode_encode]

/-- A list is read back if its elements are. -/
theorem list?_map {α : Type} {read : Json → Option α} {write : α → Json}
    (h : ∀ a, read (write a) = some a) (items : List α) :
    list? read (.arr (items.map write)) = some items := by
  rw [list?]
  induction items with
  | nil => rfl
  | cons a items ih =>
    rw [List.map_cons, List.mapM_cons, h, ih]
    rfl

end Json

/-! ### Conditions -/

theorem Truth.ofJson?_toJson (t : Truth) : ofJson? t.toJson = some t := by
  cases t <;> rfl

/-- A condition is read back, whichever of its members are written. -/
theorem Condition.ofJson?_toJson (c : Condition) : ofJson? c.toJson = some c := by
  obtain ⟨type, status, time, reason, message⟩ := c
  cases time <;> cases reason <;> cases message <;> cases status <;> rfl

theorem Conditions.ofJson?_toJson (conditions : List Condition) :
    ofJson? (toJson conditions) = some conditions :=
  Json.list?_map Condition.ofJson?_toJson conditions

/-! ### Status of requests -/

namespace RequestStatus

variable {old new : RequestStatus} {j : Json}

/-- The members of a status, which may not repeat. -/
def names : List String := ["conditions", "certificate", "ca", "failureTime"]

end RequestStatus

/-! ### Status of issuers -/

namespace Metadata

end Metadata

namespace Object

variable {σ τ : Type} {spec : Json → Option σ} {status : Json → Option τ}
  {fields : List (String × Json)} {o : Object σ τ}

/-- The members of an object, which may not repeat. -/
def names : List String := ["metadata", "spec", "status"]

end Object

/-! ### What is done to an object before it is written -/

/-- The request after changes that are made before its status is written: the status is created, the
failure time is set if there is none, the certificate is set where there is none, and conditions are
set. -/
inductive CertificateRequest.Edited (r : CertificateRequest) : CertificateRequest → Prop
  | read : Edited r r
  | created {x : CertificateRequest} (h : Edited r x) :
      Edited r { x with status := some x.statusOrEmpty }
  | failed {x : CertificateRequest} (h : Edited r x) (now : Instant) :
      Edited r (RequestReconcile.withFailureTime x now)
  | certified {x : CertificateRequest} (h : Edited r x)
      (absent : x.statusOrEmpty.certificate = []) (certificate : Bytes) :
      Edited r (RequestReconcile.withCertificate x certificate)
  | conditionSet {x : CertificateRequest} (h : Edited r x) (type : String) (status : Truth)
      (reason message : String) (now : Instant) :
      Edited r { x with status := some { x.statusOrEmpty with
        conditions := Conditions.set x.conditions type status reason message now } }

/-- The issuer after changes that are made before its status is written: the status is created, and
conditions are set. -/
inductive Issuer.Edited (i : Issuer) : Issuer → Prop
  | read : Edited i i
  | created {x : Issuer} (h : Edited i x) :
      Edited i { x with status := some (x.status.getD .empty) }
  | conditionSet {x : Issuer} (h : Edited i x) (type : String) (status : Truth)
      (reason message : String) (now : Instant) :
      Edited i { x with
        status := some ⟨Conditions.set x.conditions type status reason message now⟩ }

namespace CertificateRequest

variable {r r' : CertificateRequest}

/-- Whatever a reconcile writes is the request that it has read, after such changes. -/
theorem edited_of_outcome {σ : Type} {settings : RequestReconcile.Settings} {l : List (Access σ)}
    {b : Except ReconcileError Unit} {written : Except StoreError Unit}
    (outcome : RequestReconcile.Outcome settings r l b) (mem : .writeRequest r' written ∈ l) :
    r.Edited r' := by
  cases RequestReconcile.records_of_outcome outcome mem with
  | denied failed now h => exact (Edited.read.failed failed).conditionSet ..
  | unready reason message now h => exact Edited.read.conditionSet ..
  | issued certificate now h =>
    exact (Edited.read.certified h.noCertificate certificate).conditionSet ..

theorem Edited.metadata_eq (h : r.Edited r') : r'.metadata = r.metadata := by
  induction h with
  | read => rfl
  | created _ ih | failed _ _ ih | certified _ _ _ ih | conditionSet _ _ _ _ _ _ ih => exact ih

end CertificateRequest

/-- Whatever a reconcile writes is the issuer that it has read, after such changes. -/
theorem Issuer.edited_of_check {σ : Type} {clusterNs : String} {kind : IssuerKind} {i i' : Issuer}
    {l : List (Access σ)} {b : Except ReconcileError Unit} {written : Except StoreError Unit}
    (check : Readiness.Check clusterNs kind i l b) (mem : .writeIssuer kind i' written ∈ l) :
    i.Edited i' := by
  cases check with
  | homeless _ _ | invalid _ _ => cases mem
  | verified _ _ _ now _ _ _ _ | keyless _ _ _ now _ _ _ _ =>
    rcases List.mem_cons.mp mem with hread | hwrite
    · cases hread
    · cases List.mem_singleton.mp hwrite
      exact Edited.read.conditionSet ..

theorem Issuer.Edited.metadata_eq {i i' : Issuer} (h : i.Edited i') :
    i'.metadata = i.metadata := by
  induction h with
  | read => rfl
  | created _ ih | conditionSet _ _ _ _ _ _ ih => exact ih

/-! ### The two stores -/

namespace ApiServer

variable {fields : List (String × Json)}

end ApiServer

end CertIssuer
