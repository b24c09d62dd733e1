import CertIssuer.Metrics.Exposition
import CertIssuer.Reconcile.Plan

/-!
The metrics of the program. They count from the start, and are shown from the time on at which they
are registered.
-/

namespace CertIssuer

open Number (Binary)

/-- Values by the value of one label, in the order of the labels. -/
abbrev Labelled (α : Type) := List (String × α)

namespace Labelled

/-- Changes the value of a label, which starts from `first`. -/
def change {α : Type} (first : α) (f : α → α) (label : String) : Labelled α → Labelled α
  | [] => [(label, f first)]
  | e :: rest =>
    if e.1 = label then (label, f e.2) :: rest
    else if label < e.1 then (label, f first) :: e :: rest
    else e :: change first f label rest

/-- Counts one more for a label. -/
def count : String → Labelled Nat → Labelled Nat := change 0 (· + 1)

/-- The entries under a label of that name. -/
def named {α : Type} (name : String) (entries : Labelled α) : List (List Metrics.Label × α) :=
  entries.map fun e => ([(name, e.1)], e.2)

end Labelled

/-- The metrics. -/
structure MetricsRegistry where
  registered : Bool
  reconciliations : Labelled Nat
  reconciliationErrors : Labelled Nat
  reconciliationDurations : Labelled Histogram
  issued : Labelled Nat
  signErrors : Labelled Nat
  signDuration : Histogram

namespace MetricsRegistry

/-- The bounds of the durations of reconciles, in hundredths of a second. -/
def reconciliationBounds : List Nat := [5, 10, 50, 100, 200, 500, 1000, 3000]

/-- The bounds of the durations of signing calls, in hundredths of a second. -/
def signBounds : List Nat := [10, 50, 100, 200, 500, 1000]

/-- Metrics before anything happened. -/
def empty : MetricsRegistry := ⟨false, [], [], [], [], [], .ofHundredths signBounds⟩

/-- Shows the metrics from now on; none if they are shown already. -/
def register? (r : MetricsRegistry) : Option MetricsRegistry :=
  if r.registered then none else some { r with registered := true }

/-- Counts a measurement; what was timed took `seconds`. -/
def record (r : MetricsRegistry) (seconds : Binary) : Measurement → MetricsRegistry
  | .started kind => { r with reconciliations := r.reconciliations.count kind }
  | .failed kind => { r with reconciliationErrors := r.reconciliationErrors.count kind }
  | .issued type => { r with issued := r.issued.count type }
  | .signFailed errorClass => { r with signErrors := r.signErrors.count errorClass }
  | .finished kind =>
    { r with
      reconciliationDurations :=
        r.reconciliationDurations.change (.ofHundredths reconciliationBounds)
          (fun h => h.observe seconds) kind }

/-- Counts a signing call that was answered after `seconds`. -/
def observeSign (r : MetricsRegistry) (seconds : Binary) : MetricsRegistry :=
  { r with signDuration := r.signDuration.observe seconds }

/-- The families in the order of their names. -/
def families (r : MetricsRegistry) : List Metrics.Family :=
  [⟨"origin_ca_issuer_certificates_issued_total",
      "Total number of certificates issued by the Origin CA",
      .counters (r.issued.named "request_type")⟩,
    ⟨"origin_ca_issuer_reconciliation_duration_seconds", "Duration of reconciliation in seconds",
      .histograms (r.reconciliationDurations.named "kind")⟩,
    ⟨"origin_ca_issuer_reconciliation_errors_total",
      "Total number of reconciliation errors by resource kind",
      .counters (r.reconciliationErrors.named "kind")⟩,
    ⟨"origin_ca_issuer_reconciliations_total", "Total number of reconciliations by resource kind",
      .counters (r.reconciliations.named "kind")⟩,
    ⟨"origin_ca_issuer_sign_duration_seconds",
      "Duration of Origin CA API signing calls in seconds", .histograms [([], r.signDuration)]⟩,
    ⟨"origin_ca_issuer_sign_errors_total", "Total number of failed signing calls by error class",
      .counters (r.signErrors.named "class")⟩]

/-- The lines that the metrics are shown as. -/
def lines (r : MetricsRegistry) : List String :=
  if r.registered then Metrics.exposition r.families else []

end MetricsRegistry
end CertIssuer
