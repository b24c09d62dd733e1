import CertIssuer.Controller.Policy
import CertIssuer.Metrics.Registry
import CertIssuer.Settings.Options
import CertIssuer.Settings.Tuning

/-!
Starting the program: stages in a fixed order, each of which does something for the whole process.
The first stage that fails ends the start, and what the stages before it did stays done, so that a
second start in the same process fails at the first stage.
-/

namespace CertIssuer.Startup

/-- Where a program starts: what its process has done already, and what there is around it. -/
structure Host where
  cryptoInstalled : Bool
  loggingInstalled : Bool
  metrics : MetricsRegistry
  /-- Whether the port of the probe server is in use by others. -/
  portTaken : Bool
  /-- Whether there is a configuration that leads to a cluster. -/
  clusterConfigured : Bool

/-- Why the program does not start. -/
inductive Failure where
  | crypto
  | logging
  | metrics
  | server
  | cluster
  deriving DecidableEq

/-- The wording of a failure. -/
def Failure.message : Failure → String
  | .crypto => "Failed to install rustls crypto provider"
  | .logging =>
    "Failed to install tracing subscriber: a global default trace dispatcher has already been set"
  | .metrics => "Duplicate metrics collector registration attempted"
  | .server => "HTTP server failed to start"
  | .cluster => "Failed to create Kubernetes client"

/-- A program that has started. -/
structure Started where
  settings : RequestReconcile.Settings
  registry : BackoffRegistry
  maxConcurrent : Nat
  restartDelay : Span
  /-- Whether the probe server says that the program is ready. -/
  ready : Bool

/-- The reconciles of a program in diagnostics. -/
def Started.reconcilers (s : Started) : String :=
  s.settings.describe ++ " " ++ Readiness.describe s.settings.clusterNs

/-- A program in diagnostics. -/
def Started.describe (s : Started) : String :=
  "InitializationResult \x7b server_ready: " ++ toString s.ready ++ ", .. \x7d"

/-- The program once it was asked to stop. -/
def Started.stopping (s : Started) : Started := { s with ready := false }

namespace Host

/-- A host whose process has done nothing, without a cluster. -/
def fresh : Host := ⟨false, false, .empty, false, false⟩

/-! ### Stages -/

/-- Installs the cryptography of connections. -/
def installCrypto (p : Host) : Except Failure Host :=
  if p.cryptoInstalled then .error .crypto else .ok { p with cryptoInstalled := true }

/-- Installs the log. -/
def installLogging (p : Host) : Except Failure Host :=
  if p.loggingInstalled then .error .logging else .ok { p with loggingInstalled := true }

/-- Shows the metrics. -/
def registerMetrics (p : Host) : Except Failure Host :=
  match p.metrics.register? with
  | some metrics => .ok { p with metrics }
  | none => .error .metrics

/-- Starts the probe server. -/
def startServer (p : Host) : Except Failure Host :=
  if p.portTaken then .error .server else .ok p

/-- Connects to the cluster. -/
def connect (p : Host) : Except Failure Host :=
  if p.clusterConfigured then .ok p else .error .cluster

/-- The stages in their order. -/
def stages : List (Host → Except Failure Host) :=
  [installCrypto, installLogging, registerMetrics, startServer, connect]

/-- Runs stages up to the first that fails: the host after them, and the failure if any. -/
def runStages (p : Host) :
    List (Host → Except Failure Host) → Option Failure × Host
  | [] => (none, p)
  | stage :: rest =>
    match stage p with
    | .ok p => runStages p rest
    | .error failure => (some failure, p)

end Host

/-- The program that options and tuning make. -/
def assemble (options : Options) (tuning : Tuning) : Started where
  settings := ⟨options.clusterNs, options.checkApproval⟩
  registry := .new tuning.backoffMin tuning.backoffMax
  maxConcurrent := tuning.maxConcurrent
  restartDelay := tuning.restartDelay
  ready := true

/-- Starts the program on a host. -/
def start (options : Options) (tuning : Tuning) (p : Host) :
    Except Failure Started × Host :=
  match p.runStages Host.stages with
  | (none, p) => (.ok (assemble options tuning), p)
  | (some failure, p) => (.error failure, p)

end CertIssuer.Startup
