import CertIssuer.Number.Literal
import CertIssuer.Number.Shortest
import CertIssuer.Text.Blank

/-!
The options of the program, how their values are read, and which values are valid together.
-/

namespace CertIssuer

open Number (Binary binary32)

/-- The options that set something. -/
inductive OptionName where
  | kubeApiQps
  | kubeApiBurst
  | clusterNs
  | disableApprovedCheck
  | metricsPort
  | apiEndpoint
  deriving DecidableEq

/-- The options of the program. -/
structure Options where
  /-- How many requests per second go to the API server. -/
  kubeApiQps : Binary
  /-- How many requests may go to the API server at once. -/
  kubeApiBurst : Int
  /-- The namespace of the service keys of cluster issuers. -/
  clusterNs : String
  /-- Whether requests are signed before they are approved. -/
  disableApprovedCheck : Bool
  /-- The port of the probe server. -/
  metricsPort : Nat
  /-- Where the API of the authority is. -/
  apiEndpoint : String
  deriving DecidableEq

namespace OptionName

/-- The options in the order in which their variables are read. -/
def all : List OptionName :=
  [.kubeApiQps, .kubeApiBurst, .clusterNs, .disableApprovedCheck, .metricsPort, .apiEndpoint]

/-- The name of an option on the command line. -/
def text : OptionName → String
  | .kubeApiQps => "kube-api-qps"
  | .kubeApiBurst => "kube-api-burst"
  | .clusterNs => "cluster-resource-namespace"
  | .disableApprovedCheck => "disable-approved-check"
  | .metricsPort => "metrics-port"
  | .apiEndpoint => "api-endpoint"

/-- The option of that name. -/
def ofText? (s : String) : Option OptionName := all.find? fun o => o.text = s

/-- The environment variable that stands in for an option. -/
def environmentName : OptionName → String
  | .kubeApiQps => "KUBE_API_QPS"
  | .kubeApiBurst => "KUBE_API_BURST"
  | .clusterNs => "CLUSTER_RESOURCE_NAMESPACE"
  | .disableApprovedCheck => "DISABLE_APPROVED_CHECK"
  | .metricsPort => "METRICS_PORT"
  | .apiEndpoint => "CLOUDFLARE_API_ENDPOINT"

/-- Whether a value follows an option on the command line. -/
def takesValue : OptionName → Bool
  | .disableApprovedCheck => false
  | _ => true

/-- Whether the value of an option may be a negative number. -/
def takesNegative : OptionName → Bool
  | .kubeApiQps | .kubeApiBurst => true
  | _ => false

/-- A character in the placeholder of a value. -/
def placeholderChar (c : Char) : Char := if c = '-' then '_' else c.toUpper

/-- An option in messages, with a placeholder for its value. -/
def display (o : OptionName) : String :=
  if o.takesValue then
    "--" ++ o.text ++ " <" ++ String.ofList (o.text.toList.map placeholderChar) ++ ">"
  else "--" ++ o.text

end OptionName

namespace Options

/-- The options when nothing is set. -/
def default : Options where
  kubeApiQps := .ofNat binary32 20
  kubeApiBurst := 50
  clusterNs := ""
  disableApprovedCheck := false
  metricsPort := 8080
  apiEndpoint := "https://api.cloudflare.com/client/v4"

/-- Whether requests wait for their approval. -/
def checkApproval (o : Options) : Bool := !o.disableApprovedCheck

/-! ### Values -/

/-- Why a value is refused. -/
inductive ValueFault where
  /-- Not of the form that the option takes; the text says why. -/
  | malformed (reason : String)
  /-- Neither of the two texts that the option takes. -/
  | notOffered
  deriving DecidableEq

/-- A whole number of 64 bits within bounds. -/
def readRanged (low high : Int) (s : String) : Except ValueFault Int :=
  match Number.readInteger Int64.minValue.toInt Int64.maxValue.toInt s with
  | .error fault => .error (.malformed fault.message)
  | .ok n =>
    if low ≤ n ∧ n ≤ high then .ok n
    else .error (.malformed s!"{n} is not in {low}..={high}")

/-- A number of 32 bits. -/
def readRate (s : String) : Except ValueFault Binary :=
  match Number.readBinary binary32 s with
  | .ok x => .ok x
  | .error fault => .error (.malformed fault.message)

/-- A truth value. -/
def readSwitch (s : String) : Except ValueFault Bool :=
  if s = "true" then .ok true else if s = "false" then .ok false else .error .notOffered

/-- The options with one of them set to a value. -/
def set (o : Options) (name : OptionName) (value : String) : Except ValueFault Options :=
  match name with
  | .kubeApiQps => (readRate value).map fun x => { o with kubeApiQps := x }
  | .kubeApiBurst =>
    (readRanged Int32.minValue.toInt Int32.maxValue.toInt value).map fun n =>
      { o with kubeApiBurst := n }
  | .clusterNs => .ok { o with clusterNs := value }
  | .disableApprovedCheck => (readSwitch value).map fun b => { o with disableApprovedCheck := b }
  | .metricsPort => (readRanged 0 65535 value).map fun n => { o with metricsPort := n.toNat }
  | .apiEndpoint => .ok { o with apiEndpoint := value }

/-! ### Validity -/

/-- Why options are not valid. -/
inductive Invalid where
  | kubeApiBurst (burst : Int)
  | kubeApiQps (qps : Binary)
  | clusterNs
  deriving DecidableEq

/-- The wording of what is not valid. -/
def Invalid.message : Invalid → String
  | .kubeApiBurst burst =>
    "invalid value for kube-api-burst: " ++ toString burst ++ " must be higher than 0"
  | .kubeApiQps qps =>
    "invalid value for kube-api-qps: " ++ qps.positional binary32 ++ " must be higher than 0"
  | .clusterNs => "invalid value for cluster-resource-namespace: must be set"

/-- The first of the options that is not valid. -/
def validate (o : Options) : Except Invalid Unit :=
  if o.kubeApiBurst ≤ 0 then .error (.kubeApiBurst o.kubeApiBurst)
  else if o.kubeApiQps = .nan || o.kubeApiQps.le .zero then .error (.kubeApiQps o.kubeApiQps)
  else if Text.isBlankText o.clusterNs then .error .clusterNs
  else .ok ()

end Options
end CertIssuer
