import CertIssuer.Metrics.Registry

/-!
The probe server: the metrics, whether the program is alive, and whether it is ready.
-/

namespace CertIssuer.Probe

/-- A response of the probe server. -/
structure Response where
  status : Nat
  contentType : Option String
  body : String
  deriving DecidableEq

/-- A response that holds nothing but its status. -/
def bare (status : Nat) : Response := ⟨status, none, ""⟩

/-- What the probe server serves. -/
inductive Page where
  | metrics
  | alive
  | ready
  deriving DecidableEq

/-- The page at a path. -/
def page? (path : String) : Option Page :=
  if path = "/metrics" then some .metrics
  else if path = "/healthz" then some .alive
  else if path = "/readyz" then some .ready
  else none

/-- The path in a request target. -/
def pathOf (target : String) : String :=
  String.ofList (target.toList.takeWhile fun c => c ≠ '?' && c ≠ '#')

/-- The lines of a text, each ended. -/
def endedLines (lines : List String) : String := String.join (lines.map (· ++ "\n"))

/-- A page. -/
def render (metrics : MetricsRegistry) (ready : Bool) : Page → Response
  | .metrics => ⟨200, some Metrics.contentType, endedLines metrics.lines⟩
  | .alive => bare 200
  | .ready => bare (if ready then 200 else 503)

/-- The response to a request. -/
def respond (metrics : MetricsRegistry) (ready : Bool) (method target : String) : Response :=
  match page? (pathOf target) with
  | none => bare 404
  | some page =>
    if method = "GET" then render metrics ready page
    else if method = "HEAD" then { render metrics ready page with body := "" }
    else bare 405

end CertIssuer.Probe
