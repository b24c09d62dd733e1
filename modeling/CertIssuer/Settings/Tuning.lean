import CertIssuer.Number.Decimal
import CertIssuer.Number.Literal
import CertIssuer.Text.Blank
import CertIssuer.Time.Span

/-!
Tuning: settings that come from the environment only. A variable that cannot be read counts as
missing.
-/

namespace CertIssuer

/-- The forms of log lines. -/
inductive LogFormat where
  | text
  | json
  deriving DecidableEq

/-- The tuning of the program. -/
structure Tuning where
  backoffMin : UInt64
  backoffMax : UInt64
  watchRestartDelay : UInt64
  /-- How many reconciles of a kind run at once; zero stands for any number. -/
  maxConcurrent : Nat
  logFilter : String
  logFormat : LogFormat
  deriving DecidableEq

namespace Tuning

/-- The tuning when nothing is set. -/
def default : Tuning := ⟨5, 300, 5, 0, "origin_ca_issuer=info", .text⟩

/-- The form of log lines of that name; other names stand for text. -/
def formatOfText (s : String) : LogFormat :=
  if String.ofList ((Text.trim s).toList.map Number.lowerAscii) = "json" then .json else .text

/-- A variable that holds a natural number below `2 ^ width`. -/
def word (environment : String → Option String) (name : String) (width fallback : Nat) : Nat :=
  ((environment name).bind (Number.readWord width)).getD fallback

/-- The environment variables that are read. -/
def variableNames : List String :=
  ["BACKOFF_MIN_SECS", "BACKOFF_MAX_SECS", "WATCH_RESTART_DELAY_SECS",
    "MAX_CONCURRENT_RECONCILIATIONS", "LOG_FILTER", "LOG_FORMAT"]

/-- The tuning that an environment gives. -/
def ofEnvironment (environment : String → Option String) : Tuning where
  backoffMin := (word environment "BACKOFF_MIN_SECS" 64 default.backoffMin.toNat).toUInt64
  backoffMax := (word environment "BACKOFF_MAX_SECS" 64 default.backoffMax.toNat).toUInt64
  watchRestartDelay :=
    (word environment "WATCH_RESTART_DELAY_SECS" 64 default.watchRestartDelay.toNat).toUInt64
  maxConcurrent := word environment "MAX_CONCURRENT_RECONCILIATIONS" 16 default.maxConcurrent
  logFilter := (environment "LOG_FILTER").getD default.logFilter
  logFormat := formatOfText ((environment "LOG_FORMAT").getD "")

/-- How long an interrupted watch rests. -/
def restartDelay (t : Tuning) : Span := .ofSeconds t.watchRestartDelay

end Tuning
end CertIssuer
