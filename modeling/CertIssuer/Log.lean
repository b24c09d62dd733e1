/-!
Log events: a level, a message and named values.
-/

namespace CertIssuer.Log

/-- How much an event matters. -/
inductive Level where
  | trace
  | debug
  | info
  | warn
  | error
  deriving DecidableEq

/-- The name of a level. -/
def Level.text : Level → String
  | .trace => "TRACE"
  | .debug => "DEBUG"
  | .info => "INFO"
  | .warn => "WARN"
  | .error => "ERROR"

/-- An event. -/
structure Event where
  level : Level
  message : String
  fields : List (String × String)
  deriving DecidableEq

/-- An event for those who look into the program. -/
def debug (message : String) (fields : List (String × String)) : Event := ⟨.debug, message, fields⟩

/-- An event of normal work. -/
def info (message : String) (fields : List (String × String)) : Event := ⟨.info, message, fields⟩

/-- An event that may need attention. -/
def warn (message : String) (fields : List (String × String)) : Event := ⟨.warn, message, fields⟩

/-- An event that needs attention. -/
def error (message : String) (fields : List (String × String)) : Event := ⟨.error, message, fields⟩

end CertIssuer.Log
