import CertIssuer.Json.Record
import CertIssuer.Time.Instant

/-!
Conditions: typed facts in the status of a resource. A type occurs at most once as long as the
conditions are changed only by `Conditions.set`, and the time of a condition is the time at which
its status last changed.
-/

namespace CertIssuer

/-- The status of a condition. -/
inductive Truth where
  | yes
  | no
  | unknown
  deriving DecidableEq

namespace Truth

/-- The text of a status. -/
def text : Truth → String
  | .yes => "True"
  | .no => "False"
  | .unknown => "Unknown"

/-- The status of that text. -/
def ofText? (s : String) : Option Truth :=
  if s = "True" then some .yes
  else if s = "False" then some .no
  else if s = "Unknown" then some .unknown
  else none

/-- A status in JSON. -/
def toJson (t : Truth) : Json := .str t.text

/-- A status read from JSON. -/
def ofJson? : Json → Option Truth := Json.choice? ofText?

end Truth

/-- A condition of a resource. -/
structure Condition where
  type : String
  status : Truth
  lastTransitionTime : Option String
  reason : Option String
  message : Option String
  deriving DecidableEq

namespace Condition

/-- The type that says whether a resource has reached its goal. -/
def ready : String := "Ready"

/-- The type that says a request was approved. -/
def approved : String := "Approved"

/-- The type that says a request was denied. -/
def denied : String := "Denied"

/-- A condition in JSON. -/
def toJson (c : Condition) : Json :=
  .obj ([("type", .str c.type), ("status", c.status.toJson)]
    ++ Json.member? "lastTransitionTime" .str c.lastTransitionTime
    ++ Json.member? "reason" .str c.reason
    ++ Json.member? "message" .str c.message)

/-- A condition read from JSON. -/
def ofJson? (j : Json) : Option Condition := do
  let m ← j.record? ["type", "status", "lastTransitionTime", "reason", "message"]
  let type ← Json.required Json.text? (m "type")
  let status ← Json.required Truth.ofJson? (m "status")
  let time ← Json.optional Json.text? (m "lastTransitionTime")
  let reason ← Json.optional Json.text? (m "reason")
  let message ← Json.optional Json.text? (m "message")
  some ⟨type, status, time, reason, message⟩

end Condition

/-! ### Reasons that controllers write -/

namespace Reason

/-- The certificate was issued. -/
def issued : String := "Issued"

/-- The request can never be fulfilled. -/
def failed : String := "Failed"

/-- The request was denied. -/
def denied : String := "Denied"

/-- The request waits for its issuer. -/
def pending : String := "Pending"

/-- Something the resource names does not exist. -/
def notFound : String := "NotFound"

/-- Something the resource names could not be read. -/
def error : String := "Error"

/-- The issuer can sign. -/
def verified : String := "Verified"

end Reason

namespace Conditions

/-- The status of the first condition of a type. -/
def status? (conditions : List Condition) (type : String) : Option Truth :=
  (conditions.find? fun c => c.type = type).map Condition.status

/-- Whether setting a condition to a status changes what the conditions say. -/
def changes (conditions : List Condition) (type : String) (status : Truth) : Bool :=
  status? conditions type ≠ some status

/-- The condition that takes the place of `old`: its time is kept as long as its status is. -/
def replacing (old new : Condition) : Condition :=
  if old.status = new.status then { new with lastTransitionTime := old.lastTransitionTime } else new

/-- Puts a condition in the place of the first one of its type, or at the end. -/
def put (new : Condition) : List Condition → List Condition
  | [] => [new]
  | c :: rest => if c.type = new.type then replacing c new :: rest else c :: put new rest

/-- Sets a condition at an instant. -/
def set (conditions : List Condition) (type : String) (status : Truth) (reason message : String)
    (now : Instant) : List Condition :=
  put ⟨type, status, some now.format, some reason, some message⟩ conditions

/-- Whether a condition of that type and status is present. -/
def has (conditions : List Condition) (type : String) (status : Truth) : Bool :=
  conditions.any fun c => c.type = type && c.status = status

/-- Whether a condition of that type, status and reason is present. -/
def hasWithReason (conditions : List Condition) (type : String) (status : Truth)
    (reason : String) : Bool :=
  conditions.any fun c => c.type = type && c.status = status && c.reason = some reason

/-- Conditions in JSON. -/
def toJson (conditions : List Condition) : Json := .arr (conditions.map Condition.toJson)

/-- Conditions read from JSON. -/
def ofJson? : Json → Option (List Condition) := Json.list? Condition.ofJson?

end Conditions
end CertIssuer
