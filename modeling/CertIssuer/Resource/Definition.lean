import CertIssuer.Resource.Issuer

/-!
The definitions under which a cluster accepts issuers: names, scope, and the schema that every
issuer has to satisfy.
-/

namespace CertIssuer.Definition

/-! ### Schemas -/

/-- A description, if there is one. -/
def described : Option String → List (String × Json) := Json.member? "description" .str

/-- The schema of an object. -/
def objectSchema (description : Option String) (required : List String)
    (properties : List (String × Json)) : Json :=
  .obj (described description ++ [("properties", .obj properties),
    ("required", Json.strings required), ("type", .str "object")])

/-- The schema of a text. -/
def textSchema (description : String) : Json :=
  .obj [("description", .str description), ("type", .str "string")]

/-- The schema of a text that may be left out. -/
def optionalTextSchema (description : String) : Json :=
  .obj [("description", .str description), ("nullable", .bool true), ("type", .str "string")]

/-- The schema of a text out of a few. -/
def choiceSchema (description : String) (choices : List String) : Json :=
  .obj [("description", .str description), ("enum", Json.strings choices), ("type", .str "string")]

/-- The schema of a condition. -/
def conditionSchema : Json :=
  objectSchema (some "Condition represents a typed boolean fact about a resource")
    ["status", "type"]
    [("lastTransitionTime", optionalTextSchema "Last time the status changed (RFC3339)"),
      ("message", optionalTextSchema "Human-readable message"),
      ("reason", optionalTextSchema "Machine-readable reason for the last transition"),
      ("status",
        choiceSchema "Status of the condition" [Truth.yes.text, Truth.no.text, Truth.unknown.text]),
      ("type", textSchema "Type of condition (e.g. Ready)")]

/-- The schema of the status of an issuer. -/
def statusSchema : Json :=
  .obj [("nullable", .bool true),
    ("properties", .obj [("conditions",
      .obj [("default", .arr []), ("items", conditionSchema), ("type", .str "array")])]),
    ("type", .str "object")]

/-- The schema of the credentials of an issuer. -/
def authSchema (description : Option String) : Json :=
  objectSchema description ["serviceKeyRef"]
    [("serviceKeyRef",
      objectSchema (some "Secret key holding the Origin CA service key") ["key", "name"]
        [("key", textSchema "Key within the secret's data"),
          ("name", textSchema "Name of the secret")])]

/-! ### What differs between the kinds -/

/-- The description of the specification of an issuer. -/
def specDescription : IssuerKind → String
  | .origin => "OriginIssuer signs CertificateRequests in its own namespace"
  | .cluster =>
    "ClusterOriginIssuer signs CertificateRequests in any namespace.\n"
      ++ "Its service key secret lives in the cluster resource namespace."

/-- The description of the credentials of an issuer. -/
def authDescription : IssuerKind → Option String
  | .origin => some "Credentials used to call the Origin CA API"
  | .cluster => none

/-- The description of the signature kind of an issuer. -/
def requestTypeDescription : IssuerKind → String
  | .origin => "Signature type requested from the Origin CA API"
  | .cluster => "Signature type of the certificate requested from the Origin CA API"

/-- The name of a single issuer of a kind in the paths of the API. -/
def singular : IssuerKind → String
  | .origin => "originissuer"
  | .cluster => "clusteroriginissuer"

/-- The name of the issuers of a kind in the paths of the API. -/
def plural (kind : IssuerKind) : String := singular kind ++ "s"

/-- Where issuers of a kind live. -/
def scope : IssuerKind → String
  | .origin => "Namespaced"
  | .cluster => "Cluster"

/-! ### Definitions -/

/-- The schema of the specification of an issuer. -/
def specSchema (kind : IssuerKind) : Json :=
  objectSchema (some (specDescription kind)) ["auth", "requestType"]
    [("auth", authSchema (authDescription kind)),
      ("requestType",
        choiceSchema (requestTypeDescription kind) [RequestType.rsa.text, RequestType.ecc.text])]

/-- The schema of an issuer. -/
def issuerSchema (kind : IssuerKind) : Json :=
  .obj [("description",
      .str ("Auto-generated derived type for " ++ kind.text ++ "Spec via `CustomResource`")),
    ("properties", .obj [("spec", specSchema kind), ("status", statusSchema)]),
    ("required", Json.strings ["spec"]), ("title", .str kind.text), ("type", .str "object")]

/-- The column of a listing that shows whether an issuer is ready. -/
def readyColumn : Json :=
  .obj [("jsonPath", .str ".status.conditions[?(@.type==\"Ready\")].status"),
    ("name", .str "Ready"), ("type", .str "string")]

/-- The version of the definition. -/
def version (kind : IssuerKind) : Json :=
  .obj [("additionalPrinterColumns", .arr [readyColumn]), ("name", .str "v1"),
    ("schema", .obj [("openAPIV3Schema", issuerSchema kind)]), ("served", .bool true),
    ("storage", .bool true), ("subresources", .obj [("status", .obj [])])]

/-- The definition of the issuers of a kind. -/
def ofKind (kind : IssuerKind) : Json :=
  .obj [("apiVersion", .str "apiextensions.k8s.io/v1"), ("kind", .str "CustomResourceDefinition"),
    ("metadata", .obj [("name", .str (plural kind ++ "." ++ issuerGroup))]),
    ("spec", .obj [("group", .str issuerGroup),
      ("names", .obj [("categories", .arr []), ("kind", .str kind.text),
        ("plural", .str (plural kind)), ("shortNames", .arr []),
        ("singular", .str (singular kind))]),
      ("scope", .str (scope kind)), ("versions", .arr [version kind])])]

/-- The definitions of both kinds. -/
def all : List Json := [ofKind .origin, ofKind .cluster]

end CertIssuer.Definition
