import CertIssuer.Json.Printer

/-!
JSON values as YAML documents in block style: two spaces for each level, the items of a list under
its key without further indentation, and texts without quotes wherever that is unambiguous.
-/

namespace CertIssuer.Json

/-- The words that a reader takes for truth values or for null. -/
def reservedWords : List String :=
  ["true", "True", "TRUE", "false", "False", "FALSE", "null", "Null", "NULL", "~", ""]

/-- A text of one line. -/
def plainOrQuoted (s : String) : String :=
  if reservedWords.contains s then "\x27" ++ s ++ "\x27" else s

/-- Lines one level further in. -/
def indented (lines : List String) : List String := lines.map ("  " ++ ·)

/-- How a value stands behind a key or a dash. -/
inductive YamlForm where
  /-- In the same line. -/
  | inline (text : String)
  /-- In further lines, behind what the first line ends with. -/
  | block (opening : String) (lines : List String)
  /-- As a list, in further lines. -/
  | list (lines : List String)

/-- The form of a text: in lines of its own if it has several. -/
def textForm (s : String) : YamlForm :=
  if s.toList.contains '\n' then .block "|-" (s.splitOn "\n") else .inline (plainOrQuoted s)

/-- A key and its value. -/
def keyLines (key : String) : YamlForm → List String
  | .inline text => [key ++ ": " ++ text]
  | .block "" lines => (key ++ ":") :: indented lines
  | .block opening lines => (key ++ ": " ++ opening) :: indented lines
  | .list lines => (key ++ ":") :: lines

/-- An item of a list. -/
def itemLines : YamlForm → List String
  | .inline text => ["- " ++ text]
  | .block "" (first :: rest) | .list (first :: rest) => ("- " ++ first) :: indented rest
  | .block opening lines => ("- " ++ opening) :: indented lines
  | .list [] => ["-"]

mutual

/-- The form of a value. -/
def yamlForm : Json → YamlForm
  | .str s => textForm s
  | .arr [] => .inline "[]"
  | .arr items => .list (yamlItems items)
  | .obj [] => .inline "\x7b\x7d"
  | .obj fields => .block "" (yamlMembers fields)
  | .null => .inline "null"
  | .unpaired => .inline "null"
  | .bool b => .inline (toString b)
  | .int n => .inline (toString n)
  | .real x => .inline x.dataText

/-- The lines of the items of a list. -/
def yamlItems : List Json → List String
  | [] => []
  | item :: rest => itemLines (yamlForm item) ++ yamlItems rest

/-- The lines of the members of an object. -/
def yamlMembers : List (String × Json) → List String
  | [] => []
  | (key, value) :: rest => keyLines key (yamlForm value) ++ yamlMembers rest

end

/-- The lines of a document. -/
def yamlLines (j : Json) : List String :=
  match yamlForm j with
  | .inline text => [text]
  | .block "" lines | .list lines => lines
  | .block opening lines => opening :: indented lines

/-- The lines of several documents, with a line of dashes between them. -/
def yamlStream (documents : List Json) : List String :=
  List.intercalate ["---"] (documents.map yamlLines)

end CertIssuer.Json
