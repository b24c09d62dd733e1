import CertIssuer.Metrics.Histogram

/-!
The text exposition of metrics: for each family a line of help, a line with its type, and one line
for each sample.
-/

namespace CertIssuer.Metrics

/-- A label and its value. -/
abbrev Label := String × String

/-- One character of a label's value. -/
def escapedChar (c : Char) : List Char :=
  if c = '\\' then ['\\', '\\']
  else if c = '"' then ['\\', '"']
  else if c = '\n' then ['\\', 'n']
  else [c]

/-- A label with its value in double quotes. -/
def labelText (l : Label) : String :=
  l.1 ++ "=\"" ++ String.ofList (l.2.toList.flatMap escapedChar) ++ "\""

/-- The line of a sample. -/
def sampleLine (name : String) (labels : List Label) (value : String) : String :=
  name
    ++ (if labels.isEmpty then ""
      else "\x7b" ++ String.intercalate "," (labels.map labelText) ++ "\x7d")
    ++ " " ++ value

/-- The values of a family by their labels. -/
inductive Samples where
  | counters (entries : List (List Label × Nat))
  | histograms (entries : List (List Label × Histogram))

/-- Metrics of one name. -/
structure Family where
  name : String
  help : String
  samples : Samples

namespace Samples

/-- The name of the type of samples. -/
def typeText : Samples → String
  | .counters _ => "counter"
  | .histograms _ => "histogram"

/-- Whether there are no samples. -/
def isEmpty : Samples → Bool
  | .counters entries => entries.isEmpty
  | .histograms entries => entries.isEmpty

/-- The lines of a histogram. -/
def histogramLines (name : String) (labels : List Label) (h : Histogram) : List String :=
  (h.cumulative.map fun b =>
      sampleLine (name ++ "_bucket") (labels ++ [("le", b.1)]) (toString b.2))
    ++ [sampleLine (name ++ "_sum") labels (h.sum.positional Number.binary64),
      sampleLine (name ++ "_count") labels (toString h.count)]

/-- The lines of the samples. -/
def lines (name : String) : Samples → List String
  | .counters entries => entries.map fun e => sampleLine name e.1 (toString e.2)
  | .histograms entries => entries.flatMap fun e => histogramLines name e.1 e.2

end Samples

/-- The lines of a family; a family without samples has none. -/
def Family.lines (f : Family) : List String :=
  if f.samples.isEmpty then []
  else
    ["# HELP " ++ f.name ++ " " ++ f.help, "# TYPE " ++ f.name ++ " " ++ f.samples.typeText]
      ++ f.samples.lines f.name

/-- The lines of all families. -/
def exposition (families : List Family) : List String := families.flatMap Family.lines

/-- The content type of the exposition. -/
def contentType : String := "text/plain; version=0.0.4; charset=utf-8"

end CertIssuer.Metrics
