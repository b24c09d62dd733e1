import CertIssuer.Command

/-!
The program: its name decides which command it runs.
-/

open CertIssuer

/-- Runs the command that the program is called by. -/
def main (arguments : List String) : IO UInt32 := do
  let name := ((← IO.appPath).fileStem).getD ""
  let values ← Command.variableNames.filterMapM fun v => do
    return (← IO.getEnv v).map fun value => (v, value)
  let outcome := Command.run name arguments fun v => values.lookup v
  for line in outcome.output do
    IO.println line
  for line in outcome.complaints do
    IO.eprintln line
  return outcome.code.toUInt32
