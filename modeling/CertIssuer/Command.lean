import CertIssuer.Json.Yaml
import CertIssuer.Resource.Definition
import CertIssuer.Settings.CommandLine
import CertIssuer.Startup

/-!
The command lines: `crdgen` prints the definitions of the issuers, and `origin-ca-issuer` reads its
options and starts.
-/

namespace CertIssuer.Command

/-- How a command ends: its exit code, and the lines it prints and complains with. -/
structure Outcome where
  code : UInt8
  output : List String
  complaints : List String
  deriving DecidableEq

/-- The lines of the definitions of the issuers. -/
def definitions : Outcome := ⟨0, Json.yamlStream Definition.all, []⟩

/-- The name and the version of the program. -/
def versionLine : String := "origin-ca-issuer 0.1.0"

/-- The first line of the help. -/
def usageLine : String := "Usage: origin-ca-issuer [OPTIONS]"

/-- How a command line ends that gives no options. -/
def ofFault : CommandLine.Fault → Outcome
  | .version => ⟨0, [versionLine], []⟩
  | .help => ⟨0, [usageLine], []⟩
  | fault => ⟨2, [], ["error: " ++ fault.message]⟩

/-- How a program ends that does not start. -/
def refused (message : String) : Outcome := ⟨1, [], ["Error: " ++ message]⟩

/-- Reads the options and starts the program on a host. -/
def start (arguments : List String) (environment : String → Option String)
    (host : Startup.Host) : Outcome :=
  match CommandLine.parse arguments environment with
  | .error fault => ofFault fault
  | .ok options =>
    match options.validate with
    | .error e => refused e.message
    | .ok () =>
      match (Startup.start options (.ofEnvironment environment) host).1 with
      | .error failure => refused failure.message
      | .ok _ => ⟨0, [], []⟩

/-- Runs the command of a name. -/
def run (name : String) (arguments : List String) (environment : String → Option String) :
    Outcome :=
  if name = "crdgen" then definitions else start arguments environment .fresh

/-- The environment variables that are read. -/
def variableNames : List String :=
  OptionName.all.map OptionName.environmentName ++ Tuning.variableNames

end CertIssuer.Command
