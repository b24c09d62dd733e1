import CertIssuer.Settings.Options

/-!
The command line: its arguments from left to right, and then the environment for whatever they left
open. The value of an option may be attached with an equals sign or follow as the next argument. A
value is looked at when the next option begins or the arguments end, so that an argument which is no
option at all is reported before a value that cannot be read.
-/

namespace CertIssuer.CommandLine

/-- Why a command line gives no options. -/
inductive Fault where
  /-- The help was asked for. -/
  | help
  /-- The version was asked for. -/
  | version
  /-- There is no such option, or an argument that belongs to none. -/
  | unknown (argument : String)
  | missingValue (option : OptionName)
  | repeated (option : OptionName)
  | invalidValue (option : OptionName) (value : String) (fault : Options.ValueFault)
  /-- A value is attached to an option that takes none. -/
  | unneededValue (option value : String)
  deriving DecidableEq

/-- The wording of the fault that a value is needed. -/
def valueRequired (option : OptionName) : String :=
  "a value is required for '" ++ option.display ++ "' but none was supplied"

/-- The wording of a fault; asking for the help or the version is none. -/
def Fault.message : Fault → String
  | .help | .version => ""
  | .unknown argument => "unexpected argument '" ++ argument ++ "' found"
  | .missingValue option => valueRequired option
  | .repeated option => "the argument '" ++ option.display ++ "' cannot be used multiple times"
  | .invalidValue option value (.malformed reason) =>
    "invalid value '" ++ value ++ "' for '" ++ option.display ++ "': " ++ reason
  | .invalidValue option value .notOffered =>
    if value = "" then valueRequired option
    else "invalid value '" ++ value ++ "' for '" ++ option.display ++ "'"
  | .unneededValue option value =>
    "unexpected value '" ++ value ++ "' for '--" ++ option ++ "' found; no more were expected"

/-! ### Arguments -/

/-- What an argument looks like. -/
inductive Word where
  /-- Two dashes: nothing after them is an option. -/
  | escape
  /-- A name after two dashes, and what follows an equals sign. -/
  | long (name : String) (attached : Option String)
  /-- Letters after one dash. -/
  | short (letters : List Char)
  | plain
  deriving DecidableEq

/-- What an argument looks like. -/
def Word.ofArgument (argument : String) : Word :=
  match argument.toList with
  | ['-', '-'] => .escape
  | '-' :: '-' :: rest =>
    let name := String.ofList (rest.takeWhile (· ≠ '='))
    match rest.dropWhile (· ≠ '=') with
    | [] => .long name none
    | _ :: value => .long name (some (String.ofList value))
  | '-' :: c :: rest => .short (c :: rest)
  | _ => .plain

/-- Where a scan of a number stands. -/
structure NumberScan where
  sawPoint : Bool
  sawExponent : Bool
  deriving DecidableEq

/-- Whether letters after a dash are a number: digits with at most one point, which comes before any
exponent, and at most one exponent, which has digits behind it. -/
def isNumber : List Char → Bool
  | [] => true
  | first :: rest => Number.isDigit first && go ⟨false, false⟩ rest
where
  /-- The rest of a number. -/
  go (s : NumberScan) : List Char → Bool
    | [] => true
    | ['e'] => false
    | c :: rest =>
      if Number.isDigit c then go s rest
      else if c = '.' then !s.sawPoint && !s.sawExponent && go { s with sawPoint := true } rest
      else if c = 'e' then !s.sawExponent && go { s with sawExponent := true } rest
      else false

/-! ### Reading -/

/-- What has been read so far. -/
structure State where
  options : Options
  /-- The options that were given. -/
  given : List OptionName
  /-- The option that was begun last, and its value if there is one yet. -/
  pending : Option (OptionName × Option String)
  /-- Whether two dashes were read. -/
  escaped : Bool

/-- Nothing read yet. -/
def State.start : State := ⟨.default, [], none, false⟩

/-- Sets an option to a value. -/
def assign (s : State) (option : OptionName) (value : String) : Except Fault State :=
  if s.given.contains option then .error (.repeated option)
  else
    match s.options.set option value with
    | .ok options => .ok { s with options, given := option :: s.given }
    | .error fault => .error (.invalidValue option value fault)

/-- Completes the option that was begun last. -/
def settle (s : State) : Except Fault State :=
  match s.pending with
  | none => .ok s
  | some (option, none) => .error (.missingValue option)
  | some (option, some value) => assign { s with pending := none } option value

/-- Begins an option. -/
def beginOption (s : State) (option : OptionName) (attached : Option String) : Except Fault State :=
  match attached, option.takesValue with
  | some value, true => (settle s).bind fun s => assign s option value
  | none, true => (settle s).map fun s => { s with pending := some (option, none) }
  | some value, false => .error (.unneededValue option.text value)
  | none, false => (settle s).bind fun s => assign s option "true"

/-- Ends with an answer, once the option begun last is complete. -/
def finish (s : State) (name : String) (attached : Option String) (answer : Fault) :
    Except Fault State :=
  match attached with
  | some value => .error (.unneededValue name value)
  | none => (settle s).bind fun _ => .error answer

/-- Reads a name after two dashes. -/
def readLong (s : State) (name : String) (attached : Option String) : Except Fault State :=
  match OptionName.ofText? name with
  | some option => beginOption s option attached
  | none =>
    if name = "help" then finish s name attached .help
    else if name = "version" then finish s name attached .version
    else .error (.unknown ("--" ++ name))

/-- Reads letters after one dash; the first one decides. -/
def readShort (s : State) : List Char → Except Fault State
  | 'h' :: _ => finish s "help" none .help
  | 'V' :: _ => finish s "version" none .version
  | letters => .error (.unknown (String.ofList ('-' :: letters.take 1)))

/-- Whether the option begun last still needs a value and takes those letters after a dash for
it. -/
def takesLetters (s : State) (letters : List Char) : Bool :=
  match s.pending with
  | some (option, none) => option.takesNegative && isNumber letters
  | _ => false

/-- Reads an argument that is a value. -/
def readValue (s : State) (argument : String) : Except Fault State :=
  match s.pending with
  | some (option, none) => .ok { s with pending := some (option, some argument) }
  | _ => .error (.unknown argument)

/-- Reads an argument. -/
def readArgument (s : State) (argument : String) : Except Fault State :=
  if s.escaped then .error (.unknown argument)
  else
    match Word.ofArgument argument with
    | .escape => .ok { s with escaped := true }
    | .long name attached => readLong s name attached
    | .short letters =>
      if takesLetters s letters then readValue s argument else readShort s letters
    | .plain => readValue s argument

/-- Reads a variable for an option that was not given. -/
def readVariable (environment : String → Option String) (s : State) (option : OptionName) :
    Except Fault State :=
  if s.given.contains option then .ok s
  else
    match environment option.environmentName with
    | some value => assign s option value
    | none => .ok s

/-- The options that arguments and an environment give. -/
def parse (arguments : List String) (environment : String → Option String) :
    Except Fault Options := do
  let s ← arguments.foldlM readArgument .start
  let s ← settle s
  let s ← OptionName.all.foldlM (readVariable environment) s
  .ok s.options

end CertIssuer.CommandLine
