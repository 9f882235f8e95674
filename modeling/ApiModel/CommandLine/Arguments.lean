import ApiModel.Text.Split

/-!
# Arguments of the command line

The input file is the one positional argument. A value follows its option as the next argument or
after an equals sign; nothing may be given twice. An argument is read before the value that is still
open for the option before it is judged, so an unknown argument hides a bad value.
-/

namespace ApiModel.CommandLine

inductive OutputFormat
  | yaml
  | json
deriving DecidableEq

structure Arguments where
  input : String
  format : OutputFormat := .yaml
  /-- The file to write; without one the model is printed. -/
  output : Option String := none
  /-- What divides an operation id into group and member. -/
  separator : Char := '_'
  skipComponents : Bool := false
  /-- Whether a reported error makes the run fail. -/
  denyErrors : Bool := false
  /-- Whether the diagnostics are written next to the model. -/
  withDiagnostics : Bool := false

/-- Why the arguments are refused; a request for help is no run either. -/
inductive UsageError
  | missingInput
  | missingValue
  | unknownFormat
  | separatorNotOneChar
  | unknownArgument
  | repeatedArgument
  | needlessValue
  | helpRequested
deriving DecidableEq

namespace UsageError

def message : UsageError → String
  | .missingInput => "the path of the document is missing"
  | .missingValue => "an option has no value"
  | .unknownFormat => "the format is 'yaml' or 'json'"
  | .separatorNotOneChar => "the separator is one character"
  | .unknownArgument => "an argument is not known"
  | .repeatedArgument => "an argument is given twice"
  | .needlessValue => "a flag has a value"
  | .helpRequested =>
    "usage: FILE [--format yaml|json] [--output FILE] [--separator CHAR] [--skip-components]"
      ++ " [--deny-errors] [--with-diagnostics]"

end UsageError

/-- The options that take a value. -/
inductive ValueOption
  | format
  | output
  | separator
deriving DecidableEq

inductive Flag
  | skipComponents
  | denyErrors
  | withDiagnostics
deriving DecidableEq

/-- What is known of the arguments so far. -/
structure Given where
  input : Option String := none
  format : Option OutputFormat := none
  output : Option String := none
  separator : Option Char := none
  flags : List Flag := []

abbrev Usage := Except UsageError

def path? (value : String) : Usage String :=
  if value.isEmpty then .error .missingValue else .ok value

def format? (value : String) : Usage OutputFormat :=
  match value with
  | "yaml" => .ok .yaml
  | "json" => .ok .json
  | _ => .error .unknownFormat

def separator? (value : String) : Usage Char :=
  match value.toList with
  | [c] => .ok c
  | _ => .error .separatorNotOneChar

namespace Given

/-- Whether an option has its value. -/
def hasOption (g : Given) : ValueOption → Bool
  | .format => g.format.isSome
  | .output => g.output.isSome
  | .separator => g.separator.isSome

def setOption (g : Given) (option : ValueOption) (value : String) : Usage Given :=
  if g.hasOption option then .error .repeatedArgument
  else
    match option with
    | .format => (format? value).map fun f => { g with format := some f }
    | .output => (path? value).map fun p => { g with output := some p }
    | .separator => (separator? value).map fun c => { g with separator := some c }

def setFlag (g : Given) (flag : Flag) : Usage Given :=
  if g.flags.contains flag then .error .repeatedArgument
  else .ok { g with flags := flag :: g.flags }

def setInput (g : Given) (value : String) : Usage Given :=
  if g.input.isSome then .error .unknownArgument
  else (path? value).map fun p => { g with input := some p }

end Given

/-- The option before the current argument, and its value if that has come. -/
structure Pending where
  option : ValueOption
  value : Option String

def resolve (g : Given) : Option Pending → Usage Given
  | none => .ok g
  | some ⟨_, none⟩ => .error .missingValue
  | some ⟨option, some value⟩ => g.setOption option value

/-! ### Spelling -/

inductive Argument
  /-- The arguments after it are positional. -/
  | escape
  | option (name : ValueOption) (value : Option String)
  | flag (name : Flag)
  | flagWithValue
  | help
  | unknown
  | plain (text : String)

def longArgument (name : String) (value : Option String) : Argument :=
  let flag (a : Argument) : Argument := if value.isSome then .flagWithValue else a
  match name with
  | "format" => .option .format value
  | "output" => .option .output value
  | "separator" => .option .separator value
  | "skip-components" => flag (.flag .skipComponents)
  | "deny-errors" => flag (.flag .denyErrors)
  | "with-diagnostics" => flag (.flag .withDiagnostics)
  | "help" => flag .help
  | _ => .unknown

/-- Short arguments have one letter; the value of an option may follow it at once. -/
def shortArgument (letter : Char) (rest : List Char) : Argument :=
  if letter = 'h' then .help
  else if letter = 'o' then
    match rest with
    | [] => .option .output none
    | '=' :: value => .option .output (some (String.ofList value))
    | value => .option .output (some (String.ofList value))
  else .unknown

/-- A hyphen by itself is plain. -/
def Argument.ofText (s : String) : Argument :=
  match s.toList with
  | ['-', '-'] => .escape
  | '-' :: '-' :: cs =>
    match Split.once? '=' cs with
    | some (name, value) => longArgument (String.ofList name) (some (String.ofList value))
    | none => longArgument (String.ofList cs) none
  | '-' :: letter :: rest => shortArgument letter rest
  | _ => .plain s

/-! ### Reading -/

def readPositional (g : Given) (args : List String) : Usage Given :=
  args.foldlM Given.setInput g

def readArguments (g : Given) (pending : Option Pending) : List String → Usage Given
  | [] => resolve g pending
  | arg :: args =>
    match Argument.ofText arg with
    | .escape =>
      if args.isEmpty then resolve g pending
      else if g.input.isSome then .error .unknownArgument
      else (resolve g pending).bind fun g => readPositional g args
    | .unknown => .error .unknownArgument
    | .flagWithValue => .error .needlessValue
    | .help => (resolve g pending).bind fun _ => .error .helpRequested
    | .flag name =>
      ((resolve g pending).bind (·.setFlag name)).bind fun g => readArguments g none args
    | .option name none =>
      (resolve g pending).bind fun g => readArguments g (some ⟨name, none⟩) args
    | .option name (some value) =>
      ((resolve g pending).bind (·.setOption name value)).bind fun g => readArguments g none args
    | .plain text =>
      match pending with
      | some ⟨option, none⟩ => readArguments g (some ⟨option, some text⟩) args
      | _ =>
        if g.input.isSome then .error .unknownArgument
        else ((resolve g pending).bind (·.setInput text)).bind fun g => readArguments g none args

/-- The arguments of a run. The environment may give the separator where the arguments do not. -/
def Arguments.parse (args : List String) (environment : Option String) : Usage Arguments := do
  let g ← readArguments {} none args
  let separator ←
    match g.separator, environment with
    | some c, _ => pure c
    | none, some value => separator? value
    | none, none => pure '_'
  match g.input with
  | none => throw .missingInput
  | some input =>
    return {
      input
      format := g.format.getD .yaml
      output := g.output
      separator
      skipComponents := g.flags.contains .skipComponents
      denyErrors := g.flags.contains .denyErrors
      withDiagnostics := g.flags.contains .withDiagnostics }

end ApiModel.CommandLine
