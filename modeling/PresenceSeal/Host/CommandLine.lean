/-! The command line. Arguments are handled from left to right and the first one that
cannot be accepted decides. Options are spelled in full; there are no positional
arguments. A value that stands apart from its option is looked at only when the next
known option or the end is reached, so an unknown argument behind it comes first. -/
namespace PresenceSeal.CommandLine

def programName : String := "biocipher-host"

structure Options where
  config : String := "biocipher.json"
  /-- How often more of the journal was asked for, 255 at most. -/
  verbosity : Nat := 0
  /-- Whether to write the default settings and end. -/
  writeDefault : Bool := false
  deriving DecidableEq, Repr

/-- Why a command line is not carried out. -/
inductive Refused where
  | displayHelp
  | displayVersion
  | unknownArgument
  | invalidValue
  | argumentConflict
  | tooManyValues
  deriving DecidableEq, Repr

/-- The exit code: help and version are no failures. -/
def Refused.exitCode : Refused → Nat
  | displayHelp | displayVersion => 0
  | _ => 2

/-- What is said to a user who asks what the options are. -/
def help : List String :=
  ["biocipher host process: JSON-lines method channel over stdin/stdout with platform backends",
    "",
    "Usage: " ++ programName ++ " [OPTIONS]",
    "",
    "Options:",
    "      --config <CONFIG>       Path to the JSON config file [default: " ++
      ({} : Options).config ++ "]",
    "  -v, --verbose...            Raise the log level (-v debug, -vv trace)",
    "      --write-default-config  Write the default config to `--config` and exit",
    "  -h, --help                  Print help",
    "  -V, --version               Print version"]

/-- The lines that answer a command line which is not carried out. Failures are only
reported beside the output. -/
def Refused.output : Refused → List String
  | displayHelp => help
  | displayVersion => [programName ++ " 0.1.0"]
  | _ => []

/-- The settings option when its value stands apart. -/
inductive Pending where
  | nothing
  /-- The option has been met and its value is still to come. -/
  | awaited
  /-- The value has come and has not been looked at. -/
  | given (path : List Char)
  deriving DecidableEq, Repr

/-- The options so far, and whether a settings file has been named. -/
structure Draft where
  options : Options := {}
  configGiven : Bool := false
  pending : Pending := .nothing

/-- What takes no value. -/
inductive Flag where
  | verbose
  | writeDefault
  | help
  | version
  deriving DecidableEq, Repr

namespace Flag

def ofLetter? : Char → Option Flag
  | 'v' => some verbose
  | 'h' => some help
  | 'V' => some version
  | _ => none

def ofName? : String → Option Flag
  | "verbose" => some verbose
  | "write-default-config" => some writeDefault
  | "help" => some help
  | "version" => some version
  | _ => none

end Flag

namespace Draft

/-- Names the settings file, which is done once and not by an empty name. -/
def setConfig (draft : Draft) (path : List Char) : Except Refused Draft :=
  if draft.configGiven then .error .argumentConflict
  else if path.isEmpty then .error .invalidValue
  else .ok { draft with
    options := { draft.options with config := String.ofList path }
    configGiven := true }

/-- Takes the value of a pending option, which must have come by now. -/
def settle (draft : Draft) : Except Refused Draft :=
  match draft.pending with
  | .nothing => .ok draft
  | .awaited => .error .invalidValue
  | .given path => { draft with pending := .nothing }.setConfig path

/-- Keeps a value for the option that awaits one. No other argument may be a value. -/
def keep (draft : Draft) (value : List Char) : Except Refused Draft :=
  match draft.pending with
  | .awaited => .ok { draft with pending := .given value }
  | _ => .error .unknownArgument

/-- Applies a flag. The default settings are asked for once. -/
def apply (draft : Draft) : Flag → Except Refused Draft
  | .verbose => .ok { draft with
      options := { draft.options with verbosity := min 255 (draft.options.verbosity + 1) } }
  | .writeDefault =>
    if draft.options.writeDefault then .error .argumentConflict
    else .ok { draft with options := { draft.options with writeDefault := true } }
  | .help => .error .displayHelp
  | .version => .error .displayVersion

/-- A flag that may not be known. What is pending is taken before a known one applies. -/
def flag (draft : Draft) (found : Option Flag) : Except Refused Draft :=
  match found with
  | some flag => do (← draft.settle).apply flag
  | none => .error .unknownArgument

end Draft

/-- The name of a long option, and the value behind its equals sign. -/
def nameAndValue (text : List Char) : String × Option (List Char) :=
  let name := String.ofList (text.takeWhile (· != '='))
  match text.dropWhile (· != '=') with
  | _ :: value => (name, some value)
  | [] => (name, none)

/-- Handles arguments one after another. Behind a lone pair of hyphens there may be none. -/
def handle (draft : Draft) : List String → Except Refused Draft
  | [] => draft.settle
  | argument :: rest =>
    match argument.toList with
    | ['-', '-'] => if rest.isEmpty then draft.settle else .error .unknownArgument
    | '-' :: '-' :: text =>
      match nameAndValue text with
      | ("config", some value) => do handle (← (← draft.settle).setConfig value) rest
      | ("config", none) => do handle { (← draft.settle) with pending := .awaited } rest
      | (name, some _) =>
        if (Flag.ofName? name).isSome then .error .tooManyValues else .error .unknownArgument
      | (name, none) => do handle (← draft.flag (Flag.ofName? name)) rest
    | '-' :: c :: letters => do
      handle (← (c :: letters).foldlM (fun draft c => draft.flag (Flag.ofLetter? c)) draft) rest
    | value => do handle (← draft.keep value) rest

def parse (arguments : List String) : Except Refused Options :=
  (handle {} arguments).map (·.options)

end PresenceSeal.CommandLine
