import PresenceSeal.Fault
import PresenceSeal.Json.Value

/-! Named methods and their arguments. Before anything else is done, the arguments
that a method requires are looked for in their declared order, and the first
offence is the one reported. Members that no method knows do no harm. -/
namespace PresenceSeal

inductive Method where
  | getTpmStatus
  | getBiometryStatus
  | generateKey
  | deleteKey
  | encrypt
  | decrypt
  | configure
  deriving DecidableEq, Repr

inductive Argument where
  | tag
  | data
  | windowsDataToSign
  deriving DecidableEq, Repr

def Argument.name : Argument → String
  | tag => "tag"
  | data => "data"
  | windowsDataToSign => "windowsDataToSign"

/-- A method together with the texts it was given. -/
inductive Call where
  | getTpmStatus
  | getBiometryStatus
  | generateKey (tag : String)
  | deleteKey (tag : String)
  | encrypt (tag data : String)
  | decrypt (tag data : String)
  | configure (seed : String)
  deriving DecidableEq, Repr

namespace Method

def all : List Method :=
  [getTpmStatus, getBiometryStatus, generateKey, deleteKey, encrypt, decrypt, configure]

def name : Method → String
  | getTpmStatus => "getTPMStatus"
  | getBiometryStatus => "getBiometryStatus"
  | generateKey => "generateKey"
  | deleteKey => "deleteKey"
  | encrypt => "encrypt"
  | decrypt => "decrypt"
  | configure => "configure"

/-- The method of a name, which must be spelled exactly. -/
def ofName? (name : String) : Option Method := all.find? (·.name == name)

theorem ofName?_name (method : Method) : ofName? method.name = some method := by
  cases method <;> rfl

theorem name_of_ofName? {name : String} {method : Method}
    (named : ofName? name = some method) : method.name = name := by
  simpa using List.find?_some named

/-- The arguments that must be given, as texts. -/
def required : Method → List Argument
  | getTpmStatus | getBiometryStatus => []
  | generateKey | deleteKey => [.tag]
  | encrypt | decrypt => [.tag, .data]
  | configure => [.windowsDataToSign]

end Method

namespace Argument

def missing (argument : Argument) : Fault :=
  .invalidArgument ("Argument " ++ argument.name ++ " is missing.")

def notText (argument : Argument) : Fault :=
  .invalidArgument ("Argument " ++ argument.name ++ " must be a string.")

/-- Looks for the first argument that is missing or no text. -/
def check (members : List (String × Json)) : List Argument → Except Fault Unit
  | [] => .ok ()
  | argument :: rest =>
    match members.lookup argument.name with
    | none => .error argument.missing
    | some (.string _) => check members rest
    | some _ => .error argument.notText

def text (argument : Argument) (members : List (String × Json)) : Except Fault String :=
  match members.lookup argument.name with
  | some (.string text) => .ok text
  | _ => .error argument.missing

end Argument

namespace Method

/-- The members among which a method's arguments are found, once they are all right. -/
def members (method : Method) (arguments : Option Json) : Except Fault (List (String × Json)) :=
  if method.required.isEmpty then
    match arguments with
    | some (.object members) => .ok members
    | _ => .ok []
  else
    match arguments with
    | none | some .null => .error (.invalidArgument "Arguments are null.")
    | some (.object members) => do
      Argument.check members method.required
      pure members
    | some _ => .error (.invalidArgument "Arguments must be a map.")

/-- The call that a method's arguments make of it. -/
def call (method : Method) (arguments : Option Json) : Except Fault Call := do
  let members ← method.members arguments
  match method with
  | getTpmStatus => pure .getTpmStatus
  | getBiometryStatus => pure .getBiometryStatus
  | generateKey => pure (.generateKey (← Argument.tag.text members))
  | deleteKey => pure (.deleteKey (← Argument.tag.text members))
  | encrypt => do
    let tag ← Argument.tag.text members
    pure (.encrypt tag (← Argument.data.text members))
  | decrypt => do
    let tag ← Argument.tag.text members
    pure (.decrypt tag (← Argument.data.text members))
  | configure => pure (.configure (← Argument.windowsDataToSign.text members))

end Method

end PresenceSeal
