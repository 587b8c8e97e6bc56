import PresenceSeal.Request.Method
import PresenceSeal.Service.Basic

/-! Answering requests. A request always gets a reply: a fault becomes an error with
its code, and a name that is no method's is answered as not implemented. -/
namespace PresenceSeal

inductive Reply where
  | success (result : Json)
  | error (code : Code) (message : String)
  | notImplemented

namespace Reply

def ofFault (fault : Fault) : Reply := .error fault.code fault.message

/-- The members of the reply's written form, in their order. -/
def members : Reply → List (String × Json)
  | success result => [("status", .string "success"), ("result", result)]
  | error code message =>
    [("status", .string "error"), ("code", .string code.text), ("message", .string message)]
  | notImplemented => [("status", .string "notImplemented")]

end Reply

namespace Service

def perform (service : Service δ) : Call → Attempt (Session δ) Fault Json
  | .getTpmStatus => do pure (.int (← service.tpmStatus))
  | .getBiometryStatus => do pure (.int (← service.biometryStatus))
  | .generateKey tag => do
    service.generateKey tag
    pure .null
  | .deleteKey tag => do
    service.deleteKey tag
    pure .null
  | .encrypt tag data => do pure (.string (← service.encrypt tag data))
  | .decrypt tag data => do pure (.string (← service.decrypt tag data))
  | .configure seed => do
    configure seed
    pure .null

/-- Does what a method asks with these arguments. -/
def dispatch (service : Service δ) (method : Method) (arguments : Option Json) :
    Attempt (Session δ) Fault Json := do
  Session.note .debug "handling method call"
  let call ← Attempt.ofExcept (method.call arguments)
  service.perform call

def handle (service : Service δ) (name : String) (arguments : Option Json) :
    StateM (Session δ) Reply := do
  match Method.ofName? name with
  | none =>
    Session.remark .debug "method not implemented"
    pure .notImplemented
  | some method =>
    match ← (service.dispatch method arguments).run with
    | .ok result => pure (.success result)
    | .error fault =>
      Session.remark .debug "method failed"
      pure (.ofFault fault)

end Service

end PresenceSeal
