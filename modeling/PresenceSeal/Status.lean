import PresenceSeal.Fault

/-! The two statuses that callers ask for. Their numbers and names are stable. -/
namespace PresenceSeal

inductive TpmStatus where
  | supported
  | unsupported
  | versionUnsupported
  deriving DecidableEq, Repr

inductive BiometryStatus where
  | supported
  | unsupported
  | deviceNotPresent
  | notConfiguredForUser
  | disabledByPolicy
  | deviceBusy
  | securityUpdateRequired
  deriving DecidableEq, Repr

namespace TpmStatus

/-- All statuses by name, each at the place of its number. -/
def variants : List (String × TpmStatus) :=
  [("supported", supported), ("unsupported", unsupported),
    ("versionUnsupported", versionUnsupported)]

def number : TpmStatus → Nat
  | supported => 0
  | unsupported => 1
  | versionUnsupported => 2

def name : TpmStatus → String
  | supported => "supported"
  | unsupported => "unsupported"
  | versionUnsupported => "versionUnsupported"

def ofNumber (n : Int) : Except Fault TpmStatus :=
  match (variants.map (·.2)).find? (fun status => (status.number : Int) == n) with
  | some status => .ok status
  | none =>
    .error (.invalidArgument (String.ofList (Text.signedDecimal n) ++ " is not a valid TPM status"))

theorem ofNumber_number (status : TpmStatus) : ofNumber status.number = .ok status := by
  cases status <;> rfl

theorem lookup_name (status : TpmStatus) : variants.lookup status.name = some status := by
  cases status <;> rfl

end TpmStatus

namespace BiometryStatus

def variants : List (String × BiometryStatus) :=
  [("supported", supported), ("unsupported", unsupported),
    ("deviceNotPresent", deviceNotPresent), ("notConfiguredForUser", notConfiguredForUser),
    ("disabledByPolicy", disabledByPolicy), ("deviceBusy", deviceBusy),
    ("androidBiometricErrorSecurityUpdateRequired", securityUpdateRequired)]

def number : BiometryStatus → Nat
  | supported => 0
  | unsupported => 1
  | deviceNotPresent => 2
  | notConfiguredForUser => 3
  | disabledByPolicy => 4
  | deviceBusy => 5
  | securityUpdateRequired => 6

def name : BiometryStatus → String
  | supported => "supported"
  | unsupported => "unsupported"
  | deviceNotPresent => "deviceNotPresent"
  | notConfiguredForUser => "notConfiguredForUser"
  | disabledByPolicy => "disabledByPolicy"
  | deviceBusy => "deviceBusy"
  | securityUpdateRequired => "androidBiometricErrorSecurityUpdateRequired"

def ofNumber (n : Int) : Except Fault BiometryStatus :=
  match (variants.map (·.2)).find? (fun status => (status.number : Int) == n) with
  | some status => .ok status
  | none =>
    .error (.invalidArgument
      (String.ofList (Text.signedDecimal n) ++ " is not a valid biometry status"))

theorem ofNumber_number (status : BiometryStatus) : ofNumber status.number = .ok status := by
  cases status <;> rfl

theorem lookup_name (status : BiometryStatus) : variants.lookup status.name = some status := by
  cases status <;> rfl

end BiometryStatus

end PresenceSeal
