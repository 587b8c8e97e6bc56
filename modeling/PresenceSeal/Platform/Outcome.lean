import PresenceSeal.Fault

/-! What a credential platform answers: why it refused, and whether its consent
verifier is there. Raw values that have no meaning here are kept as they are. -/
namespace PresenceSeal

inductive Refusal where
  | unknownError
  | notFound
  | userCanceled
  | userPrefersPassword
  | credentialAlreadyExists
  | securityDeviceLocked
  /-- A raw value without meaning here. -/
  | other (raw : Int32)
  deriving DecidableEq

def Refusal.fault : Refusal → Fault
  | notFound => .keyNotFound
  | userCanceled => .authenticationCanceled
  | userPrefersPassword => .userPrefersPassword
  | credentialAlreadyExists => .keyAlreadyExists
  | securityDeviceLocked => .secureDeviceLocked
  | unknownError => .unknown "credential store reported an unknown error"
  | other raw =>
    .unknown ("unmapped credential store status " ++
      String.ofList (Text.signedDecimal raw.toInt))

/-- Whether the consent verifier can be used. -/
inductive Availability where
  | available
  | deviceNotPresent
  | notConfiguredForUser
  | disabledByPolicy
  | deviceBusy
  | securityUpdateRequired
  /-- A raw value without meaning here. -/
  | other (raw : Int32)
  deriving DecidableEq

end PresenceSeal
