import PresenceSeal.Platform.Surroundings
import PresenceSeal.Platform.Version
import PresenceSeal.Status

/-! The oracle says whether the platform can be used at all. It keeps nothing
between calls, and gives back the processor's handle on every path. -/
namespace PresenceSeal

/-- The component that reports the platform's status. -/
structure Oracle (δ : Type) where
  platformStatus : Attempt (Scene δ) Fault TpmStatus
  biometryStatus : Attempt (Scene δ) Fault BiometryStatus

namespace Oracle

/-- A platform's answer, with its failure as a fault. -/
def asked (x : Attempt (Surroundings δ) ε α) (fault : ε → Fault) : Attempt (Scene δ) Fault α :=
  (Scene.platform.attempt x).adapt fault

theorem run_asked (x : Attempt (Surroundings δ) ε α) (fault : ε → Fault) (scene : Scene δ) :
    (asked x fault).run.run scene =
      match x.run.run scene.surroundings with
      | (.ok a, surroundings) => (.ok a, { scene with surroundings })
      | (.error e, surroundings) => (.error (fault e), { scene with surroundings }) := by
  rw [asked, Attempt.run_adapt, Part.run_attempt]
  simp only [Scene.platform]
  rcases x.run.run scene.surroundings with ⟨_ | _, _⟩ <;> rfl

/-- What the version of an opened processor makes of its status. -/
def judge (processor : Processor δ) (handle : Handle) : Attempt (Scene δ) Fault TpmStatus := do
  let platformType ← asked (processor.platformType handle) fun status =>
    .tpmVersion (Fault.statusReason "read platform type" status)
  let major ← Attempt.ofExcept (Version.major platformType)
  Scene.note .debug s!"security processor version read: {major}"
  pure (if major < Version.minimum then .versionUnsupported else .supported)

/-- The processor's status. The handle is released after the judgement. -/
def probe (processor : Processor δ) : Attempt (Scene δ) Fault TpmStatus := do
  let handle ← asked processor.acquire fun status =>
    .tpmUnsupported (Fault.statusReason "open storage provider" status)
  (judge processor handle).endingWith (Scene.platform.lift (processor.release handle))

/-- The biometric status: support decides, and without it the consent verifier's availability. -/
def biometry (keyring : Keyring δ) : Attempt (Scene δ) Fault BiometryStatus := do
  if ← Scene.platform.always keyring.isSupported then
    return .supported
  match ← Scene.platform.always keyring.availability with
  | .available => pure .supported
  | .deviceNotPresent => pure .deviceNotPresent
  | .notConfiguredForUser => pure .notConfiguredForUser
  | .disabledByPolicy => pure .disabledByPolicy
  | .deviceBusy => pure .deviceBusy
  | .securityUpdateRequired => pure .securityUpdateRequired
  | .other raw =>
    Scene.note .error "unmapped consent verifier availability"
    throw (.unknown ("unmapped consent verifier availability " ++
      String.ofList (Text.signedDecimal raw.toInt)))

def ofPlatform (processor : Processor δ) (keyring : Keyring δ) : Oracle δ where
  platformStatus := probe processor
  biometryStatus := biometry keyring

end Oracle

end PresenceSeal
