import PresenceSeal.Platform.Surroundings
import PresenceSeal.Text.Utf8

/-! A simulated platform, which plays both the security processor and the keyring.
Its outcomes can be set, and it counts what it is asked: handles acquired and
released, credentials opened, signatures, scopes taken and released. -/
namespace PresenceSeal.Simulated

structure Settings where
  openStatus : Option UInt32 := none
  typeStatus : Option UInt32 := none
  platformType : String := "TPM-Version:2.0"
  supported : Bool := true
  availability : Availability := .available
  createOutcome : Option Refusal := none
  openOutcome : Option Refusal := none
  deleteOutcome : Option Refusal := none
  signOutcome : Option Refusal := none
  /-- Every signature, if it is set. -/
  signature : Option (List UInt8) := none
  /-- Whether foreground scopes are inert. -/
  inertScopes : Bool := false

structure Device where
  settings : Settings := {}
  /-- The tags of the credentials, each once. -/
  tags : List String := []
  acquired : Nat := 0
  released : Nat := 0
  opens : Nat := 0
  signs : Nat := 0
  scopesTaken : Nat := 0
  scopesReleased : Nat := 0
  challenge : Option (List UInt8) := none
  prompt : Option Prompt := none

/-- Has credentials under these tags and no others. -/
def Device.setTags (device : Device) (tags : List String) : Device :=
  { device with tags := tags.eraseDups }

def change (f : Device → Device) : Attempt (Surroundings Device) ε Unit :=
  modify fun s => { s with device := f s.device }

def device : Attempt (Surroundings Device) ε Device := do
  return (← get).device

/-- Fails if an outcome is set. -/
def follow : Option ε → Attempt (Surroundings Device) ε Unit
  | some outcome => throw outcome
  | none => pure ()

def processor : Processor Device where
  acquire := do
    follow (← device).settings.openStatus
    change fun d => { d with acquired := d.acquired + 1 }
    pure ⟨1⟩
  platformType _ := do
    let d ← device
    follow d.settings.typeStatus
    pure d.settings.platformType
  release _ := modify fun s =>
    { s with device := { s.device with released := s.device.released + 1 } }

/-- The signature that is given if none is set: tag, a zero byte, challenge. -/
def defaultSignature (tag : String) (challenge : List UInt8) : List UInt8 :=
  Text.utf8 tag ++ [0] ++ challenge

def sign (tag : String) (challenge : List UInt8) (prompt : Prompt) :
    Attempt (Surroundings Device) Refusal Secret.Buffer := do
  change fun d =>
    { d with signs := d.signs + 1, challenge := some challenge, prompt := some prompt }
  let d ← device
  follow d.settings.signOutcome
  pure ⟨d.settings.signature.getD (defaultSignature tag challenge)⟩

def keyring : Keyring Device where
  isSupported := do return (← get).device.settings.supported
  availability := do return (← get).device.settings.availability
  create tag prompt := do
    change fun d => { d with prompt := some prompt }
    let d ← device
    follow d.settings.createOutcome
    if tag ∈ d.tags then throw .credentialAlreadyExists
    change fun d => { d with tags := tag :: d.tags }
  openCredential tag := do
    change fun d => { d with opens := d.opens + 1 }
    let d ← device
    follow d.settings.openOutcome
    if tag ∈ d.tags then pure ⟨tag, sign tag⟩ else throw .notFound
  delete tag := do
    let d ← device
    follow d.settings.deleteOutcome
    if tag ∈ d.tags then change fun d => { d with tags := d.tags.filter (· != tag) }
    else throw .notFound
  foreground := do
    if (← get).device.settings.inertScopes then return Scope.inert
    modify fun s => { s with device := { s.device with scopesTaken := s.device.scopesTaken + 1 } }
    return ⟨some (modify fun s =>
      { s with device := { s.device with scopesReleased := s.device.scopesReleased + 1 } })⟩

end PresenceSeal.Simulated
