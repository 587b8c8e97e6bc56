import PresenceSeal.Service.Codec
import PresenceSeal.Service.Register
import PresenceSeal.Service.Vault

/-! The service over its three components. Encryption and decryption reach the same
session key by the same steps: seed, challenge, signature, digest. Only then do they
differ, in what the codec is asked. -/
namespace PresenceSeal

structure Service (δ : Type) where
  oracle : Oracle δ
  vault : Vault δ
  codec : Codec δ

/-- What a service works on: its components' scene and the register. -/
structure Session (δ : Type) where
  scene : Scene δ
  register : Register := {}

namespace Session

def components : Part (Session δ) (Scene δ) where
  get session := session.scene
  set scene session := { session with scene }

def noted : Part (Session δ) Journal where
  get session := session.scene.journal
  set journal session := { session with scene := { session.scene with journal } }

/-- Notes an entry where nothing can fail. -/
def remark (severity : Severity) (text : String) : StateM (Session δ) Unit :=
  noted.lift (Journal.note severity text)

def note (severity : Severity) (text : String) : Attempt (Session δ) ε Unit :=
  noted.always (Journal.note severity text)

end Session

namespace Service

/-- Why cipher calls fail without a seed. -/
def unconfiguredReason : String := "Data to sign is empty"

/-- The processor's status as a number. A processor that cannot be opened, or whose
version cannot be read, is a status and no failure. -/
def tpmStatus (service : Service δ) : Attempt (Session δ) Fault Nat := do
  match ← (Session.components.attempt service.oracle.platformStatus).outcome with
  | .ok status => pure status.number
  | .error (.tpmUnsupported _) =>
    Session.note .warn "security processor unavailable"
    pure TpmStatus.unsupported.number
  | .error (.tpmVersion _) =>
    Session.note .warn "security processor version unsupported"
    pure TpmStatus.versionUnsupported.number
  | .error fault => throw fault

def biometryStatus (service : Service δ) : Attempt (Session δ) Fault Nat := do
  let status ← Session.components.attempt service.oracle.biometryStatus
  pure status.number

def generateKey (service : Service δ) (tag : String) : Attempt (Session δ) Fault Unit :=
  Session.components.attempt (service.vault.create tag)

/-- Deletes the credential of a tag. That there is none is no failure. -/
def deleteKey (service : Service δ) (tag : String) : Attempt (Session δ) Fault Unit := do
  match ← (Session.components.attempt (service.vault.delete tag)).outcome with
  | .ok () => pure ()
  | .error .keyNotFound => Session.note .warn "delete of absent key treated as success"
  | .error fault => throw fault

def configure (seed : String) : Attempt (Session δ) Fault Unit := do
  let session ← get
  let (outcome, register) := session.register.set seed
  set { session with register }
  match outcome with
  | .ok () => Session.note .debug "challenge seed configured"
  | .error fault =>
    Session.note .warn "rejected empty challenge seed; register is unconfigured"
    throw fault

/-- The session key of a tag: the digest of the signature over the seed's UTF-16
bytes. Without a seed the components are not asked at all. -/
def sessionKey (service : Service δ) (tag : String) (unconfigured : Fault) :
    Attempt (Session δ) Fault SessionKey := do
  let session ← get
  match session.register.seed? with
  | none =>
    Session.note .debug "cipher call rejected: not configured"
    throw unconfigured
  | some seed =>
    let challenge := Secret.Buffer.ofText seed
    let signature ← Session.components.attempt (service.vault.sign tag challenge.bytes)
    pure (SessionKey.derive signature.bytes)

def encrypt (service : Service δ) (tag text : String) : Attempt (Session δ) Fault String := do
  let key ← service.sessionKey tag (.invalidArgument unconfiguredReason)
  let wire ← Session.components.attempt (service.codec.encrypt key text)
  Session.note .debug "payload encrypted"
  pure wire

def decrypt (service : Service δ) (tag wire : String) : Attempt (Session δ) Fault String := do
  let key ← service.sessionKey tag (.decrypt unconfiguredReason)
  let text ← Session.components.attempt (service.codec.decrypt key wire)
  Session.note .debug "payload decrypted"
  pure text

end Service

end PresenceSeal
