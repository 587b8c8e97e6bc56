import PresenceSeal.Cipher.Gcm
import PresenceSeal.Entropy
import PresenceSeal.Envelope.Basic
import PresenceSeal.Hash.Sha2
import PresenceSeal.Secret
import PresenceSeal.Text.Utf16

/-! Sealing and opening. Bytes are sealed under a key of 32 bytes and a freshly
drawn nonce; text is sealed as UTF-16 bytes and shown as the envelope's wire text.
The key is looked at before anything is drawn. -/
namespace PresenceSeal

namespace Envelope

/-- The key of a cipher, if it has the right length. -/
def cipherKey (key : List UInt8) : Except SealFault (Bytes 32) :=
  match Bytes.ofList? 32 key with
  | some key => .ok key
  | none => .error (.encryption s!"invalid key length: {key.length} bytes (expected 32)")

/-- Seals bytes under a nonce from the random source. Whether they are too many for the cipher
shows only when the nonce has been drawn. -/
def sealBytes (plaintext key : List UInt8) : Attempt Entropy SealFault Envelope := do
  let key ← Attempt.ofExcept (cipherKey key)
  let nonce ← (Entropy.draw 12).adapt fun reason =>
    SealFault.encryption ("nonce generation failed: " ++ reason)
  match Cipher.Gcm.encrypt? key nonce plaintext with
  | some (ciphertext, tag) => pure ⟨nonce, ciphertext, tag⟩
  | none => throw (.encryption "AES-256-GCM encryption failed")

/-- Verifies an envelope and takes the cipher off. -/
def openBytes (envelope : Envelope) (key : List UInt8) : Except SealFault Secret.Buffer :=
  match cipherKey key with
  | .error fault => .error fault
  | .ok key =>
    match Cipher.Gcm.decrypt? key envelope.nonce envelope.ciphertext envelope.tag with
    | some plaintext => .ok ⟨plaintext⟩
    | none => .error .decryption

end Envelope

def Secret.Buffer.ofText (text : String) : Secret.Buffer := ⟨Text.Utf16.encode text.toList⟩

def Secret.Buffer.text (buffer : Secret.Buffer) : Except SealFault String :=
  match Text.Utf16.decode buffer.bytes with
  | .ok text => .ok (String.ofList text)
  | .error defect => .error (.stringConversion defect.message)

/-- The key of one call. -/
abbrev SessionKey := Secret.Fixed 32

namespace SessionKey

/-- The digest of a signature. The signature is secret and bound to its device, so
it needs no salt; without one the same signature gives the same key again. -/
def derive (signature : List UInt8) : SessionKey := ⟨Hash.sha256 signature⟩

def sealText (key : SessionKey) (text : String) : Attempt Entropy SealFault String := do
  let envelope ← Envelope.sealBytes (Secret.Buffer.ofText text).bytes key.bytes.val
  pure envelope.toText

/-- Opens wire text: first its form, then its tag, then the text inside. -/
def openText (key : SessionKey) (wire : String) : Except SealFault String := do
  let envelope ← Envelope.ofText wire
  let payload ← envelope.openBytes key.bytes.val
  payload.text

end SessionKey

end PresenceSeal
