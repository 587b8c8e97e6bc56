import PresenceSeal.Service.Oracle

/-! The vault holds credentials by tag. Every operation first asks the oracle for
biometry, takes a foreground scope while the platform works and releases it on
every path. Deleting an absent credential succeeds. -/
namespace PresenceSeal

/-- The component that holds the credentials. -/
structure Vault (δ : Type) where
  create : (tag : String) → Attempt (Scene δ) Fault Unit
  delete : (tag : String) → Attempt (Scene δ) Fault Unit
  sign : (tag : String) → (challenge : List UInt8) → Attempt (Scene δ) Fault Secret.Buffer

namespace Vault

/-- Fails unless biometry is supported. -/
def ensureBiometry (oracle : Oracle δ) : Attempt (Scene δ) Fault Unit := do
  let status ← oracle.biometryStatus
  if status = .supported then pure ()
  else
    Scene.note .debug s!"biometry unavailable: {status.number}"
    throw .biometryNotSupported

/-- Works while a foreground scope is held. -/
def inForeground (keyring : Keyring δ) (x : Attempt (Scene δ) Fault α) :
    Attempt (Scene δ) Fault α := do
  let scope ← Scene.platform.always keyring.foreground
  x.endingWith (Scene.platform.lift scope.release)

/-- The answer of the platform to a request, which may be a refusal. -/
def answer (x : Attempt (Surroundings δ) Refusal α) :
    Attempt (Scene δ) Fault (Except Refusal α) :=
  (Scene.platform.attempt x).outcome

def createIn (keyring : Keyring δ) (prompt : Prompt) (tag : String) :
    Attempt (Scene δ) Fault Unit := do
  match ← answer (keyring.create tag prompt) with
  | .ok () => Scene.note .info "key credential created"
  | .error (.other raw) =>
    throw (.generateKey (Fault.statusReason "create credential" raw.toUInt32))
  | .error refusal => throw refusal.fault

/-- Deletes a credential, if there is one. -/
def deleteIn (keyring : Keyring δ) (tag : String) : Attempt (Scene δ) Fault Unit := do
  match ← answer (keyring.delete tag) with
  | .ok () => Scene.note .info "key credential deleted"
  | .error .notFound => Scene.note .warn "no key credential to delete"
  | .error (.other raw) =>
    throw (.deleteKey (Fault.statusReason "delete credential" raw.toUInt32))
  | .error refusal => throw refusal.fault

def signIn (credential : Credential δ) (prompt : Prompt) (challenge : List UInt8) :
    Attempt (Scene δ) Fault Secret.Buffer := do
  match ← answer (credential.sign challenge prompt) with
  | .ok signature =>
    Scene.note .debug s!"challenge signed: {signature.length} bytes"
    pure signature
  | .error refusal => throw refusal.fault

theorem run_inForeground {keyring : Keyring δ} {s held : Surroundings δ} {scope : Scope δ}
    (taken : keyring.foreground.run s = (scope, held)) (x : Attempt (Scene δ) Fault α)
    (journal : Journal) :
    (inForeground keyring x).run.run ⟨s, journal⟩ =
      let ran := x.run.run ⟨held, journal⟩
      (ran.1, ⟨(scope.release.run ran.2.surroundings).2, ran.2.journal⟩) := by
  rw [inForeground, Attempt.run_bind, Part.run_always]
  simp only [Scene.platform, taken]
  rfl

theorem run_answer (x : Attempt (Surroundings δ) Refusal α) (scene : Scene δ) :
    (answer x).run.run scene =
      (.ok (x.run.run scene.surroundings).1,
        { scene with surroundings := (x.run.run scene.surroundings).2 }) := rfl

theorem run_signIn (credential : Credential δ) (prompt : Prompt) (challenge : List UInt8)
    (scene : Scene δ) :
    ∃ journal, (signIn credential prompt challenge).run.run scene =
      let ran := (credential.sign challenge prompt).run.run scene.surroundings
      (ran.1.mapError Refusal.fault, ⟨ran.2, journal⟩) := by
  rw [signIn, Attempt.run_bind, run_answer]
  rcases (credential.sign challenge prompt).run.run scene.surroundings with ⟨refusal | _, after⟩
  · exact ⟨_, rfl⟩
  · exact ⟨_, rfl⟩

def ofKeyring (keyring : Keyring δ) (oracle : Oracle δ) (prompt : Prompt) : Vault δ where
  create tag := do
    ensureBiometry oracle
    inForeground keyring (createIn keyring prompt tag)
  delete tag := do
    ensureBiometry oracle
    inForeground keyring (deleteIn keyring tag)
  sign tag challenge := do
    ensureBiometry oracle
    let credential ← Oracle.asked (keyring.openCredential tag) Refusal.fault
    inForeground keyring (signIn credential prompt challenge)

end Vault

end PresenceSeal
