import PresenceSeal.Host.Run
import PresenceSeal.Proofs.Platform.Software

/-! What the vault of a host does, one case for each way an operation can go. Only
what the host holds matters: its key pairs, the desk and the random source. What is
noted is left out. -/
namespace PresenceSeal

/-- What a host holds besides the seed. -/
structure Holdings where
  store : Store
  desk : Consent.Desk
  entropy : Entropy

def Surroundings.holdings (s : Surroundings Station) : Holdings :=
  ⟨s.device.store, s.device.desk, s.entropy⟩

/-- A security processor that has no part in credentials, consent and random bytes. -/
structure Processor.Apart (processor : Processor Station) : Prop where
  acquire : ∀ s, (processor.acquire.run.run s).2.holdings = s.holdings
  platformType : ∀ handle s, ((processor.platformType handle).run.run s).2.holdings = s.holdings
  release : ∀ handle s, ((processor.release handle).run s).2.holdings = s.holdings

theorem Processor.fixed_apart (platformType : String) : (fixed platformType).Apart :=
  ⟨fun _ => rfl, fun _ _ => rfl, fun _ _ => rfl⟩

theorem Processor.absent_apart : absent.Apart :=
  ⟨fun _ => rfl, fun _ _ => rfl, fun _ _ => rfl⟩

theorem Processor.classFolder_apart (folder : Option Folder) : (classFolder folder).Apart := by
  refine ⟨?_, ?_, fun _ _ => rfl⟩
  · intro s
    cases folder <;> rfl
  · intro handle s
    simp only [classFolder]
    split <;> rfl

theorem Host.processor_apart (settings : Settings.Tpm) (folder : Option Processor.Folder) :
    (Host.processor settings folder).Apart := by
  unfold Host.processor
  split
  · exact Processor.classFolder_apart folder
  · exact Processor.fixed_apart _
  · exact Processor.absent_apart

namespace Host

/-- What a service over the keyring in memory is made of. -/
structure Wiring where
  processor : Processor Station
  apart : processor.Apart
  supported : Bool
  availability : Availability
  prompt : Prompt

namespace Wiring

variable (w : Wiring)

def keyring : Keyring Station := Keyring.software w.supported w.availability

def oracle : Oracle Station := Oracle.ofPlatform w.processor w.keyring

def vault : Vault Station := Vault.ofKeyring w.keyring w.oracle w.prompt

def service : Service Station := ⟨w.oracle, w.vault, Codec.ofEnvelopes⟩

def ofSettings (settings : Settings) (folder : Option Processor.Folder) : Wiring where
  processor := Host.processor settings.tpm folder
  apart := Host.processor_apart settings.tpm folder
  supported := settings.biometry.supported
  availability := settings.biometry.availability.availability
  prompt := settings.consent.prompt

theorem service_ofSettings (settings : Settings) (folder : Option Processor.Folder) :
    (ofSettings settings folder).service = Host.service settings folder := rfl

def Biometric : Prop := w.supported = true ∨ w.availability = .available

/-- The fault of every operation on credentials where biometry is not supported. -/
def barrier? : Option Fault :=
  if w.supported then none
  else
    match w.availability with
    | .available => none
    | .other raw => some (.unknown ("unmapped consent verifier availability " ++
        String.ofList (Text.signedDecimal raw.toInt)))
    | _ => some .biometryNotSupported

theorem barrier?_eq_none_iff : w.barrier? = none ↔ w.Biometric := by
  unfold barrier? Biometric
  cases w.supported <;> cases w.availability <;> simp

theorem run_ensureBiometry (scene : Scene Station) :
    ∃ journal, (Vault.ensureBiometry w.oracle).run.run scene =
      (match w.barrier? with
        | none => .ok ()
        | some fault => .error fault, { scene with journal }) := by
  obtain ⟨processor, apart, supported, availability, prompt⟩ := w
  cases supported with
  | true => exact ⟨_, rfl⟩
  | false => cases availability <;> exact ⟨_, rfl⟩

/-- The keyring in memory has nothing to release. -/
theorem run_inForeground (x : Attempt (Scene Station) Fault α) (scene : Scene Station) :
    (Vault.inForeground w.keyring x).run.run scene = x.run.run scene := rfl

/-- A vault operation comes to its work only where biometry is supported. -/
theorem run_guarded (work : Attempt (Scene Station) Fault α) (scene : Scene Station) :
    ∃ journal, (Vault.ensureBiometry w.oracle >>= fun _ => work).run.run scene =
      match w.barrier? with
      | none => work.run.run { scene with journal }
      | some fault => (.error fault, { scene with journal }) := by
  obtain ⟨journal, checked⟩ := w.run_ensureBiometry scene
  refine ⟨journal, ?_⟩
  rw [Attempt.run_bind, checked]
  cases w.barrier? <;> rfl

/-- The fault of a creation that the platform refused. -/
def creationFault : Refusal → Fault
  | .other raw => .generateKey (Fault.statusReason "create credential" raw.toUInt32)
  | refusal => refusal.fault

/-- The ways in which a creation can go. -/
inductive Creation (held : Holdings) (tag : String) : Except Fault Unit → Holdings → Prop where
  | barred {fault} : w.barrier? = some fault → Creation held tag (.error fault) held
  | taken : w.barrier? = none → held.store.contains tag →
      Creation held tag (.error .keyAlreadyExists) held
  | refused {refusal desk} : w.barrier? = none → ¬ held.store.contains tag →
      held.desk.answer w.prompt = (.error refusal, desk) →
      Creation held tag (.error (creationFault refusal)) { held with desk }
  | exhausted {desk} : w.barrier? = none → ¬ held.store.contains tag →
      held.desk.answer w.prompt = (.ok (), desk) → held.entropy.draw? 32 = none →
      Creation held tag (.error (Refusal.fault .unknownError)) { held with desk }
  | created {desk seed rest} : w.barrier? = none → ¬ held.store.contains tag →
      held.desk.answer w.prompt = (.ok (), desk) → held.entropy.draw? 32 = some (seed, rest) →
      Creation held tag (.ok ()) ⟨held.store.insert tag ⟨seed⟩, desk, rest⟩

inductive Deletion (held : Holdings) (tag : String) : Except Fault Unit → Holdings → Prop where
  | barred {fault} : w.barrier? = some fault → Deletion held tag (.error fault) held
  | absent : w.barrier? = none → ¬ held.store.contains tag → Deletion held tag (.ok ()) held
  | deleted : w.barrier? = none → held.store.contains tag →
      Deletion held tag (.ok ()) { held with store := held.store.erase tag }

inductive Signing (held : Holdings) (tag : String) (challenge : List UInt8) :
    Except Fault Secret.Buffer → Holdings → Prop where
  | barred {fault} : w.barrier? = some fault → Signing held tag challenge (.error fault) held
  | absent : w.barrier? = none → held.store.find? tag = none →
      Signing held tag challenge (.error .keyNotFound) held
  | refused {pair refusal desk} : w.barrier? = none → held.store.find? tag = some pair →
      held.desk.answer w.prompt = (.error refusal, desk) →
      Signing held tag challenge (.error refusal.fault) { held with desk }
  | signed {pair desk} : w.barrier? = none → held.store.find? tag = some pair →
      held.desk.answer w.prompt = (.ok (), desk) →
      Signing held tag challenge (.ok ⟨(pair.sign challenge).val⟩) { held with desk }

theorem run_createIn {δ : Type} (keyring : Keyring δ) (prompt : Prompt) (tag : String)
    (scene : Scene δ) :
    ∃ journal, (Vault.createIn keyring prompt tag).run.run scene =
      let ran := (keyring.create tag prompt).run.run scene.surroundings
      (ran.1.mapError creationFault, ⟨ran.2, journal⟩) := by
  rw [Vault.createIn, Attempt.run_bind, Vault.run_answer]
  rcases (keyring.create tag prompt).run.run scene.surroundings with ⟨refusal | _, after⟩
  · cases refusal <;> exact ⟨_, rfl⟩
  · exact ⟨_, rfl⟩

theorem creation (tag : String) (scene : Scene Station) :
    w.Creation scene.surroundings.holdings tag ((w.vault.create tag).run.run scene).1
      ((w.vault.create tag).run.run scene).2.surroundings.holdings := by
  obtain ⟨checked, guarded⟩ := w.run_guarded
    (Vault.inForeground w.keyring (Vault.createIn w.keyring w.prompt tag)) scene
  have ran : (w.vault.create tag).run.run scene = _ := guarded
  rw [ran]
  cases barrier : w.barrier? with
  | some fault => exact .barred barrier
  | none =>
    simp only [run_inForeground]
    obtain ⟨noted, created⟩ := run_createIn w.keyring w.prompt tag { scene with journal := checked }
    rw [created]
    simp only [keyring, Keyring.run_create]
    by_cases taken : scene.surroundings.device.store.contains tag
    · simp only [taken, ↓reduceIte]
      exact .taken barrier taken
    · simp only [taken, Bool.false_eq_true, ↓reduceIte]
      cases answered : scene.surroundings.device.desk.answer w.prompt with
      | mk outcome desk =>
        cases outcome with
        | error refusal => exact .refused barrier taken answered
        | ok =>
          simp only [Station.run_install, Station.atDesk]
          cases drawn : scene.surroundings.entropy.draw? 32 with
          | none => exact .exhausted barrier taken answered drawn
          | some draw =>
            simp only [taken]
            exact .created barrier taken answered drawn

/-- The outcome of a deletion that the platform has answered: that there was nothing to
delete is no failure. -/
def deletionOutcome : Except Refusal Unit → Except Fault Unit
  | .ok () | .error .notFound => .ok ()
  | .error (.other raw) =>
    .error (.deleteKey (Fault.statusReason "delete credential" raw.toUInt32))
  | .error refusal => .error refusal.fault

theorem run_deleteIn {δ : Type} (keyring : Keyring δ) (tag : String) (scene : Scene δ) :
    ∃ journal, (Vault.deleteIn keyring tag).run.run scene =
      let ran := (keyring.delete tag).run.run scene.surroundings
      (deletionOutcome ran.1, ⟨ran.2, journal⟩) := by
  rw [Vault.deleteIn, Attempt.run_bind, Vault.run_answer]
  rcases (keyring.delete tag).run.run scene.surroundings with ⟨refusal | _, after⟩
  · cases refusal <;> exact ⟨_, rfl⟩
  · exact ⟨_, rfl⟩

theorem deletion (tag : String) (scene : Scene Station) :
    w.Deletion scene.surroundings.holdings tag ((w.vault.delete tag).run.run scene).1
      ((w.vault.delete tag).run.run scene).2.surroundings.holdings := by
  obtain ⟨checked, guarded⟩ := w.run_guarded
    (Vault.inForeground w.keyring (Vault.deleteIn w.keyring tag)) scene
  have ran : (w.vault.delete tag).run.run scene = _ := guarded
  rw [ran]
  cases barrier : w.barrier? with
  | some fault => exact .barred barrier
  | none =>
    simp only [run_inForeground]
    obtain ⟨noted, deleted⟩ := run_deleteIn w.keyring tag { scene with journal := checked }
    rw [deleted]
    simp only [keyring, Keyring.run_delete]
    by_cases present : scene.surroundings.device.store.contains tag
    · simp only [present, ↓reduceIte]
      exact .deleted barrier present
    · simp only [present, Bool.false_eq_true, ↓reduceIte]
      exact .absent barrier present

theorem signing (tag : String) (challenge : List UInt8) (scene : Scene Station) :
    w.Signing scene.surroundings.holdings tag challenge
      ((w.vault.sign tag challenge).run.run scene).1
      ((w.vault.sign tag challenge).run.run scene).2.surroundings.holdings := by
  obtain ⟨checked, guarded⟩ := w.run_guarded (do
    let credential ← Oracle.asked (w.keyring.openCredential tag) Refusal.fault
    Vault.inForeground w.keyring (Vault.signIn credential w.prompt challenge)) scene
  have ran : (w.vault.sign tag challenge).run.run scene = _ := guarded
  rw [ran]
  cases barrier : w.barrier? with
  | some fault => exact .barred barrier
  | none =>
    simp only []
    rw [Attempt.run_bind, Oracle.run_asked]
    simp only [keyring, Keyring.run_openCredential]
    cases found : scene.surroundings.device.store.find? tag with
    | none => exact .absent barrier found
    | some pair =>
      have unscoped := w.run_inForeground
        (Vault.signIn ⟨tag, Station.sign pair⟩ w.prompt challenge) { scene with journal := checked }
      obtain ⟨noted, signed⟩ := Vault.run_signIn ⟨tag, Station.sign pair⟩ w.prompt challenge
        { scene with journal := checked }
      simp only []
      rw [keyring] at unscoped
      rw [unscoped, signed]
      simp only [Station.run_sign]
      cases answered : scene.surroundings.device.desk.answer w.prompt with
      | mk outcome desk =>
        cases outcome with
        | error refusal => exact .refused barrier found answered
        | ok => exact .signed barrier found answered

end Wiring

end Host

end PresenceSeal
