import PresenceSeal.Proofs.Platform.Watched
import PresenceSeal.Proofs.Request.Arguments

/-! The stages of encryption and decryption: arguments, seed, biometry, credential,
signature, codec. The first that fails decides, and what comes after it is not asked. -/
namespace PresenceSeal

/-- The stages of encryption and decryption, in their order. -/
inductive Stage where
  | arguments
  | register
  | biometry
  | credential
  | signature
  | codec
  deriving DecidableEq

/-- The two ways through the codec. -/
inductive Direction where
  | encrypt
  | decrypt
  deriving DecidableEq

namespace Direction

def method : Direction → Method
  | encrypt => .encrypt
  | decrypt => .decrypt

def call : Direction → (tag data : String) → Call
  | encrypt => .encrypt
  | decrypt => .decrypt

/-- The fault of a call without a seed. -/
def unconfigured : Direction → Fault
  | encrypt => .invalidArgument Service.unconfiguredReason
  | decrypt => .decrypt Service.unconfiguredReason

/-- What is noted of a call that came off. -/
def done : Direction → String
  | encrypt => "payload encrypted"
  | decrypt => "payload decrypted"

theorem tag_of_call {direction : Direction} {tag tag' data data' : String}
    (same : direction.call tag data = direction.call tag' data') : tag = tag' := by
  cases direction with
  | encrypt => exact (Call.encrypt.inj same).1
  | decrypt => exact (Call.decrypt.inj same).1

def translate (codec : Codec δ) : Direction → SessionKey → String → Attempt (Scene δ) Fault String
  | encrypt => codec.encrypt
  | decrypt => codec.decrypt

theorem call_eq (direction : Direction) (arguments : Option Json) :
    direction.method.call arguments = (do
      let members ← direction.method.members arguments
      let tag ← Argument.tag.text members
      let data ← Argument.data.text members
      pure (direction.call tag data)) := by
  cases direction <;> rfl

/-- Arguments of an encryption or a decryption are a tag and a text, or they are invalid. -/
theorem call_or_invalid (direction : Direction) (arguments : Option Json) :
    (∃ tag data, direction.method.call arguments = .ok (direction.call tag data)) ∨
      ∃ reason, direction.method.call arguments = .error (.invalidArgument reason) := by
  cases called : direction.method.call arguments with
  | error fault =>
    obtain ⟨reason, rfl⟩ := Method.invalid_of_call called
    exact .inr ⟨reason, rfl⟩
  | ok call =>
    have method := Method.method_of_call called
    cases direction <;> cases call <;> cases method <;> exact .inl ⟨_, _, rfl⟩

/-- A request that makes a call of this direction names its method, with the right arguments. -/
theorem of_call? (direction : Direction) {request : Request} {tag data : String}
    (made : request.call? = some (direction.call tag data)) :
    Method.ofName? request.name = some direction.method ∧
      direction.method.call request.arguments = .ok (direction.call tag data) := by
  obtain ⟨method, named, called⟩ := Request.call?_eq_some_iff.mp made
  obtain rfl : direction.method = method := by
    rw [← Method.method_of_call called]
    cases direction <;> rfl
  exact ⟨named, called⟩

end Direction

namespace Service

variable (service : Service δ)

theorem run_sessionKey (tag : String) (unconfigured : Fault) (session : Session δ) :
    (service.sessionKey tag unconfigured).run.run session =
      match session.register.seed? with
      | none =>
        (.error unconfigured, session.noting .debug "cipher call rejected: not configured")
      | some seed =>
        let ran := (service.vault.sign tag (Text.Utf16.encode seed.toList)).run.run session.scene
        (ran.1.map fun signature => .derive signature.bytes, { session with scene := ran.2 }) := by
  rw [sessionKey, Attempt.run_get_bind]
  cases session.register.seed? with
  | none => rfl
  | some seed =>
    simp only [Attempt.run_bind, Part.run_attempt, Session.components, Secret.Buffer.ofText]
    rcases (service.vault.sign tag (Text.Utf16.encode seed.toList)).run.run session.scene with
      ⟨fault | signature, after⟩
    · rfl
    · rfl

theorem perform_call (direction : Direction) (tag data : String) :
    service.perform (direction.call tag data) =
      (service.sessionKey tag direction.unconfigured >>= fun key =>
        Session.components.attempt (direction.translate service.codec key data) >>= fun text =>
          Session.note .debug direction.done >>= fun _ => pure text) >>= fun text =>
            pure (.string text) := by
  cases direction <;> rfl

/-- The codec is asked once there is a key, and the register stays as it is. -/
theorem run_cipher (direction : Direction) (tag data : String) (session : Session δ) :
    ∃ journal, (service.perform (direction.call tag data)).run.run session =
      match (service.sessionKey tag direction.unconfigured).run.run session with
      | (.error fault, after) => (.error fault, after)
      | (.ok key, keyed) =>
        let ran := (direction.translate service.codec key data).run.run keyed.scene
        (ran.1.map .string, ⟨⟨ran.2.surroundings, journal⟩, keyed.register⟩) := by
  rw [perform_call, Attempt.run_bind, Attempt.run_bind]
  rcases (service.sessionKey tag direction.unconfigured).run.run session with ⟨fault | key, keyed⟩
  · exact ⟨[], rfl⟩
  · simp only []
    rw [Attempt.run_bind, Part.run_attempt]
    simp only [Session.components]
    rcases (direction.translate service.codec key data).run.run keyed.scene with
      ⟨fault | text, scene⟩
    · exact ⟨scene.journal, rfl⟩
    · exact ⟨⟨.debug, direction.done⟩ :: scene.journal, rfl⟩

/-- The reply to a request that reaches for a key, and what is left behind it. -/
theorem exchange_of_cipher {direction : Direction} {request : Request} {tag data : String}
    (called : request.call? = some (direction.call tag data)) (session : Session δ) :
    let x := service.exchange request session
    let keyed := (service.sessionKey tag direction.unconfigured).run.run
      (session.noting .debug "handling method call")
    x.after.register = keyed.2.register ∧
      match keyed.1 with
      | .error fault =>
        x.reply = .ofFault fault ∧ x.after.scene.surroundings = keyed.2.scene.surroundings
      | .ok key =>
        let ran := (direction.translate service.codec key data).run.run keyed.2.scene
        x.reply = .ofOutcome (ran.1.map .string) ∧
          x.after.scene.surroundings = ran.2.surroundings := by
  obtain ⟨journal, ran⟩ := service.run_cipher direction tag data
    (session.noting .debug "handling method call")
  rw [service.exchange_of_call called, ran]
  rcases (service.sessionKey tag direction.unconfigured).run.run
    (session.noting .debug "handling method call") with ⟨fault | key, keyed⟩
  · exact ⟨rfl, rfl, rfl⟩
  · simp only []
    rcases (direction.translate service.codec key data).run.run keyed.scene with
      ⟨fault | text, scene⟩
    · exact ⟨rfl, rfl, rfl⟩
    · exact ⟨rfl, rfl, rfl⟩

end Service

namespace Stack

/-- How biometry is asked for: for support, and without it for the consent verifier. -/
inductive Probing (keyring : Keyring δ) (s : Surroundings δ) :
    List Contact → Except Fault Unit → Surroundings δ → Prop where
  | supported {after} : keyring.isSupported.run s = (true, after) →
      Probing keyring s [.isSupported] (.ok ()) after
  | available {asked after} : keyring.isSupported.run s = (false, asked) →
      keyring.availability.run asked = (.available, after) →
      Probing keyring s [.isSupported, .availability] (.ok ()) after
  | unavailable {asked answer after} : keyring.isSupported.run s = (false, asked) →
      keyring.availability.run asked = (answer, after) →
      answer ≠ .available → (∀ raw, answer ≠ .other raw) →
      Probing keyring s [.isSupported, .availability] (.error .biometryNotSupported) after
  | unmapped {asked raw after} : keyring.isSupported.run s = (false, asked) →
      keyring.availability.run asked = (.other raw, after) →
      Probing keyring s [.isSupported, .availability]
        (.error (.unknown ("unmapped consent verifier availability " ++
          String.ofList (Text.signedDecimal raw.toInt)))) after

/-- How a signature is asked for once there is a challenge, and the stage that is reached. -/
inductive Signing (stack : Stack δ) (tag : String) (challenge : List UInt8) (s : Surroundings δ) :
    Stage → List Contact → Except Fault Secret.Buffer → Surroundings δ → Prop where
  | barred {contacts fault after} : Probing stack.keyring s contacts (.error fault) after →
      Signing stack tag challenge s .biometry contacts (.error fault) after
  | unopened {contacts probed refusal after} : Probing stack.keyring s contacts (.ok ()) probed →
      (stack.keyring.openCredential tag).run.run probed = (.error refusal, after) →
      Signing stack tag challenge s .credential (contacts ++ [.openCredential tag])
        (.error refusal.fault) after
  | answered {contacts probed credential opened scope held answer signed} :
      Probing stack.keyring s contacts (.ok ()) probed →
      (stack.keyring.openCredential tag).run.run probed = (.ok credential, opened) →
      stack.keyring.foreground.run opened = (scope, held) →
      (credential.sign challenge stack.prompt).run.run held = (answer, signed) →
      Signing stack tag challenge s .signature
        (contacts ++ [.openCredential tag, .foreground,
          .sign credential.name challenge stack.prompt] ++ scope.contacts)
        (answer.mapError Refusal.fault) (scope.release.run signed).2

/-- The course of a request to encrypt or decrypt: the stage at which it ends, what the
platform is asked, the reply, and the surroundings that are left. -/
inductive Course (stack : Stack δ) (codec : Codec δ) (direction : Direction) (request : Request)
    (register : Register) (s : Surroundings δ) :
    Stage → List Contact → Reply → Surroundings δ → Prop where
  | arguments {reason} :
      direction.method.call request.arguments = .error (.invalidArgument reason) →
      Course stack codec direction request register s .arguments []
        (.error .invalidArgument ("invalid argument: " ++ reason)) s
  | unconfigured {tag data} : request.call? = some (direction.call tag data) →
      register.seed? = none →
      Course stack codec direction request register s .register []
        (.ofFault direction.unconfigured) s
  | unsigned {tag data seed stage contacts fault after} :
      request.call? = some (direction.call tag data) → register.seed? = some seed →
      Signing stack tag (Text.Utf16.encode seed.toList) s stage contacts (.error fault) after →
      Course stack codec direction request register s stage contacts (.ofFault fault) after
  | translated {tag data seed stage contacts signature signed journal outcome after journal'} :
      request.call? = some (direction.call tag data) → register.seed? = some seed →
      Signing stack tag (Text.Utf16.encode seed.toList) s stage contacts (.ok signature) signed →
      (direction.translate codec (.derive signature.bytes) data).run.run ⟨signed, journal⟩ =
        (outcome, ⟨after, journal'⟩) →
      Course stack codec direction request register s .codec contacts
        (.ofOutcome (outcome.map .string)) after

variable (stack : Stack δ)

theorem probing (scene : Scene δ) :
    ∃ contacts outcome after journal,
      (Vault.ensureBiometry stack.oracle).run.run scene = (outcome, ⟨after, journal⟩) ∧
        Probing stack.keyring scene.surroundings contacts outcome after := by
  obtain ⟨s, journal⟩ := scene
  rw [Vault.ensureBiometry, Attempt.run_bind, oracle, Oracle.ofPlatform, Oracle.biometry]
  simp only []
  rw [Attempt.run_bind, Part.run_always]
  simp only [Scene.platform]
  obtain ⟨support, asked, supported⟩ : ∃ support asked,
      stack.keyring.isSupported.run s = (support, asked) := ⟨_, _, rfl⟩
  simp only [supported]
  cases support with
  | true => exact ⟨_, _, _, _, rfl, .supported supported⟩
  | false =>
    simp only [Bool.false_eq_true, ↓reduceIte]
    rw [Attempt.run_bind, Part.run_always]
    obtain ⟨answer, after, answered⟩ : ∃ answer after,
        stack.keyring.availability.run asked = (answer, after) := ⟨_, _, rfl⟩
    simp only [answered]
    cases answer with
    | available => exact ⟨_, _, _, _, rfl, .available supported answered⟩
    | other raw => exact ⟨_, _, _, _, rfl, .unmapped supported answered⟩
    | _ =>
      exact ⟨_, _, _, _, rfl, .unavailable supported answered (by simp) (by simp)⟩

theorem signing (tag : String) (challenge : List UInt8) (scene : Scene δ) :
    ∃ stage contacts outcome after journal,
      (stack.vault.sign tag challenge).run.run scene = (outcome, ⟨after, journal⟩) ∧
        Signing stack tag challenge scene.surroundings stage contacts outcome after := by
  obtain ⟨contacts, outcome, probed, noted, ran, probing⟩ := stack.probing scene
  rw [vault, Vault.ofKeyring]
  simp only []
  rw [Attempt.run_bind, ran]
  cases outcome with
  | error fault => exact ⟨_, _, _, _, _, rfl, .barred probing⟩
  | ok =>
    simp only []
    rw [Attempt.run_bind, Oracle.run_asked]
    obtain ⟨answer, opened, opening⟩ : ∃ answer opened,
        (stack.keyring.openCredential tag).run.run probed = (answer, opened) := ⟨_, _, rfl⟩
    simp only [opening]
    cases answer with
    | error refusal => exact ⟨_, _, _, _, _, rfl, .unopened probing opening⟩
    | ok credential =>
      obtain ⟨scope, held, taken⟩ : ∃ scope held,
          stack.keyring.foreground.run opened = (scope, held) := ⟨_, _, rfl⟩
      obtain ⟨answer, signed, asked⟩ : ∃ answer signed,
          (credential.sign challenge stack.prompt).run.run held = (answer, signed) := ⟨_, _, rfl⟩
      obtain ⟨journal, signs⟩ := Vault.run_signIn credential stack.prompt challenge ⟨held, noted⟩
      simp only []
      rw [Vault.run_inForeground taken, signs]
      simp only [asked]
      exact ⟨_, _, _, _, _, rfl, .answered probing opening taken asked⟩

/-- Every request to encrypt or decrypt takes its course. -/
theorem course (codec : Codec δ) {direction : Direction} {request : Request}
    (named : Method.ofName? request.name = some direction.method) (session : Session δ) :
    let x := (stack.service codec).exchange request session
    ∃ stage contacts, Course stack codec direction request session.register
        session.scene.surroundings stage contacts x.reply x.after.scene.surroundings ∧
      x.after.register = session.register := by
  intro x
  rcases direction.call_or_invalid request.arguments with ⟨tag, data, made⟩ | ⟨reason, failed⟩
  · have called : request.call? = _ := Request.call?_of_call named made
    have answered := (stack.service codec).exchange_of_cipher called session
    rw [Service.run_sessionKey] at answered
    cases seeded : session.register.seed? with
    | none =>
      have missing : (session.noting .debug "handling method call").register.seed? = none := seeded
      simp only [missing] at answered
      obtain ⟨register, reply, after⟩ := answered
      refine ⟨.register, [], ?_, register⟩
      rw [reply, after]
      exact .unconfigured called seeded
    | some seed =>
      have found :
          (session.noting .debug "handling method call").register.seed? = some seed := seeded
      obtain ⟨stage, contacts, outcome, signed, journal, ran, signing⟩ := stack.signing tag
        (Text.Utf16.encode seed.toList) (session.noting .debug "handling method call").scene
      have vault : (stack.service codec).vault = stack.vault := rfl
      simp only [found, vault, ran] at answered
      cases outcome with
      | error fault =>
        obtain ⟨register, reply, after⟩ := answered
        refine ⟨stage, contacts, ?_, register⟩
        rw [reply, after]
        exact .unsigned called seeded signing
      | ok signature =>
        obtain ⟨register, reply, after⟩ := answered
        refine ⟨.codec, contacts, ?_, register⟩
        rw [reply, after]
        exact .translated called seeded signing rfl
  · have ended := (stack.service codec).exchange_of_fault named failed session
    refine ⟨.arguments, [], ?_, ?_⟩
    · rw [show x = _ from ended]
      exact .arguments failed
    · rw [show x = _ from ended]
      rfl

end Stack

end PresenceSeal
