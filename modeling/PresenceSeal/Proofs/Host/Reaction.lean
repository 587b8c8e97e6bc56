import PresenceSeal.Proofs.Attempt.Keeps
import PresenceSeal.Proofs.Envelope.Sealing
import PresenceSeal.Proofs.Host.Wiring
import PresenceSeal.Proofs.Request.Exchange

/-! What a host does with a call: the outcome, the register and what is held
afterwards, one case for each way it can go. Laws about hosts are proved from these
cases; none of them looks at the service again. -/
namespace PresenceSeal

def Session.holdings (session : Session Station) : Holdings := session.scene.surroundings.holdings

namespace Host.Wiring

variable (w : Wiring)

/-- The ways in which the session key of a tag can be reached, or not. -/
inductive Keying (register : Register) (held : Holdings) (tag : String) (unconfigured : Fault) :
    Except Fault SessionKey → Holdings → Prop where
  | unconfigured : register.seed? = none →
      Keying register held tag unconfigured (.error unconfigured) held
  | answered {seed outcome after} : register.seed? = some seed →
      w.Signing held tag (Secret.Buffer.ofText seed).bytes outcome after →
      Keying register held tag unconfigured
        (outcome.map fun signature => SessionKey.derive signature.bytes) after

/-- The ways in which a call can go. -/
inductive Reaction (register : Register) (held : Holdings) :
    Call → Except Fault Json → Register → Holdings → Prop where
  | tpmStatus outcome : Reaction register held .getTpmStatus outcome register held
  | biometryStatus outcome : Reaction register held .getBiometryStatus outcome register held
  | generateKey {tag outcome after} : w.Creation held tag outcome after →
      Reaction register held (.generateKey tag) (outcome.map fun _ => .null) register after
  | deleteKey {tag outcome after} : w.Deletion held tag outcome after →
      Reaction register held (.deleteKey tag) (outcome.map fun _ => .null) register after
  | configure (seed) :
      Reaction register held (.configure seed) ((register.set seed).1.map fun _ => .null)
        (register.set seed).2 held
  | encryptKeyless {tag data fault after} :
      w.Keying register held tag (.invalidArgument Service.unconfiguredReason) (.error fault)
        after →
      Reaction register held (.encrypt tag data) (.error fault) register after
  | encrypt {tag data key keyed outcome rest} :
      w.Keying register held tag (.invalidArgument Service.unconfiguredReason) (.ok key) keyed →
      (key.sealText data).run.run keyed.entropy = (outcome, rest) →
      Reaction register held (.encrypt tag data)
        ((outcome.mapError Fault.ofSeal).map .string) register { keyed with entropy := rest }
  | decryptKeyless {tag data fault after} :
      w.Keying register held tag (.decrypt Service.unconfiguredReason) (.error fault) after →
      Reaction register held (.decrypt tag data) (.error fault) register after
  | decrypt {tag data key keyed} :
      w.Keying register held tag (.decrypt Service.unconfiguredReason) (.ok key) keyed →
      Reaction register held (.decrypt tag data)
        (((key.openText data).mapError Fault.ofSeal).map .string) register keyed

theorem probe_keeps :
    (Oracle.probe w.processor).Keeps fun scene => scene.surroundings.holdings :=
  Oracle.probe_keeps ⟨w.apart.acquire, w.apart.platformType, w.apart.release⟩

theorem biometry_keeps :
    (Oracle.biometry w.keyring).Keeps fun scene => scene.surroundings.holdings :=
  Oracle.biometry_keeps (fun _ => rfl) fun _ => rfl

theorem keying (tag : String) (unconfigured : Fault) (session : Session Station) :
    let ran := (w.service.sessionKey tag unconfigured).run.run session
    w.Keying session.register session.holdings tag unconfigured ran.1 ran.2.holdings ∧
      ran.2.register = session.register := by
  rw [Service.sessionKey, Attempt.run_get_bind]
  cases configured : session.register.seed? with
  | none => exact ⟨.unconfigured configured, rfl⟩
  | some seed =>
    have signed := w.signing tag (Secret.Buffer.ofText seed).bytes session.scene
    simp only []
    rw [Attempt.run_bind, Part.run_attempt]
    simp only [Session.components, service]
    cases ran : (w.vault.sign tag (Secret.Buffer.ofText seed).bytes).run.run session.scene with
    | mk outcome after =>
      rw [ran] at signed
      cases outcome with
      | error fault => exact ⟨.answered configured signed, rfl⟩
      | ok signature => exact ⟨.answered configured signed, rfl⟩

theorem barrier?_ne_keyNotFound : w.barrier? ≠ some .keyNotFound := by
  unfold barrier?
  split
  · nofun
  · split <;> nofun

theorem deletion_ne_keyNotFound {held after : Holdings} {tag : String}
    {outcome : Except Fault Unit} (deleted : w.Deletion held tag outcome after) :
    outcome ≠ .error .keyNotFound := by
  cases deleted with
  | barred barrier =>
    rintro ⟨⟩
    exact w.barrier?_ne_keyNotFound barrier
  | absent | deleted => nofun

/-- A call goes in one of its ways. -/
def Reacts (call : Call) (session : Session Station) : Prop :=
  let ran := (w.service.perform call).run.run session
  w.Reaction session.register session.holdings call ran.1 ran.2.register ran.2.holdings

theorem reacts_of_keeps {call : Call}
    (kept : (w.service.perform call).Keeps fun session => (session.register, session.holdings))
    (free : ∀ register held outcome, w.Reaction register held call outcome register held)
    (session : Session Station) : w.Reacts call session := by
  obtain ⟨sameRegister, sameHoldings⟩ := Prod.mk.inj (kept session)
  rw [Reacts, sameRegister, sameHoldings]
  exact free _ _ _

theorem getTpmStatus_reacts (session : Session Station) : w.Reacts .getTpmStatus session :=
  w.reacts_of_keeps (.bind (Service.tpmStatus_keeps w.probe_keeps) fun _ _ => rfl)
    (fun _ _ => .tpmStatus) session

theorem getBiometryStatus_reacts (session : Session Station) :
    w.Reacts .getBiometryStatus session :=
  w.reacts_of_keeps (.bind (Service.biometryStatus_keeps w.biometry_keeps) fun _ _ => rfl)
    (fun _ _ => .biometryStatus) session

theorem generateKey_reacts (tag : String) (session : Session Station) :
    w.Reacts (.generateKey tag) session := by
  have created := w.creation tag session.scene
  rw [Reacts, Service.perform, Attempt.run_bind, Service.generateKey, Part.run_attempt]
  simp only [Session.components, service]
  cases ran : (w.vault.create tag).run.run session.scene with
  | mk outcome after =>
    rw [ran] at created
    cases outcome with
    | error fault => exact .generateKey created
    | ok => exact .generateKey created

theorem deleteKey_reacts (tag : String) (session : Session Station) :
    w.Reacts (.deleteKey tag) session := by
  have deleted := w.deletion tag session.scene
  rw [Reacts, Service.perform, Attempt.run_bind, Service.deleteKey, Attempt.run_bind,
    Attempt.run_outcome, Part.run_attempt]
  simp only [Session.components, service]
  cases ran : (w.vault.delete tag).run.run session.scene with
  | mk outcome after =>
    rw [ran] at deleted
    cases outcome with
    | error fault =>
      -- The service would forgive an absent key, but the vault does so before it.
      by_cases absent : fault = .keyNotFound
      · exact absurd (congrArg Except.error absent) (w.deletion_ne_keyNotFound deleted)
      · cases fault <;> first | contradiction | exact .deleteKey deleted
    | ok => exact .deleteKey deleted

theorem encrypt_reacts (tag data : String) (session : Session Station) :
    w.Reacts (.encrypt tag data) session := by
  obtain ⟨keyed, same⟩ := w.keying tag (.invalidArgument Service.unconfiguredReason) session
  rw [Reacts, Service.perform, Attempt.run_bind, Service.encrypt, Attempt.run_bind]
  cases ran : (w.service.sessionKey tag (.invalidArgument Service.unconfiguredReason)).run.run
      session with
  | mk outcome after =>
    rw [ran] at keyed same
    simp only at keyed same
    cases outcome with
    | error fault =>
      simp only [same]
      exact .encryptKeyless keyed
    | ok key =>
      simp only []
      rw [Attempt.run_bind, Part.run_attempt]
      simp only [Session.components, service, Codec.ofEnvelopes]
      rw [Attempt.run_adapt, Part.run_attempt]
      cases sealed : (key.sealText data).run.run after.scene.surroundings.entropy with
      | mk wire rest =>
        simp only [Scene.entropy, sealed]
        have reacted : w.Reaction _ _ (.encrypt tag data) _ _ _ := .encrypt keyed sealed
        rw [← same] at reacted ⊢
        cases wire <;> exact reacted

theorem decrypt_reacts (tag data : String) (session : Session Station) :
    w.Reacts (.decrypt tag data) session := by
  obtain ⟨keyed, same⟩ := w.keying tag (.decrypt Service.unconfiguredReason) session
  rw [Reacts, Service.perform, Attempt.run_bind, Service.decrypt, Attempt.run_bind]
  cases ran : (w.service.sessionKey tag (.decrypt Service.unconfiguredReason)).run.run
      session with
  | mk outcome after =>
    rw [ran] at keyed same
    simp only at keyed same
    cases outcome with
    | error fault =>
      simp only [same]
      exact .decryptKeyless keyed
    | ok key =>
      simp only []
      rw [Attempt.run_bind, Part.run_attempt]
      simp only [Session.components, service, Codec.ofEnvelopes]
      rw [Attempt.run_ofExcept]
      have opened : w.Reaction _ _ (.decrypt tag data) _ _ _ := .decrypt keyed
      rw [← same] at opened ⊢
      cases text : key.openText data <;> rw [text] at opened <;> exact opened

theorem configure_reacts (seed : String) (session : Session Station) :
    w.Reacts (.configure seed) session := by
  have set : w.Reaction session.register session.holdings (.configure seed) _ _ _ :=
    .configure seed
  rw [Reacts, Service.perform, Attempt.run_bind, Service.configure, Attempt.run_get_bind]
  by_cases empty : seed.isEmpty
  · simp only [Register.set, empty, ↓reduceIte] at set ⊢
    exact set
  · simp only [Register.set, empty] at set ⊢
    exact set

theorem reacts (call : Call) (session : Session Station) : w.Reacts call session := by
  cases call with
  | getTpmStatus => exact w.getTpmStatus_reacts session
  | getBiometryStatus => exact w.getBiometryStatus_reacts session
  | generateKey tag => exact w.generateKey_reacts tag session
  | deleteKey tag => exact w.deleteKey_reacts tag session
  | encrypt tag data => exact w.encrypt_reacts tag data session
  | decrypt tag data => exact w.decrypt_reacts tag data session
  | configure seed => exact w.configure_reacts seed session

/-- A request that makes a call is answered by one of the ways in which the call can go. -/
theorem exchange_reacts {request : Request} {call : Call} (made : request.call? = some call)
    (session : Session Station) :
    ∃ outcome, (w.service.exchange request session).reply = .ofOutcome outcome ∧
      w.Reaction session.register session.holdings call outcome
        (w.service.exchange request session).after.register
        (w.service.exchange request session).after.holdings := by
  have reacted := w.reacts call (session.noting .debug "handling method call")
  rw [w.service.exchange_of_call made]
  revert reacted
  rw [Reacts]
  rcases (w.service.perform call).run.run _ with ⟨fault | result, after⟩
  · exact fun reacted => ⟨.error fault, rfl, reacted⟩
  · exact fun reacted => ⟨.ok result, rfl, reacted⟩

/-- A request that makes no call fails and leaves everything as it was. -/
theorem exchange_idle {request : Request} (made : request.call? = none)
    (session : Session Station) :
    (∀ result, (w.service.exchange request session).reply ≠ .success result) ∧
      (w.service.exchange request session).after.register = session.register ∧
      (w.service.exchange request session).after.holdings = session.holdings := by
  obtain ⟨reply, entries, failed, same⟩ := w.service.exchange_of_no_call made session
  rw [same]
  exact ⟨failed, rfl, rfl⟩

end Host.Wiring

end PresenceSeal
