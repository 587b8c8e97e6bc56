import PresenceSeal.Platform.Software
import PresenceSeal.Proofs.Service.Stages
import PresenceSeal.Service.Fixed

/-! What comes of the components' faults. Around any three components a recorder writes down
what they are asked and what they answer, and changes nothing else. By that record the first
operation that fails is the last one, and its fault is the reply: nothing is forgiven but
what makes a status of the processor, and that there is nothing to delete. -/
namespace PresenceSeal

/-- One operation that was asked of a component, and the answer. -/
inductive Asked where
  | platformStatus (answer : Except Fault TpmStatus)
  | biometryStatus (answer : Except Fault BiometryStatus)
  | create (tag : String) (answer : Except Fault Unit)
  | delete (tag : String) (answer : Except Fault Unit)
  | sign (tag : String) (challenge : List UInt8) (answer : Except Fault Secret.Buffer)
  | translate (direction : Direction) (key : SessionKey) (data : String)
      (answer : Except Fault String)

namespace Asked

def fault? : Asked → Option Fault
  | platformStatus (.error fault) | biometryStatus (.error fault) | create _ (.error fault)
  | delete _ (.error fault) | sign _ _ (.error fault) | translate _ _ _ (.error fault) =>
    some fault
  | _ => none

/-- The faults that are forgiven, with the result that each is answered as. -/
def forgiven? : Asked → Option Json
  | platformStatus (.error (.tpmUnsupported _)) => some (.int 1)
  | platformStatus (.error (.tpmVersion _)) => some (.int 2)
  | delete _ (.error .keyNotFound) => some .null
  | _ => none

end Asked

/-- The ways in which a call can go: what the components are asked, and what comes of it. -/
inductive Relay (register : Register) : Call → List Asked → Except Fault Json → Prop where
  | status (status) :
      Relay register .getTpmStatus [.platformStatus (.ok status)] (.ok (.int status.number))
  | forgivenStatus {fault result} :
      (Asked.platformStatus (.error fault)).forgiven? = some result →
      Relay register .getTpmStatus [.platformStatus (.error fault)] (.ok result)
  | noStatus {fault} : (Asked.platformStatus (.error fault)).forgiven? = none →
      Relay register .getTpmStatus [.platformStatus (.error fault)] (.error fault)
  | biometry (answer) :
      Relay register .getBiometryStatus [.biometryStatus answer]
        (answer.map fun status => .int status.number)
  | creation (tag answer) :
      Relay register (.generateKey tag) [.create tag answer] (answer.map fun _ => .null)
  | deletion {tag answer} : (Asked.delete tag answer).forgiven? = none →
      Relay register (.deleteKey tag) [.delete tag answer] (answer.map fun _ => .null)
  | forgivenDeletion {tag answer result} : (Asked.delete tag answer).forgiven? = some result →
      Relay register (.deleteKey tag) [.delete tag answer] (.ok result)
  | configuration (seed) :
      Relay register (.configure seed) [] ((register.set seed).1.map fun _ => .null)
  | unconfigured (direction : Direction) (tag data) : register.seed? = none →
      Relay register (direction.call tag data) [] (.error direction.unconfigured)
  | unsigned (direction : Direction) {tag data seed fault} : register.seed? = some seed →
      Relay register (direction.call tag data)
        [.sign tag (Text.Utf16.encode seed.toList) (.error fault)] (.error fault)
  | translated (direction : Direction) {tag data seed signature answer} :
      register.seed? = some seed →
      Relay register (direction.call tag data)
        [.sign tag (Text.Utf16.encode seed.toList) (.ok signature),
          .translate direction (.derive signature.bytes) data answer]
        (answer.map .string)

/-! ### The recorder -/

/-- A device, and what the components were asked, in order. -/
structure Recorded (δ : Type) where
  device : δ
  asked : List Asked := []

namespace Recorded

/-- The scene without the record. -/
def within : Part (Scene (Recorded δ)) (Scene δ) where
  get scene := ⟨⟨scene.surroundings.device.device, scene.surroundings.entropy⟩, scene.journal⟩
  set inner scene :=
    ⟨⟨{ scene.surroundings.device with device := inner.surroundings.device },
      inner.surroundings.entropy⟩, inner.journal⟩

def note (asked : Asked) (scene : Scene (Recorded δ)) : Scene (Recorded δ) :=
  ⟨⟨{ scene.surroundings.device with asked := scene.surroundings.device.asked ++ [asked] },
    scene.surroundings.entropy⟩, scene.journal⟩

/-- Carries out an operation, and writes it down with its answer. -/
def recording (entry : Except Fault α → Asked) (x : Attempt (Scene δ) Fault α) :
    Attempt (Scene (Recorded δ)) Fault α := ExceptT.mk do
  let answer ← within.lift x.run
  modify (note (entry answer))
  pure answer

end Recorded

open Recorded (within recording)

/-- The service whose components are recorded. -/
def Service.recorded (service : Service δ) : Service (Recorded δ) where
  oracle := {
    platformStatus := recording .platformStatus service.oracle.platformStatus
    biometryStatus := recording .biometryStatus service.oracle.biometryStatus }
  vault := {
    create tag := recording (.create tag) (service.vault.create tag)
    delete tag := recording (.delete tag) (service.vault.delete tag)
    sign tag challenge := recording (.sign tag challenge) (service.vault.sign tag challenge) }
  codec := {
    encrypt key text := recording (.translate .encrypt key text) (service.codec.encrypt key text)
    decrypt key wire := recording (.translate .decrypt key wire) (service.codec.decrypt key wire) }

namespace Session

variable (session : Session (Recorded δ))

/-- A session without the record. -/
def unrecorded : Session δ := ⟨within.get session.scene, session.register⟩

def asked : List Asked := session.scene.surroundings.device.asked

end Session

/-- A recorded attempt comes to what the bare one comes to, and `post` holds of what was
written down and of the outcome. -/
def Traced (recorded : Attempt (Session (Recorded δ)) Fault α)
    (bare : Attempt (Session δ) Fault α) (session : Session (Recorded δ))
    (post : List Asked → Except Fault α → Prop) : Prop :=
  ∃ asked outcome after, recorded.run.run session = (outcome, after) ∧
    bare.run.run session.unrecorded = (outcome, after.unrecorded) ∧
    after.asked = session.asked ++ asked ∧ post asked outcome

namespace Traced

variable {recorded : Attempt (Session (Recorded δ)) Fault α} {bare : Attempt (Session δ) Fault α}
  {session : Session (Recorded δ)} {post : List Asked → Except Fault α → Prop}

theorem pure {a : α} (holds : post [] (.ok a)) :
    Traced (Pure.pure a) (Pure.pure a) session post :=
  ⟨[], .ok a, session, rfl, rfl, (List.append_nil _).symm, holds⟩

theorem throw {fault : Fault} (holds : post [] (.error fault)) :
    Traced (MonadExcept.throw fault) (MonadExcept.throw fault) session post :=
  ⟨[], .error fault, session, rfl, rfl, (List.append_nil _).symm, holds⟩

/-- Only what is asked of a component is written down. -/
theorem component (entry : Except Fault α → Asked) (x : Attempt (Scene δ) Fault α) :
    Traced (Session.components.attempt (recording entry x)) (Session.components.attempt x)
      session fun asked answer => asked = [entry answer] :=
  ⟨_, _, _, rfl, rfl, rfl, rfl⟩

theorem get_bind {next : Session (Recorded δ) → Attempt (Session (Recorded δ)) Fault α}
    {next' : Session δ → Attempt (Session δ) Fault α}
    (traced : Traced (next session) (next' session.unrecorded) session post) :
    Traced (get >>= next) (get >>= next') session post := traced

theorem set_bind (after : Session (Recorded δ))
    {next : Unit → Attempt (Session (Recorded δ)) Fault α}
    {next' : Unit → Attempt (Session δ) Fault α} (kept : after.asked = session.asked)
    (rest : Traced (next ()) (next' ()) after post) :
    Traced (set after >>= next) (set after.unrecorded >>= next') session post := by
  obtain ⟨asked, outcome, done, ran, ran', noted, holds⟩ := rest
  exact ⟨asked, outcome, done, ran, ran', kept ▸ noted, holds⟩

/-- The second attempt goes on with the record where the first one came off. -/
theorem bind {next : α → Attempt (Session (Recorded δ)) Fault β}
    {next' : α → Attempt (Session δ) Fault β} {last : List Asked → Except Fault β → Prop}
    (first : Traced recorded bare session post)
    (failed : ∀ asked fault, post asked (.error fault) → last asked (.error fault))
    (rest : ∀ asked a after, post asked (.ok a) →
      Traced (next a) (next' a) after fun more => last (asked ++ more)) :
    Traced (recorded >>= next) (bare >>= next') session last := by
  obtain ⟨asked, outcome, after, ran, ran', noted, holds⟩ := first
  cases outcome with
  | error fault =>
    refine ⟨asked, .error fault, after, ?_, ?_, noted, failed asked fault holds⟩
    · rw [Attempt.run_bind, ran]
    · rw [Attempt.run_bind, ran']
  | ok a =>
    obtain ⟨more, outcome, done, went, went', added, holds⟩ := rest asked a after holds
    refine ⟨asked ++ more, outcome, done, ?_, ?_, ?_, holds⟩
    · rw [Attempt.run_bind, ran]
      exact went
    · rw [Attempt.run_bind, ran']
      exact went'
    · rw [added, noted, List.append_assoc]

theorem note_bind {severity : Severity} {text : String}
    {next : Unit → Attempt (Session (Recorded δ)) Fault α}
    {next' : Unit → Attempt (Session δ) Fault α}
    (rest : ∀ after, Traced (next ()) (next' ()) after post) :
    Traced (Session.note severity text >>= next) (Session.note severity text >>= next')
      session post :=
  rest (session.noting severity text)

theorem component_bind (entry : Except Fault α → Asked) (x : Attempt (Scene δ) Fault α)
    {next : α → Attempt (Session (Recorded δ)) Fault β}
    {next' : α → Attempt (Session δ) Fault β} {last : List Asked → Except Fault β → Prop}
    (failed : ∀ fault, last [entry (.error fault)] (.error fault))
    (rest : ∀ a after,
      Traced (next a) (next' a) after fun more => last (entry (.ok a) :: more)) :
    Traced (Session.components.attempt (recording entry x) >>= next)
      (Session.components.attempt x >>= next') session last := by
  apply bind (component entry x)
  · rintro _ fault rfl
    exact failed fault
  · rintro _ a after rfl
    exact rest a after

/-- Where the answer is looked at, a fault does not end the attempt. -/
theorem outcome_bind (entry : Except Fault α → Asked) (x : Attempt (Scene δ) Fault α)
    {next : Except Fault α → Attempt (Session (Recorded δ)) Fault β}
    {next' : Except Fault α → Attempt (Session δ) Fault β}
    {last : List Asked → Except Fault β → Prop}
    (rest : ∀ answer after,
      Traced (next answer) (next' answer) after fun more => last (entry answer :: more)) :
    Traced ((Session.components.attempt (recording entry x)).outcome >>= next)
      ((Session.components.attempt x).outcome >>= next') session last := by
  have first : Traced _ _ session _ := component entry x
  obtain ⟨asked, answer, after, ran, ran', noted, rfl⟩ := first
  obtain ⟨more, outcome, done, went, went', added, holds⟩ := rest answer after
  refine ⟨entry answer :: more, outcome, done, ?_, ?_, ?_, holds⟩
  · rw [Attempt.run_bind, Attempt.run_outcome, ran]
    exact went
  · rw [Attempt.run_bind, Attempt.run_outcome, ran']
    exact went'
  · rw [added, noted, List.append_assoc, List.singleton_append]

end Traced

/-! ### Calls -/

namespace Service

variable (service : Service δ) (session : Session (Recorded δ))

theorem sessionKey_traced (direction : Direction) (tag : String) :
    Traced (service.recorded.sessionKey tag direction.unconfigured)
      (service.sessionKey tag direction.unconfigured) session fun asked outcome =>
        match session.register.seed? with
        | none => asked = [] ∧ outcome = .error direction.unconfigured
        | some seed => ∃ answer, asked = [.sign tag (Text.Utf16.encode seed.toList) answer] ∧
            outcome = answer.map fun signature => .derive signature.bytes := by
  apply Traced.get_bind
  have same : session.unrecorded.register = session.register := rfl
  rw [same]
  cases session.register.seed? with
  | none =>
    apply Traced.note_bind
    intro after
    exact .throw ⟨rfl, rfl⟩
  | some seed =>
    apply Traced.component_bind
    · intro fault
      exact ⟨.error fault, rfl, rfl⟩
    · intro signature after
      exact .pure ⟨.ok signature, rfl, rfl⟩

theorem cipher_traced (direction : Direction) (tag data : String) :
    Traced (service.recorded.perform (direction.call tag data))
      (service.perform (direction.call tag data)) session
      (Relay session.register (direction.call tag data)) := by
  rw [perform_call, perform_call]
  simp only [bind_assoc, pure_bind]
  apply Traced.bind (service.sessionKey_traced session direction tag)
  · intro asked fault keyed
    cases seeded : session.register.seed? with
    | none =>
      rw [seeded] at keyed
      obtain ⟨rfl, same⟩ := keyed
      obtain rfl := Except.error.inj same
      exact .unconfigured direction tag data seeded
    | some seed =>
      rw [seeded] at keyed
      obtain ⟨answer, rfl, same⟩ := keyed
      cases answer with
      | ok signature => cases same
      | error reason =>
        obtain rfl := Except.error.inj same
        exact .unsigned direction seeded
  · intro asked key after keyed
    cases seeded : session.register.seed? with
    | none =>
      rw [seeded] at keyed
      cases keyed.2
    | some seed =>
      rw [seeded] at keyed
      obtain ⟨answer, rfl, same⟩ := keyed
      cases answer with
      | error reason => cases same
      | ok signature =>
        obtain rfl := Except.ok.inj same
        have recorded : direction.translate service.recorded.codec (.derive signature.bytes) data =
            recording (.translate direction (.derive signature.bytes) data)
              (direction.translate service.codec (.derive signature.bytes) data) := by
          cases direction <;> rfl
        rw [recorded]
        apply Traced.component_bind
        · intro fault
          exact .translated direction seeded
        · intro text translated
          apply Traced.note_bind
          intro noted
          exact .pure (.translated direction seeded)

theorem perform_traced (call : Call) :
    Traced (service.recorded.perform call) (service.perform call) session
      (Relay session.register call) := by
  cases call with
  | getTpmStatus =>
    simp only [perform, tpmStatus, bind_assoc]
    apply Traced.outcome_bind
    intro answer after
    rcases answer with fault | status
    · cases fault with
      | tpmUnsupported reason | tpmVersion reason =>
        simp only [bind_assoc, pure_bind]
        apply Traced.note_bind
        intro noted
        exact .pure (.forgivenStatus rfl)
      | _ => exact .throw (.noStatus rfl)
    · exact .pure (.status status)
  | getBiometryStatus =>
    simp only [perform, biometryStatus, bind_assoc, pure_bind]
    apply Traced.component_bind
    · intro fault
      exact .biometry (.error fault)
    · intro status after
      exact .pure (.biometry (.ok status))
  | generateKey tag =>
    apply Traced.component_bind
    · intro fault
      exact .creation tag (.error fault)
    · intro created after
      exact .pure (.creation tag (.ok created))
  | deleteKey tag =>
    simp only [perform, deleteKey, bind_assoc]
    apply Traced.outcome_bind
    intro answer after
    rcases answer with fault | deleted
    · cases fault with
      | keyNotFound =>
        apply Traced.note_bind
        intro noted
        exact .pure (.forgivenDeletion rfl)
      | _ => exact .throw (.deletion rfl)
    · exact .pure (.deletion rfl)
  | encrypt tag text => exact service.cipher_traced session .encrypt tag text
  | decrypt tag wire => exact service.cipher_traced session .decrypt tag wire
  | configure seed =>
    simp only [perform, configure, bind_assoc]
    apply Traced.get_bind
    have same : session.unrecorded.register = session.register := rfl
    rw [same]
    have made : Relay session.register _ _ _ := .configuration seed
    obtain ⟨outcome, register, stored⟩ : ∃ outcome register,
        session.register.set seed = (outcome, register) := ⟨_, _, rfl⟩
    rw [stored] at made ⊢
    rcases outcome with fault | _
    · apply Traced.set_bind { session with register } rfl
      simp only [bind_assoc]
      apply Traced.note_bind
      intro noted
      exact .throw made
    · apply Traced.set_bind { session with register } rfl
      apply Traced.note_bind
      intro noted
      exact .pure made

theorem exchange_traced {request : Request} {call : Call} (made : request.call? = some call) :
    let x := service.recorded.exchange request session
    let bare := service.exchange request session.unrecorded
    bare.reply = x.reply ∧ bare.after = x.after.unrecorded ∧
      ∃ asked outcome, x.after.asked = session.asked ++ asked ∧
        Relay session.register call asked outcome ∧ x.reply = .ofOutcome outcome := by
  obtain ⟨asked, outcome, after, ran, ran', noted, relay⟩ :=
    service.perform_traced (session.noting .debug "handling method call") call
  have bare : (service.perform call).run.run
      (session.unrecorded.noting .debug "handling method call") = (outcome, after.unrecorded) :=
    ran'
  rw [exchange_of_call _ made, exchange_of_call _ made, ran, bare]
  cases outcome with
  | error fault => exact ⟨rfl, rfl, asked, .error fault, noted, relay, rfl⟩
  | ok result => exact ⟨rfl, rfl, asked, .ok result, noted, relay, rfl⟩

end Service

/-! ### Faults -/

/-- The result that an operation which came off is answered as. -/
def Asked.result? : Asked → Option Json
  | platformStatus (.ok status) => some (.int status.number)
  | biometryStatus (.ok status) => some (.int status.number)
  | create _ (.ok ()) | delete _ (.ok ()) => some .null
  | translate _ _ _ (.ok text) => some (.string text)
  | _ => none

/-- A reply that follows from what the components were asked and answered. -/
structure Reply.Follows (asked : List Asked) (reply : Reply) : Prop where
  /-- After an operation that fails none is asked. -/
  stops : ∀ earlier a later, asked = earlier ++ a :: later → a.fault? ≠ none → later = []
  /-- A fault that is not forgiven is answered by its code and its message. -/
  propagates : ∀ a ∈ asked, ∀ fault, a.fault? = some fault → a.forgiven? = none →
    reply = .error fault.code fault.message
  recovers : ∀ a ∈ asked, ∀ result, a.forgiven? = some result → reply = .success result
  /-- A success is what a component has answered, or what a fault is forgiven as. A seed is
  stored without asking. -/
  succeeds : ∀ result, reply = .success result →
    (∃ a ∈ asked, a.result? = some result ∨ a.forgiven? = some result) ∨
      asked = [] ∧ result = .null

/-- What comes of an operation behind which nothing is asked. -/
inductive Asked.Ends (a : Asked) : Except Fault Json → Prop where
  | failed {fault} : a.fault? = some fault → a.forgiven? = none → Ends a (.error fault)
  | forgiven {result} : a.forgiven? = some result → Ends a (.ok result)
  | done {result} : a.result? = some result → Ends a (.ok result)

/-- An operation that came off has no fault. -/
theorem Asked.fault?_of_result? {a : Asked} {result : Json} (came : a.result? = some result) :
    a.fault? = none ∧ a.forgiven? = none := by
  unfold result? at came
  split at came
  case h_6 => cases came
  all_goals exact ⟨rfl, rfl⟩

namespace Reply.Follows

theorem of_ends {a : Asked} {outcome : Except Fault Json} (ends : a.Ends outcome) :
    Follows [a] (.ofOutcome outcome) where
  stops earlier b later split _ := by
    cases earlier with
    | nil => exact (List.cons.inj split).2.symm
    | cons first earlier =>
      have longer := congrArg List.length split
      simp at longer
  propagates := by
    rintro _ member fault failed plain
    obtain rfl := List.mem_singleton.mp member
    cases ends with
    | failed failed' =>
      obtain rfl := Option.some.inj (failed.symm.trans failed')
      rfl
    | forgiven forgiven => cases plain.symm.trans forgiven
    | done came => cases failed.symm.trans (Asked.fault?_of_result? came).1
  recovers := by
    rintro _ member result forgiven
    obtain rfl := List.mem_singleton.mp member
    cases ends with
    | failed _ plain => cases plain.symm.trans forgiven
    | forgiven forgiven' =>
      obtain rfl := Option.some.inj (forgiven.symm.trans forgiven')
      rfl
    | done came => cases forgiven.symm.trans (Asked.fault?_of_result? came).2
  succeeds result same := by
    have came := ofOutcome_eq_success_iff.mp same
    refine .inl ⟨a, List.mem_singleton_self a, ?_⟩
    cases ends with
    | failed => cases came
    | forgiven forgiven =>
      obtain rfl := Except.ok.inj came
      exact .inr forgiven
    | done done =>
      obtain rfl := Except.ok.inj came
      exact .inl done

/-- A signature is followed by what the codec makes of it. -/
theorem signed {tag : String} {challenge : List UInt8} {signature : Secret.Buffer} {a : Asked}
    {reply : Reply} (follows : Follows [a] reply) :
    Follows [.sign tag challenge (.ok signature), a] reply where
  stops earlier b later split failed := by
    cases earlier with
    | nil =>
      obtain ⟨rfl, -⟩ := List.cons.inj split
      exact absurd rfl failed
    | cons first earlier => exact follows.stops earlier b later (List.cons.inj split).2 failed
  propagates b member fault failed := by
    rcases List.mem_cons.mp member with rfl | member
    · cases failed
    · exact follows.propagates b member fault failed
  recovers b member result forgiven := by
    rcases List.mem_cons.mp member with rfl | member
    · cases forgiven
    · exact follows.recovers b member result forgiven
  succeeds result same := by
    rcases follows.succeeds result same with ⟨b, member, came⟩ | ⟨empty, -⟩
    · exact .inl ⟨b, List.mem_cons_of_mem _ member, came⟩
    · cases empty

theorem unasked {reply : Reply} (stored : ∀ result, reply = .success result → result = .null) :
    Follows [] reply where
  stops earlier a later split := by
    cases earlier <;> cases split
  propagates a member := by cases member
  recovers a member := by cases member
  succeeds result same := .inr ⟨rfl, stored result same⟩

theorem of_relay {register : Register} {call : Call} {asked : List Asked}
    {outcome : Except Fault Json} (relay : Relay register call asked outcome) :
    Follows asked (.ofOutcome outcome) := by
  cases relay with
  | status status => exact of_ends (.done rfl)
  | forgivenStatus forgiven | forgivenDeletion forgiven => exact of_ends (.forgiven forgiven)
  | noStatus plain => exact of_ends (.failed rfl plain)
  | biometry answer | creation tag answer =>
    cases answer with
    | error fault => exact of_ends (.failed rfl rfl)
    | ok came => exact of_ends (.done rfl)
  | @deletion tag answer plain =>
    cases answer with
    | error fault => exact of_ends (.failed rfl plain)
    | ok came => exact of_ends (.done rfl)
  | configuration seed =>
    apply unasked
    intro result same
    have stored := ofOutcome_eq_success_iff.mp same
    cases set : (register.set seed).1 with
    | error fault =>
      rw [set] at stored
      cases stored
    | ok =>
      rw [set] at stored
      exact (Except.ok.inj stored).symm
  | unconfigured => exact unasked nofun
  | unsigned => exact of_ends (.failed rfl rfl)
  | @translated direction tag data seed signature answer =>
    apply signed
    cases answer with
    | error fault => exact of_ends (.failed rfl rfl)
    | ok text => exact of_ends (.done rfl)

end Reply.Follows

/-- A vault that ends with its oracle's fault, before it does anything else. -/
def Vault.Heeds (vault : Vault δ) (oracle : Oracle δ) : Prop :=
  ∀ scene fault after, oracle.biometryStatus.run.run scene = (.error fault, after) →
    ∀ tag challenge,
      (vault.create tag).run.run scene = (.error fault, after) ∧
      (vault.delete tag).run.run scene = (.error fault, after) ∧
      (vault.sign tag challenge).run.run scene = (.error fault, after)

/-- The keyring is not asked, whatever it would have done. -/
theorem Vault.ofKeyring_heeds (keyring : Keyring δ) (oracle : Oracle δ) (prompt : Prompt) :
    (ofKeyring keyring oracle prompt).Heeds oracle := by
  intro scene fault after failed tag challenge
  have barred : (ensureBiometry oracle).run.run scene = (.error fault, after) := by
    rw [ensureBiometry, Attempt.run_bind, failed]
  refine ⟨?_, ?_, ?_⟩
  · simp only [ofKeyring, Attempt.run_bind, barred]
  · simp only [ofKeyring, Attempt.run_bind, barred]
  · simp only [ofKeyring, Attempt.run_bind, barred]

/-- Around any components a request that makes a call is answered as the record says: the
operations that the call reaches are asked in their order and none behind one that fails,
whose fault is the reply unless it is forgiven. The recorder makes no difference. The vault
over a keyring hands on its oracle's fault, before the keyring is asked. -/
theorem faults_are_relayed (service : Service δ) {request : Request} {call : Call}
    (made : request.call? = some call) (session : Session (Recorded δ)) :
    let x := service.recorded.exchange request session
    let bare := service.exchange request session.unrecorded
    (bare.reply = x.reply ∧ bare.after = x.after.unrecorded) ∧
    (∃ asked outcome, x.after.asked = session.asked ++ asked ∧
      Relay session.register call asked outcome ∧ x.reply = .ofOutcome outcome ∧
      x.reply.Follows asked) ∧
    ∀ (keyring : Keyring δ) (oracle : Oracle δ) (prompt : Prompt),
      (Vault.ofKeyring keyring oracle prompt).Heeds oracle := by
  intro x bare
  obtain ⟨reply, after, asked, outcome, noted, relay, ended⟩ :=
    service.exchange_traced session made
  refine ⟨⟨reply, after⟩, ⟨asked, outcome, noted, relay, ended, ?_⟩, Vault.ofKeyring_heeds⟩
  rw [show x.reply = .ofOutcome outcome from ended]
  exact .of_relay relay

/-- A user who prefers the password ends an encryption before the codec is asked; and an oracle
that has lost the platform ends a creation before the keyring is asked. -/
theorem refused_signature_is_relayed :
    let service : Service Station :=
      ⟨.fixed (.ok .supported) (.error (.unknown "lost")),
        .fixed (.ok ()) (.ok ()) (.error .userPrefersPassword), .fixed (.ok "") (.ok "")⟩
    let session : Session (Recorded Station) :=
      ⟨⟨⟨⟨{ desk := { gate := .autoApprove } }, []⟩, ⟨[]⟩⟩, []⟩, ⟨true, "s"⟩⟩
    let request := Request.ofTexts "encrypt" [("data", "d"), ("tag", "t")]
    let x := service.recorded.exchange request session
    let vault := Vault.ofKeyring (Keyring.software true .available) service.oracle {}
    request.call? = some (.encrypt "t" "d") ∧
    x.after.asked = [.sign "t" [0x73, 0x00] (.error .userPrefersPassword)] ∧
    x.reply = .error .userPrefersPassword "user prefers password" ∧
    (vault.create "t").run.run session.unrecorded.scene =
      (.error (.unknown "lost"), session.unrecorded.scene) := by
  intro service session request x vault
  have made : request.call? = some (.encrypt "t" "d") := rfl
  have seeded : Text.Utf16.encode "s".toList = [0x73, 0x00] := by decide +kernel
  have noted : x.after.asked =
      [.sign "t" (Text.Utf16.encode "s".toList) (.error .userPrefersPassword)] := by
    simp only [x, request, session, service]
    rfl
  rw [seeded] at noted
  obtain ⟨-, ⟨asked, outcome, added, -, -, follows⟩, heeds⟩ :=
    faults_are_relayed service made session
  obtain rfl : asked = [.sign "t" [0x73, 0x00] (.error .userPrefersPassword)] :=
    added.symm.trans noted
  refine ⟨made, noted, ?_, ?_⟩
  · exact follows.propagates _ (List.mem_singleton_self _) .userPrefersPassword rfl rfl
  · exact (heeds (Keyring.software true .available) service.oracle {} _ (.unknown "lost") _ rfl
      "t" []).1

end PresenceSeal
