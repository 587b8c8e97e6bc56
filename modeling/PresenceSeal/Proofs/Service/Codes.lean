import PresenceSeal.Platform.Simulated
import PresenceSeal.Proofs.Envelope.Opening
import PresenceSeal.Proofs.Service.Processor
import PresenceSeal.Proofs.Service.Upkeep

/-! Which codes a method can fail with. Every way in which a call can go over some platform
ends in a code of a short list, whatever the platform answers: the code of a failure tells
which methods may have failed. -/
namespace PresenceSeal

/-- What a platform's refusal may become, but for a credential that is not found. -/
def Code.refusals : List Code :=
  [.keyAlreadyExists, .authenticationUserCanceled, .userPrefersPassword, .secureDeviceLocked,
    .unknownError]

/-- What may become of a platform that is asked for biometry. -/
def Code.barriers : List Code := [.biometryNotSupported, .unknownError]

/-- The codes that a method may fail with. -/
def Method.codes : Method → List Code
  | getTpmStatus => []
  | getBiometryStatus => [.unknownError]
  | generateKey =>
    .invalidArgument :: .biometryNotSupported :: .generateKeyError :: .keyNotFound :: Code.refusals
  | deleteKey => .invalidArgument :: .biometryNotSupported :: .deleteKeyError :: Code.refusals
  | encrypt =>
    .invalidArgument :: .biometryNotSupported :: .encryptError :: .keyNotFound :: Code.refusals
  | decrypt =>
    .invalidArgument :: .biometryNotSupported :: .decryptError :: .convertingStringError ::
      .keyNotFound :: Code.refusals
  | configure => [.invalidArgument, .configureError]

/-! ### What the platform refuses -/

theorem Refusal.code_fault (refusal : Refusal) :
    refusal.fault.code ∈ Code.keyNotFound :: Code.refusals := by
  cases refusal <;> simp [fault, Fault.code, Code.refusals]

theorem Refusal.code_creationFault (refusal : Refusal) :
    (Host.Wiring.creationFault refusal).code ∈ Method.generateKey.codes := by
  cases refusal <;>
    simp [Host.Wiring.creationFault, fault, Fault.code, Method.codes, Code.refusals]

/-- A credential that is not found counts as deleted. -/
theorem Refusal.code_deletionOutcome {answer : Except Refusal Unit} {fault : Fault}
    (failed : Host.Wiring.deletionOutcome answer = .error fault) :
    fault.code ∈ Method.deleteKey.codes := by
  cases answer with
  | ok => cases failed
  | error refusal =>
    cases refusal with
    | notFound => cases failed
    | _ =>
      obtain rfl := Except.error.inj failed
      simp [Refusal.fault, Fault.code, Method.codes, Code.refusals]

/-! ### What the components fail with -/

namespace Stack

variable {stack : Stack δ} {s after : Surroundings δ} {contacts : List Contact} {fault : Fault}

theorem Probing.code {keyring : Keyring δ}
    (probing : Probing keyring s contacts (.error fault) after) : fault.code ∈ Code.barriers := by
  cases probing <;> simp [Fault.code, Code.barriers]

theorem Upkeep.code {work : Attempt (Surroundings δ) Refusal Unit}
    {judge : Except Refusal Unit → Except Fault Unit} {codes : List Code}
    (barred : Code.barriers ⊆ codes)
    (judged : ∀ answer fault, judge answer = .error fault → fault.code ∈ codes)
    {outcome : Except Fault Unit} (upkeep : stack.Upkeep work judge s outcome after)
    (failed : outcome = .error fault) : fault.code ∈ codes := by
  cases upkeep with
  | barred probing =>
    obtain rfl := Except.error.inj failed
    exact barred probing.code
  | answered => exact judged _ fault failed

theorem Creating.code {tag : String} {outcome : Except Fault Unit}
    (creating : stack.Creating tag s outcome after) (failed : outcome = .error fault) :
    fault.code ∈ Method.generateKey.codes := by
  apply Upkeep.code _ _ creating failed
  · decide
  · intro answer fault judged
    cases answer with
    | ok => cases judged
    | error refusal =>
      obtain rfl := Except.error.inj judged
      exact refusal.code_creationFault

theorem Deleting.code {tag : String} {outcome : Except Fault Unit}
    (deleting : stack.Deleting tag s outcome after) (failed : outcome = .error fault) :
    fault.code ∈ Method.deleteKey.codes := by
  apply Upkeep.code _ _ deleting failed
  · decide
  · intro answer fault judged
    exact Refusal.code_deletionOutcome judged

theorem Signing.code {tag : String} {challenge : List UInt8} {stage : Stage}
    {outcome : Except Fault Secret.Buffer}
    (signing : stack.Signing tag challenge s stage contacts outcome after)
    (failed : outcome = .error fault) :
    fault.code ∈ Code.biometryNotSupported :: .keyNotFound :: Code.refusals := by
  have refused (refusal : Refusal) :
      refusal.fault.code ∈ Code.biometryNotSupported :: .keyNotFound :: Code.refusals :=
    List.mem_cons_of_mem _ refusal.code_fault
  cases signing with
  | barred probing =>
    obtain rfl := Except.error.inj failed
    have inside : Code.barriers ⊆ Code.biometryNotSupported :: .keyNotFound :: Code.refusals := by
      decide
    exact inside probing.code
  | @unopened _ _ refusal =>
    obtain rfl := Except.error.inj failed
    exact refused refusal
  | @answered _ _ _ _ _ _ answer =>
    cases answer with
    | ok => cases failed
    | error refusal =>
      obtain rfl := Except.error.inj failed
      exact refused refusal

end Stack

/-! ### The codec -/

theorem SessionKey.code_openText {key : SessionKey} {wire : String} {fault : SealFault}
    (failed : key.openText wire = .error fault) :
    (Fault.ofSeal fault).code = .decryptError ∨
      (Fault.ofSeal fault).code = .convertingStringError := by
  rcases fault_of_openText failed with ⟨reason, rfl⟩ | rfl | ⟨reason, rfl⟩
  · exact .inl rfl
  · exact .inl rfl
  · exact .inr rfl

theorem SessionKey.code_sealText {key : SessionKey} {text : String} {source rest : Entropy}
    {fault : SealFault} (failed : (key.sealText text).run.run source = (.error fault, rest)) :
    (Fault.ofSeal fault).code = .encryptError := by
  rw [run_sealText] at failed
  split at failed
  · split at failed
    · cases failed
    · obtain rfl := Except.error.inj (Prod.mk.inj failed).1
      rfl
  · obtain rfl := Except.error.inj (Prod.mk.inj failed).1
    rfl

theorem Direction.code_translate (direction : Direction) {key : SessionKey} {data : String}
    {scene after : Scene δ} {fault : Fault}
    (failed : (direction.translate Codec.ofEnvelopes key data).run.run scene =
      (.error fault, after)) : fault.code ∈ direction.method.codes := by
  cases direction with
  | encrypt =>
    simp only [translate, Codec.ofEnvelopes, Attempt.run_adapt, Part.run_attempt] at failed
    obtain ⟨outcome, rest, sealed⟩ : ∃ outcome rest,
        (key.sealText data).run.run (Scene.entropy.get scene) = (outcome, rest) := ⟨_, _, rfl⟩
    rw [sealed] at failed
    cases outcome with
    | ok wire => cases (Prod.mk.inj failed).1
    | error reason =>
      obtain rfl := Except.error.inj (Prod.mk.inj failed).1
      rw [SessionKey.code_sealText sealed]
      decide
  | decrypt =>
    simp only [translate, Codec.ofEnvelopes, Attempt.run_ofExcept] at failed
    cases opened : key.openText data with
    | ok text =>
      rw [opened] at failed
      cases (Prod.mk.inj failed).1
    | error reason =>
      rw [opened] at failed
      obtain rfl := Except.error.inj (Prod.mk.inj failed).1
      rcases SessionKey.code_openText opened with code | code <;> rw [code] <;> decide

/-! ### Biometry and the register -/

/-- Where the last step cannot fail, the failure is the first one's. -/
theorem Attempt.error_of_run_bind_pure {x : Attempt σ ε α} {f : α → β} {s t : σ} {e : ε}
    (failed : (x >>= fun a => pure (f a)).run.run s = (.error e, t)) :
    x.run.run s = (.error e, t) := by
  rw [Attempt.run_bind] at failed
  obtain ⟨outcome, after, ran⟩ : ∃ outcome after, x.run.run s = (outcome, after) := ⟨_, _, rfl⟩
  rw [ran] at failed ⊢
  cases outcome with
  | error reason =>
    obtain ⟨same, rfl⟩ := Prod.mk.inj failed
    obtain rfl := Except.error.inj same
    rfl
  | ok a => cases (Prod.mk.inj failed).1

namespace Oracle

variable {scene : Scene δ} {fault : Fault}

theorem code_biometry {keyring : Keyring δ}
    (failed : ((biometry keyring).run.run scene).1 = .error fault) :
    fault.code = .unknownError := by
  rw [biometry, Attempt.run_bind, Part.run_always] at failed
  simp only [] at failed
  split at failed
  · cases failed
  · rw [Attempt.run_bind, Part.run_always] at failed
    simp only [] at failed
    split at failed
    case h_7 =>
      obtain rfl := Except.error.inj failed
      rfl
    all_goals cases failed

end Oracle

/-! ### Exchanges -/

/-- No two codes are spelled alike. -/
theorem Code.text_injective : Function.Injective text := by
  have found (code : Code) : all.find? (·.text == code.text) = some code := by
    cases code <;> rfl
  intro code other same
  have both : some code = some other := by
    rw [← found code, ← found other, same]
  exact Option.some.inj both

namespace Exchange

/-- That a request asks for a method. -/
def Asks (x : Exchange δ) (method : Method) : Prop := x.request.name = method.name

/-- That a reply is an error that callers read as a code, whatever the message. -/
def FailsWith (x : Exchange δ) (code : Code) : Prop :=
  ∃ failure message, x.reply = .error failure message ∧ failure.text = code.text

/-- An exchange that fails, if it does, with a code of the method that it asks for. -/
def Listed (x : Exchange δ) : Prop :=
  ∀ code, x.FailsWith code → ∃ method, x.Asks method ∧ code ∈ method.codes

/-- An exchange whose code, where it fails, tells which methods it may have asked for. -/
structure Coded (x : Exchange δ) : Prop where
  listed : x.Listed
  /-- The processor's status never fails. -/
  processor : x.Asks .getTpmStatus → ∀ code, ¬ x.FailsWith code
  biometry : x.Asks .getBiometryStatus → ∀ code, x.FailsWith code → code = .unknownError
  /-- What is wrong with a processor is a status and no failure. -/
  forgiven : ¬ x.FailsWith .tpmUnsupported ∧ ¬ x.FailsWith .tpmVersionError
  configuring : x.FailsWith .configureError → x.Asks .configure
  generating : x.FailsWith .generateKeyError → x.Asks .generateKey
  deleting : x.FailsWith .deleteKeyError → x.Asks .deleteKey
  encrypting : x.FailsWith .encryptError → x.Asks .encrypt
  decrypting : x.FailsWith .decryptError ∨ x.FailsWith .convertingStringError → x.Asks .decrypt
  barred : x.FailsWith .biometryNotSupported →
    x.Asks .generateKey ∨ x.Asks .deleteKey ∨ x.Asks .encrypt ∨ x.Asks .decrypt
  /-- Where there is nothing to delete, nothing fails. -/
  absent : x.Asks .deleteKey → ¬ x.FailsWith .keyNotFound
  configured : x.Asks .configure → ∀ code, x.FailsWith code →
    code = .invalidArgument ∨ code = .configureError

variable {x : Exchange δ}

theorem failsWith_iff {code : Code} :
    x.FailsWith code ↔ ∃ message, x.reply = .error code message := by
  constructor
  · rintro ⟨failure, message, failed, same⟩
    obtain rfl := Code.text_injective same
    exact ⟨message, failed⟩
  · rintro ⟨message, failed⟩
    exact ⟨code, message, failed, rfl⟩

theorem Asks.method_eq {method other : Method} (asks : x.Asks method) (asks' : x.Asks other) :
    method = other := by
  have same : Method.ofName? method.name = Method.ofName? other.name :=
    congrArg Method.ofName? (asks.symm.trans asks')
  rw [Method.ofName?_name, Method.ofName?_name] at same
  exact Option.some.inj same

/-- The codes of an exchange whose method is known are that method's. -/
theorem Listed.mem_codes (listed : x.Listed) {method : Method} (asks : x.Asks method)
    {code : Code} (fails : x.FailsWith code) : code ∈ method.codes := by
  obtain ⟨other, asks', member⟩ := listed code fails
  obtain rfl := asks.method_eq asks'
  exact member

/-- A code that is only one method's tells the method. -/
theorem Listed.asks_of_only (listed : x.Listed) {method : Method} {code : Code}
    (only : ∀ other : Method, code ∈ other.codes → other = method) (fails : x.FailsWith code) :
    x.Asks method := by
  obtain ⟨other, asks, member⟩ := listed code fails
  obtain rfl := only other member
  exact asks

theorem Listed.coded (listed : x.Listed) : x.Coded where
  listed := listed
  processor asks code fails := by
    have member := listed.mem_codes asks fails
    cases member
  biometry asks code fails := List.mem_singleton.mp (listed.mem_codes asks fails)
  forgiven := by
    constructor <;>
    · intro fails
      obtain ⟨method, -, member⟩ := listed _ fails
      cases method <;> revert member <;> decide
  configuring := listed.asks_of_only fun other => by cases other <;> decide
  generating := listed.asks_of_only fun other => by cases other <;> decide
  deleting := listed.asks_of_only fun other => by cases other <;> decide
  encrypting := listed.asks_of_only fun other => by cases other <;> decide
  decrypting fails := by
    rcases fails with fails | fails
    · exact listed.asks_of_only (fun other => by cases other <;> decide) fails
    · exact listed.asks_of_only (fun other => by cases other <;> decide) fails
  barred fails := by
    obtain ⟨method, asks, member⟩ := listed _ fails
    cases method with
    | generateKey => exact .inl asks
    | deleteKey => exact .inr (.inl asks)
    | encrypt => exact .inr (.inr (.inl asks))
    | decrypt => exact .inr (.inr (.inr asks))
    | getTpmStatus | getBiometryStatus | configure => simp [Method.codes] at member
  absent asks fails := by
    have member := listed.mem_codes asks fails
    revert member
    decide
  configured asks code fails := by
    have member := listed.mem_codes asks fails
    simpa only [Method.codes, List.mem_cons, List.not_mem_nil, or_false] using member

/-- An exchange whose reply is made of an outcome fails with the outcome's fault. -/
theorem listed_of_outcome {outcome : Except Fault Json} {method : Method}
    (replied : x.reply = .ofOutcome outcome) (asks : x.Asks method)
    (coded : ∀ fault, outcome = .error fault → fault.code ∈ method.codes) : x.Listed := by
  intro code fails
  obtain ⟨message, failed⟩ := failsWith_iff.mp fails
  rw [replied] at failed
  cases outcome with
  | ok result => cases failed
  | error fault =>
    obtain ⟨rfl, -⟩ := Reply.error.inj failed
    exact ⟨method, asks, coded fault rfl⟩

theorem listed_of_map {outcome : Except Fault α} {result : α → Json} {method : Method}
    (replied : x.reply = .ofOutcome (outcome.map result)) (asks : x.Asks method)
    (coded : ∀ fault, outcome = .error fault → fault.code ∈ method.codes) : x.Listed := by
  apply listed_of_outcome replied asks
  intro fault failed
  cases outcome with
  | ok made => cases failed
  | error reason =>
    obtain rfl := Except.error.inj failed
    exact coded _ rfl

end Exchange

theorem Method.code_of_call {method : Method} {arguments : Option Json} {fault : Fault}
    (failed : method.call arguments = .error fault) : fault.code ∈ method.codes := by
  obtain ⟨reason, rfl⟩ := invalid_of_call failed
  cases method with
  | getTpmStatus | getBiometryStatus =>
    -- No argument is required, so none is invalid.
    simp only [call, members, required, List.isEmpty_nil, ↓reduceIte] at failed
    split at failed <;> cases failed
  | _ => simp [codes, Fault.code]

namespace Service

variable {service : Service δ}

theorem code_configure {seed : String} {session after : Session δ} {fault : Fault}
    (failed : (configure seed).run.run session = (.error fault, after)) :
    fault.code = .configureError := by
  rw [configure, Attempt.run_get_bind] at failed
  unfold Register.set at failed
  by_cases empty : seed.isEmpty
  · simp only [empty, ↓reduceIte] at failed
    obtain rfl := Except.error.inj (Prod.mk.inj failed).1
    rfl
  · simp only [empty, Bool.false_eq_true, ↓reduceIte] at failed
    cases (Prod.mk.inj failed).1

theorem asks_of_call {request : Request} {call : Call} (made : request.call? = some call)
    (session : Session δ) : (service.exchange request session).Asks call.method := by
  obtain ⟨method, named, called⟩ := Request.call?_eq_some_iff.mp made
  rw [Method.method_of_call called]
  exact (Method.name_of_ofName? named).symm

/-- An exchange is listed if the call that is made fails with a code of its method. -/
theorem listed_of_perform {request : Request} {call : Call} (made : request.call? = some call)
    {session : Session δ}
    (coded : ∀ fault after, (service.perform call).run.run
      (session.noting .debug "handling method call") = (.error fault, after) →
        fault.code ∈ call.method.codes) : (service.exchange request session).Listed := by
  obtain ⟨outcome, after, performed⟩ : ∃ outcome after, (service.perform call).run.run
      (session.noting .debug "handling method call") = (outcome, after) := ⟨_, _, rfl⟩
  obtain ⟨reply, -⟩ := service.exchange_of_perform made performed
  apply Exchange.listed_of_outcome reply (asks_of_call made session)
  rintro fault rfl
  exact coded fault after performed

end Service

namespace Stack

variable (stack : Stack δ)

theorem code_biometryStatus {session after : Session δ} {fault : Fault}
    (failed : (stack.service Codec.ofEnvelopes).biometryStatus.run.run session =
      (.error fault, after)) : fault.code = .unknownError := by
  rw [Service.biometryStatus, Attempt.run_bind, Part.run_attempt] at failed
  simp only [service, oracle, Oracle.ofPlatform] at failed
  cases told : ((Oracle.biometry stack.keyring).run.run (Session.components.get session)).1 with
  | error reason =>
    rw [told] at failed
    obtain rfl := Except.error.inj (Prod.mk.inj failed).1
    exact Oracle.code_biometry told
  | ok status =>
    rw [told] at failed
    cases (Prod.mk.inj failed).1

/-- A course ends with a code of its direction, at whatever stage it ends. -/
theorem Course.code {stack : Stack δ} {direction : Direction} {request : Request}
    {register : Register} {s after : Surroundings δ} {stage : Stage} {contacts : List Contact}
    {code : Code} {message : String}
    (course : stack.Course Codec.ofEnvelopes direction request register s stage contacts
      (.error code message) after) : code ∈ direction.method.codes := by
  generalize replied : Reply.error code message = reply at course
  cases course with
  | arguments failed =>
    obtain ⟨rfl, -⟩ := Reply.error.inj replied
    exact Method.code_of_call failed
  | unconfigured =>
    obtain ⟨rfl, -⟩ := Reply.error.inj replied
    cases direction with
    | encrypt => decide
    | decrypt => decide
  | unsigned _ _ signing =>
    obtain ⟨rfl, -⟩ := Reply.error.inj replied
    have inside : Code.biometryNotSupported :: .keyNotFound :: Code.refusals ⊆
        direction.method.codes := by
      cases direction <;> decide
    exact inside (signing.code rfl)
  | @translated _ _ _ _ _ _ _ _ outcome _ _ _ _ _ ran =>
    cases outcome with
    | ok text => cases replied
    | error fault =>
      obtain ⟨rfl, -⟩ := Reply.error.inj replied
      exact direction.code_translate ran

theorem listed_of_cipher (direction : Direction) {request : Request} {tag data : String}
    (made : request.call? = some (direction.call tag data)) (session : Session δ) :
    ((stack.service Codec.ofEnvelopes).exchange request session).Listed := by
  obtain ⟨named, -⟩ := direction.of_call? made
  obtain ⟨stage, contacts, course, -⟩ := stack.course Codec.ofEnvelopes named session
  intro code fails
  obtain ⟨message, failed⟩ := Exchange.failsWith_iff.mp fails
  rw [failed] at course
  exact ⟨direction.method, (Method.name_of_ofName? named).symm, course.code⟩

theorem listed_of_call {request : Request} {call : Call} (made : request.call? = some call)
    (session : Session δ) :
    ((stack.service Codec.ofEnvelopes).exchange request session).Listed := by
  cases call with
  | getTpmStatus =>
    apply Service.listed_of_perform made
    intro fault after failed
    have built : (stack.service Codec.ofEnvelopes).oracle =
        .ofPlatform stack.processor stack.keyring := rfl
    obtain ⟨status, told, -⟩ :=
      Service.exists_tpmStatus built (session.noting .debug "handling method call")
    rw [Attempt.error_of_run_bind_pure failed] at told
    cases told
  | getBiometryStatus =>
    apply Service.listed_of_perform made
    intro fault after failed
    have coded := stack.code_biometryStatus (Attempt.error_of_run_bind_pure failed)
    exact List.mem_singleton.mpr coded
  | generateKey tag =>
    obtain ⟨outcome, creating, reply, -⟩ := stack.exchange_of_generateKey made session
    exact Exchange.listed_of_map reply (Service.asks_of_call made session) fun _ => creating.code
  | deleteKey tag =>
    obtain ⟨outcome, deleting, reply, -⟩ := stack.exchange_of_deleteKey made session
    exact Exchange.listed_of_map reply (Service.asks_of_call made session) fun _ => deleting.code
  | encrypt tag text => exact stack.listed_of_cipher .encrypt made session
  | decrypt tag wire => exact stack.listed_of_cipher .decrypt made session
  | configure seed =>
    apply Service.listed_of_perform made
    intro fault after failed
    have coded := Service.code_configure (Attempt.error_of_run_bind_pure failed)
    rw [coded]
    exact List.mem_cons_of_mem _ List.mem_cons_self

/-- Whatever the platform answers, a failure has a code of the method that was asked. -/
theorem listed (request : Request) (session : Session δ) :
    ((stack.service Codec.ofEnvelopes).exchange request session).Listed := by
  cases made : request.call? with
  | some call => exact stack.listed_of_call made session
  | none =>
    cases named : Method.ofName? request.name with
    | none =>
      intro code fails
      obtain ⟨message, failed⟩ := Exchange.failsWith_iff.mp fails
      simp only [Service.exchange, Service.handle, named] at failed
      cases failed
    | some method =>
      obtain ⟨reason, failed⟩ := Method.invalid_of_no_call named made
      rw [Service.exchange_of_fault _ named failed session]
      have replied : Reply.ofFault (.invalidArgument reason) =
          .ofOutcome (.error (.invalidArgument reason)) := rfl
      apply Exchange.listed_of_outcome replied
      · exact (Method.name_of_ofName? named).symm
      · intro fault same
        obtain rfl := Except.error.inj same
        exact Method.code_of_call failed

/-- Over any platform, whatever its processor and its keyring answer, every exchange of every
run that fails does so with a code of the method that was asked for, and the code tells which
methods those may be. -/
theorem error_codes_are_closed (start : Session δ) (requests : List Request) :
    ∀ x ∈ (stack.service Codec.ofEnvelopes).exchanges requests start, x.Coded := by
  intro x member
  obtain ⟨earlier, request, later, -, rfl⟩ := Service.mem_exchanges _ |>.mp member
  exact (stack.listed request _).coded

/-- Without a seed a decryption fails before the platform is asked. -/
theorem unconfigured_decryption_is_coded :
    let stack : Stack Simulated.Device := ⟨Simulated.processor, Simulated.keyring, {}⟩
    let session : Session Simulated.Device := ⟨⟨⟨{}, ⟨[]⟩⟩, []⟩, ⟨false, ""⟩⟩
    let request := Request.ofTexts "decrypt" [("data", "text"), ("tag", "t")]
    let x := (stack.service Codec.ofEnvelopes).exchange request session
    x ∈ (stack.service Codec.ofEnvelopes).exchanges [request] session ∧
      x.FailsWith .decryptError ∧ x.Asks .decrypt := by
  intro stack session request x
  have member : x ∈ (stack.service Codec.ofEnvelopes).exchanges [request] session :=
    List.mem_singleton_self x
  have fails : x.FailsWith .decryptError := by
    refine ⟨.decryptError, "decrypt error: Data to sign is empty", ?_, rfl⟩
    simp only [x, request, session, stack]
    rfl
  have coded := stack.error_codes_are_closed session [request] x member
  exact ⟨member, fails, coded.decrypting (.inl fails)⟩

end Stack

end PresenceSeal
