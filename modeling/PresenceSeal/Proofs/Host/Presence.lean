import PresenceSeal.Proofs.Host.Reaction

/-! No use of a key without the user's presence. A call asks for consent once or not at
all; without consent it changes nothing, and what succeeds had its own consent. -/
namespace PresenceSeal.Host

namespace Wiring

variable {w : Wiring} {register next : Register} {held after : Holdings}

/-- What consent means for an operation: if it comes to ask, the desk answers once; it
succeeds only with approval, and a refusal leaves everything but the desk as it was. -/
structure Gated (w : Wiring) (asks : Prop) (held : Holdings) (outcome : Except Fault α)
    (after : Holdings) : Prop where
  asked : asks → after.desk = (held.desk.answer w.prompt).2
  unasked : ¬ asks → after.desk = held.desk
  approved : ∀ result, outcome = .ok result → asks ∧ (held.desk.answer w.prompt).1 = .ok ()
  refused : ∀ refusal, asks → (held.desk.answer w.prompt).1 = .error refusal →
    after.store = held.store ∧ after.entropy = held.entropy ∧
      ∃ fault, outcome = .error fault ∧ (fault = refusal.fault ∨ fault = creationFault refusal)

theorem not_biometric {fault : Fault} (barrier : w.barrier? = some fault) : ¬ w.Biometric := by
  rw [← w.barrier?_eq_none_iff, barrier]
  nofun

theorem Gated.of_unasked {asks : Prop} {fault : Fault} (unasked : ¬ asks) :
    w.Gated asks held (.error fault : Except Fault α) held where
  asked asks := absurd asks unasked
  unasked _ := rfl
  approved _ := nofun
  refused _ asks := absurd asks unasked

theorem Gated.map {asks : Prop} {outcome : Except Fault α} {f : α → β}
    (gated : w.Gated asks held outcome after) : w.Gated asks held (outcome.map f) after where
  asked := gated.asked
  unasked := gated.unasked
  approved result ok := by
    cases outcome with
    | error fault => contradiction
    | ok before => exact gated.approved before rfl
  refused refusal asks answered := by
    obtain ⟨sameStore, sameSource, fault, rfl, known⟩ := gated.refused refusal asks answered
    exact ⟨sameStore, sameSource, fault, rfl, known⟩

theorem Gated.of_refused {asks : Prop} {refusal : Refusal} {desk : Consent.Desk} {fault : Fault}
    (asking : asks) (answered : held.desk.answer w.prompt = (.error refusal, desk))
    (known : fault = refusal.fault ∨ fault = creationFault refusal) :
    w.Gated asks held (.error fault : Except Fault α) { held with desk } where
  asked _ := (congrArg Prod.snd answered).symm
  unasked unasked := absurd asking unasked
  approved _ := nofun
  refused other _ answered' := by
    obtain rfl : refusal = other :=
      Except.error.inj ((congrArg Prod.fst answered).symm.trans answered')
    exact ⟨rfl, rfl, fault, rfl, known⟩

theorem Gated.of_approved {asks : Prop} {desk : Consent.Desk} {outcome : Except Fault α}
    (asking : asks) (answered : held.desk.answer w.prompt = (.ok (), desk))
    (same : after.desk = desk) : w.Gated asks held outcome after where
  asked _ := same.trans (congrArg Prod.snd answered).symm
  unasked unasked := absurd asking unasked
  approved _ _ := ⟨asking, congrArg Prod.fst answered⟩
  refused _ _ refused := by
    rw [answered] at refused
    contradiction

/-- What follows an approval does not ask again. -/
theorem Gated.followed {asks : Prop} {first : α} {outcome : Except Fault β} {last : Holdings}
    (gated : w.Gated asks held (.ok first) after) (same : last.desk = after.desk) :
    w.Gated asks held outcome last := by
  obtain ⟨asking, approved⟩ := gated.approved first rfl
  exact .of_approved asking (Prod.ext approved rfl) (same.trans (gated.asked asking))

theorem Creation.gated {tag : String} {outcome : Except Fault Unit}
    (creation : w.Creation held tag outcome after) :
    w.Gated (w.Biometric ∧ held.store.contains tag = false) held outcome after := by
  cases creation with
  | barred barrier => exact .of_unasked fun asks => not_biometric barrier asks.1
  | taken _ taken => exact .of_unasked fun asks => Bool.false_ne_true (asks.2.symm.trans taken)
  | refused barrier free answered =>
    exact .of_refused ⟨w.barrier?_eq_none_iff.mp barrier, by simpa using free⟩ answered (.inr rfl)
  | exhausted barrier free answered _ =>
    exact .of_approved ⟨w.barrier?_eq_none_iff.mp barrier, by simpa using free⟩ answered rfl
  | created barrier free answered _ =>
    exact .of_approved ⟨w.barrier?_eq_none_iff.mp barrier, by simpa using free⟩ answered rfl

theorem Signing.gated {tag : String} {challenge : List UInt8}
    {outcome : Except Fault Secret.Buffer} (signing : w.Signing held tag challenge outcome after) :
    w.Gated (w.Biometric ∧ held.store.contains tag = true) held outcome after := by
  cases signing with
  | barred barrier => exact .of_unasked fun asks => not_biometric barrier asks.1
  | absent _ missing =>
    refine .of_unasked fun asks => ?_
    rw [Store.contains, missing] at asks
    exact Bool.false_ne_true asks.2
  | refused barrier found answered =>
    have present : held.store.contains tag := by rw [Store.contains, found]; rfl
    exact .of_refused ⟨w.barrier?_eq_none_iff.mp barrier, present⟩ answered (.inl rfl)
  | signed barrier found answered =>
    have present : held.store.contains tag := by rw [Store.contains, found]; rfl
    exact .of_approved ⟨w.barrier?_eq_none_iff.mp barrier, present⟩ answered rfl

/-- Without a seed the vault is not asked, so nor is the user. -/
theorem Keying.gated {tag : String} {unconfigured : Fault} {outcome : Except Fault SessionKey}
    (keying : w.Keying register held tag unconfigured outcome after) :
    w.Gated (register.seed?.isSome ∧ w.Biometric ∧ held.store.contains tag = true) held outcome
      after := by
  cases keying with
  | unconfigured missing =>
    refine .of_unasked fun asks => ?_
    rw [missing] at asks
    exact Bool.false_ne_true asks.1
  | answered configured signing =>
    simpa only [configured, Option.isSome_some, true_and] using
      signing.gated.map (f := fun signature => SessionKey.derive signature.bytes)

/-- The calls that come to ask for consent. -/
def Asks (w : Wiring) (register : Register) (held : Holdings) : Call → Prop
  | .generateKey tag => w.Biometric ∧ held.store.contains tag = false
  | .encrypt tag _ | .decrypt tag _ =>
    register.seed?.isSome ∧ w.Biometric ∧ held.store.contains tag = true
  | _ => False

def UsesKey : Call → Prop
  | .generateKey _ | .encrypt _ _ | .decrypt _ _ => True
  | _ => False

theorem Asks.usesKey {call : Call} (asks : w.Asks register held call) : UsesKey call := by
  cases call <;> trivial

theorem Reaction.gated {call : Call} {outcome : Except Fault Json}
    (reaction : w.Reaction register held call outcome next after) (uses : UsesKey call) :
    w.Gated (w.Asks register held call) held outcome after ∧ next = register := by
  cases reaction with
  | tpmStatus | biometryStatus | deleteKey | configure => exact uses.elim
  | generateKey creation => exact ⟨creation.gated.map, rfl⟩
  | encryptKeyless keying => exact ⟨keying.gated.map (f := fun _ => Json.null), rfl⟩
  | decryptKeyless keying => exact ⟨keying.gated.map (f := fun _ => Json.null), rfl⟩
  | encrypt keying _ => exact ⟨keying.gated.followed rfl, rfl⟩
  | decrypt keying => exact ⟨keying.gated.followed rfl, rfl⟩

theorem Reaction.desk_of_not_asks {call : Call} {outcome : Except Fault Json}
    (reaction : w.Reaction register held call outcome next after)
    (unasked : ¬ w.Asks register held call) : after.desk = held.desk := by
  by_cases uses : UsesKey call
  · exact (reaction.gated uses).1.unasked unasked
  · cases reaction with
    | tpmStatus | biometryStatus | configure => rfl
    | deleteKey deletion => cases deletion <;> rfl
    | generateKey | encryptKeyless | encrypt | decryptKeyless | decrypt => exact (uses trivial).elim

theorem no_signature {scene : Scene Station} {refusal : Refusal}
    (refused : (scene.surroundings.holdings.desk.answer w.prompt).1 = .error refusal)
    (tag : String) (challenge : List UInt8) (signature : Secret.Buffer) :
    ((w.vault.sign tag challenge).run.run scene).1 ≠ .ok signature := by
  intro signed
  obtain ⟨_, approved⟩ := (w.signing tag challenge scene).gated.approved signature signed
  rw [refused] at approved
  contradiction

theorem refused_code {refusal : Refusal} {fault : Fault}
    (known : fault = refusal.fault ∨ fault = creationFault refusal) :
    (refusal = .userCanceled → fault.code = .authenticationUserCanceled) ∧
      (refusal = .userPrefersPassword → fault.code = .userPrefersPassword) ∧
      (refusal = .unknownError → fault.code = .unknownError) := by
  rcases known with rfl | rfl <;> refine ⟨?_, ?_, ?_⟩ <;> rintro rfl <;> rfl

/-- A request that comes to ask for consent. Not one of them has bad arguments or no
method's name, asks for a status, configures or deletes. -/
def Consulted (w : Wiring) (x : Exchange Station) : Prop :=
  ∃ call, x.request.call? = some call ∧ w.Asks x.before.register x.before.holdings call

/-- What consent means for an exchange. -/
structure Guarded (w : Wiring) (x : Exchange Station) : Prop where
  /-- A request that comes to ask for consent asks once. -/
  asked : w.Consulted x →
    x.after.holdings.desk = (x.before.holdings.desk.answer w.prompt).2 ∧
      x.after.holdings.desk.asked = w.prompt :: x.before.holdings.desk.asked
  /-- Any other request does not ask at all. -/
  unasked : ¬ w.Consulted x → x.after.holdings.desk = x.before.holdings.desk
  /-- A key is created or used only with the approval that the request itself asked for. -/
  approved : ∀ call result, x.request.call? = some call → UsesKey call →
    x.reply = .success result →
      w.Consulted x ∧ (x.before.holdings.desk.answer w.prompt).1 = .ok ()
  /-- A refusal creates, signs and draws nothing, and the reply tells it. -/
  refused : ∀ refusal, w.Consulted x →
    (x.before.holdings.desk.answer w.prompt).1 = .error refusal →
      x.after.register = x.before.register ∧
      x.after.holdings.store = x.before.holdings.store ∧
      x.after.holdings.entropy = x.before.holdings.entropy ∧
      (∀ scene tag challenge signature, scene.surroundings.holdings = x.before.holdings →
        ((w.vault.sign tag challenge).run.run scene).1 ≠ .ok signature) ∧
      ∃ code message, x.reply = .error code message ∧
        (refusal = .userCanceled → code = .authenticationUserCanceled) ∧
        (refusal = .userPrefersPassword → code = .userPrefersPassword) ∧
        (refusal = .unknownError → code = .unknownError)

theorem consulted_iff {request : Request} {call : Call} (made : request.call? = some call)
    (session : Session Station) : w.Consulted (w.service.exchange request session) ↔
      w.Asks session.register session.holdings call := by
  constructor
  · rintro ⟨called, makes, asks⟩
    obtain rfl : call = called := Option.some.inj (made.symm.trans makes)
    exact asks
  · exact fun asks => ⟨call, made, asks⟩

theorem guarded_of_no_call {request : Request} (made : request.call? = none)
    (session : Session Station) : w.Guarded (w.service.exchange request session) := by
  have unasked : ¬ w.Consulted (w.service.exchange request session) := by
    rintro ⟨call, called, _⟩
    cases made.symm.trans called
  obtain ⟨_, _, same⟩ := w.exchange_idle made session
  constructor
  · exact fun asked => absurd asked unasked
  · exact fun _ => congrArg Holdings.desk same
  · intro call _ called
    cases made.symm.trans called
  · exact fun _ asked => absurd asked unasked

theorem guarded_of_call {request : Request} {call : Call} (made : request.call? = some call)
    (session : Session Station) : w.Guarded (w.service.exchange request session) := by
  obtain ⟨outcome, reply, reaction⟩ := w.exchange_reacts made session
  have asks_iff : _ ↔ w.Asks session.register session.holdings call := consulted_iff made session
  constructor
  · intro asked
    have asks := asks_iff.mp asked
    have answered := (reaction.gated asks.usesKey).1.asked asks
    exact ⟨answered, by rw [answered]; exact Consent.Desk.asked_answer ..⟩
  · exact fun unasked => reaction.desk_of_not_asks (mt asks_iff.mpr unasked)
  · intro called result makes uses success
    obtain rfl : call = called := Option.some.inj (made.symm.trans makes)
    obtain ⟨asks, approved⟩ := (reaction.gated uses).1.approved result
      (Reply.ofOutcome_eq_success_iff.mp (reply.symm.trans success))
    exact ⟨asks_iff.mpr asks, approved⟩
  · intro refusal asked refused
    have asks := asks_iff.mp asked
    obtain ⟨gated, sameRegister⟩ := reaction.gated asks.usesKey
    obtain ⟨sameStore, sameSource, fault, rfl, known⟩ := gated.refused refusal asks refused
    refine ⟨sameRegister, sameStore, sameSource, ?_, ?_⟩
    · intro scene tag challenge signature same
      exact no_signature (by rw [same]; exact refused) tag challenge signature
    · exact ⟨fault.code, fault.message, reply, refused_code known⟩

theorem guarded (request : Request) (session : Session Station) :
    w.Guarded (w.service.exchange request session) := by
  cases made : request.call? with
  | none => exact guarded_of_no_call made session
  | some call => exact guarded_of_call made session

end Wiring

/-- In every run each request is guarded by consent, and on a terminal it is the typed
answer that decides. -/
theorem exchanges_need_consent (w : Wiring) (start : Session Station) (requests : List Request) :
    (∀ x ∈ w.service.exchanges requests start, w.Guarded x) ∧
    ∀ (desk : Consent.Desk) (prompt : Prompt),
      let outcome := (desk.answer prompt).1
      (∀ answers, desk.gate = .terminal answers →
        (outcome = .ok () ↔ Consent.Approves (answers.headD "")) ∧
        (outcome = .error .userPrefersPassword ↔ Consent.WantsPassword (answers.headD "")) ∧
        (outcome = .error .userCanceled ↔
          ¬ Consent.Approves (answers.headD "") ∧ ¬ Consent.WantsPassword (answers.headD "")) ∧
        (desk.answer prompt).2.gate = .terminal answers.tail) ∧
      (desk.gate = .noTerminal → outcome = .error .unknownError) := by
  constructor
  · intro x member
    obtain ⟨_, request, _, _, rfl⟩ := w.service.mem_exchanges.mp member
    exact Wiring.guarded request _
  · intro desk prompt
    refine ⟨?_, desk.answer_of_noTerminal prompt⟩
    intro answers typed
    obtain ⟨outcome, rest⟩ := desk.answer_of_terminal prompt typed
    rw [outcome]
    exact ⟨Consent.interpret_eq_ok_iff, Consent.interpret_eq_userPrefersPassword_iff,
      Consent.interpret_eq_userCanceled_iff, rest⟩

/-- A user who would rather give the password is asked once and nothing is created. -/
theorem creation_needs_consent :
    let w := Wiring.ofSettings {} none
    let request := Request.ofTexts "generateKey" [("tag", "t")]
    let start := Host.session (.terminal [" P\n"]) ⟨List.replicate 32 7⟩
    let x := w.service.exchange request start
    x ∈ w.service.exchanges [request] start ∧ w.Consulted x ∧
      x.after.holdings.desk.asked = [{}] ∧
      x.after.holdings.store = {} ∧ x.after.holdings.entropy = ⟨List.replicate 32 7⟩ ∧
      ∃ message, x.reply = .error .userPrefersPassword message := by
  intro w request start x
  obtain ⟨guarded, typed⟩ := exchanges_need_consent w start [request]
  have member : x ∈ w.service.exchanges [request] start := List.mem_cons_self
  have consulted : w.Consulted x := ⟨.generateKey "t", rfl, .inl rfl, rfl⟩
  have password : (start.holdings.desk.answer {}).1 = .error .userPrefersPassword :=
    ((typed start.holdings.desk {}).1 [" P\n"] rfl).2.1.mpr (by decide)
  obtain ⟨asked, -, -, refused⟩ := guarded x member
  obtain ⟨-, sameStore, sameSource, -, code, message, reply, -, prefers, -⟩ :=
    refused .userPrefersPassword consulted password
  rw [prefers rfl] at reply
  exact ⟨member, consulted, (asked consulted).2, sameStore, sameSource, message, reply⟩

end PresenceSeal.Host
