import Mathlib.Data.List.Forall2
import PresenceSeal.Hash.Sha2
import PresenceSeal.Host.Run
import PresenceSeal.Proofs.Envelope.Sealing
import PresenceSeal.Proofs.Service.Course

/-! Payloads stay with the service. Encryption and decryption under one tag ask the same of
the platform and reach the same key; the text that is given to either does not show, neither
in what the platform is asked nor in how many random bytes are drawn. The reply to an encryption
may show that its text is too long for the cipher, and is otherwise a failure or a success
whatever the text. -/
namespace PresenceSeal

/-- How two requests compare that encrypt `text` and decrypt `wire` under one tag, in one
session: both lack the seed, both lack the signature, or both have the same key. -/
inductive Twins (stack : Stack δ) (tag text wire : String) (session : Session (Watched δ))
    (x y : Exchange (Watched δ)) : Prop where
  | unconfigured : session.register.seed? = none →
      x.reply = .error .invalidArgument ("invalid argument: " ++ Service.unconfiguredReason) →
      y.reply = .error .decryptError ("decrypt error: " ++ Service.unconfiguredReason) →
      x.after.scene.surroundings = session.scene.surroundings →
      y.after.scene.surroundings = session.scene.surroundings →
      Twins stack tag text wire session x y
  | unsigned {seed stage contacts fault signed} : session.register.seed? = some seed →
      stack.Signing tag (Text.Utf16.encode seed.toList) session.unwatched.scene.surroundings
        stage contacts (.error fault) (Watched.within.get signed) →
      signed.device.contacts = session.contacts ++ contacts →
      x.reply = .ofFault fault → y.reply = .ofFault fault →
      x.after.scene.surroundings = signed → y.after.scene.surroundings = signed →
      Twins stack tag text wire session x y
  | keyed {seed stage contacts signature signed} {key : SessionKey} :
      session.register.seed? = some seed →
      stack.Signing tag (Text.Utf16.encode seed.toList) session.unwatched.scene.surroundings
        stage contacts (.ok signature) (Watched.within.get signed) →
      signed.device.contacts = session.contacts ++ contacts →
      key.bytes = Hash.sha256 signature.bytes →
      x.reply = .ofOutcome
        ((((key.sealText text).run.run signed.entropy).1.mapError Fault.ofSeal).map .string) →
      y.reply = .ofOutcome (((key.openText wire).mapError Fault.ofSeal).map .string) →
      x.after.scene.surroundings =
        { signed with entropy := ((key.sealText text).run.run signed.entropy).2 } →
      y.after.scene.surroundings = signed → Twins stack tag text wire session x y

theorem Service.register_of_cipher (service : Service δ) {direction : Direction}
    {request : Request} {tag data : String}
    (called : request.call? = some (direction.call tag data)) (session : Session δ) :
    (service.exchange request session).after.register = session.register := by
  have answered := (service.exchange_of_cipher called session).1
  rw [answered, run_sessionKey]
  split
  · rfl
  · rfl

theorem Stack.twins (stack : Stack δ) {sealing opening : Request} {tag text wire : String}
    (seals : sealing.call? = some (.encrypt tag text))
    (opens : opening.call? = some (.decrypt tag wire)) (session : Session (Watched δ)) :
    let service := stack.watched.service Codec.ofEnvelopes
    Twins stack tag text wire session (service.exchange sealing session)
      (service.exchange opening session) := by
  intro service
  have sealed := service.exchange_of_cipher
    (show sealing.call? = some (Direction.encrypt.call tag text) from seals) session
  have opened := service.exchange_of_cipher
    (show opening.call? = some (Direction.decrypt.call tag wire) from opens) session
  rw [Service.run_sessionKey] at sealed opened
  cases seeded : session.register.seed? with
  | none =>
    have missing : (session.noting .debug "handling method call").register.seed? = none := seeded
    simp only [missing] at sealed opened
    exact .unconfigured seeded sealed.2.1 opened.2.1 sealed.2.2 opened.2.2
  | some seed =>
    have found : (session.noting .debug "handling method call").register.seed? = some seed := seeded
    obtain ⟨stage, contacts, outcome, signed, journal, ran, signing⟩ := stack.watched.signing tag
      (Text.Utf16.encode seed.toList) (session.noting .debug "handling method call").scene
    obtain ⟨bare, noted⟩ := signing.unwatched
    have vault : service.vault = stack.watched.vault := rfl
    simp only [found, vault, ran] at sealed opened
    cases outcome with
    | error fault =>
      exact .unsigned seeded bare noted sealed.2.1 opened.2.1 sealed.2.2 opened.2.2
    | ok signature =>
      exact .keyed seeded bare noted rfl sealed.2.1 opened.2.1 sealed.2.2 opened.2.2

theorem Twins.device {stack : Stack δ} {tag text wire : String} {session : Session (Watched δ)}
    {x y : Exchange (Watched δ)} (twins : Twins stack tag text wire session x y) :
    x.after.scene.surroundings.device = y.after.scene.surroundings.device := by
  cases twins with
  | unconfigured _ _ _ afterX afterY | unsigned _ _ _ _ _ afterX afterY
    | keyed _ _ _ _ _ _ afterX afterY => rw [afterX, afterY]

/-- Requests that differ at most in the text that is to be encrypted or decrypted, whether
the other arguments are right or not. -/
inductive Request.SameButData : Request → Request → Prop where
  | same (request) : SameButData request request
  | data (direction : Direction) {members members' : List (String × Json)} {text text' : String} :
      (∀ key ≠ Argument.data.name, members.lookup key = members'.lookup key) →
      members.lookup Argument.data.name = some (.string text) →
      members'.lookup Argument.data.name = some (.string text') →
      SameButData ⟨direction.method.name, some (.object members)⟩
        ⟨direction.method.name, some (.object members')⟩

/-- With a text to encrypt or decrypt, it is the tag that decides about the arguments. -/
theorem Direction.call_of_data (direction : Direction) {members : List (String × Json)}
    {text : String} (found : members.lookup Argument.data.name = some (.string text)) :
    direction.method.call (some (.object members)) =
      match members.lookup Argument.tag.name with
      | some (.string tag) => .ok (direction.call tag text)
      | some _ => .error Argument.tag.notText
      | none => .error Argument.tag.missing := by
  have required : direction.method.required = [.tag, .data] := by cases direction <;> rfl
  simp only [call_eq, Method.members, required, Argument.check, found]
  cases tagged : members.lookup Argument.tag.name with
  | none => rfl
  | some value =>
    cases value with
    | string tag =>
      simp only [List.isEmpty_cons, Bool.false_eq_true, ↓reduceIte, bind, Except.bind, pure,
        Except.pure, Argument.text, tagged, found]
    | _ => rfl

/-- Whether there is a tag does not depend on the text. -/
theorem Direction.calls_of_data (direction : Direction) {members members' : List (String × Json)}
    {text text' : String}
    (agree : ∀ key ≠ Argument.data.name, members.lookup key = members'.lookup key)
    (found : members.lookup Argument.data.name = some (.string text))
    (found' : members'.lookup Argument.data.name = some (.string text')) :
    (∃ tag, direction.method.call (some (.object members)) = .ok (direction.call tag text) ∧
      direction.method.call (some (.object members')) = .ok (direction.call tag text')) ∨
    ∃ fault, direction.method.call (some (.object members)) = .error fault ∧
      direction.method.call (some (.object members')) = .error fault := by
  rw [direction.call_of_data found, direction.call_of_data found',
    ← agree Argument.tag.name (by decide)]
  split
  · exact .inl ⟨_, rfl, rfl⟩
  · exact .inr ⟨_, rfl, rfl⟩
  · exact .inr ⟨_, rfl, rfl⟩

/-- How an encryption ends for which there is `fault?` before the cipher is asked. The cipher
asks nothing of a text but that it is not too long. -/
inductive Exchange.Ends (x : Exchange δ) : Option Fault → Prop where
  | failed {fault} : x.reply = .ofFault fault → Ends x (some fault)
  | sealed {wire} : x.request.Sealable → x.reply = .success (.string wire) → Ends x none
  | tooLong : ¬ x.request.Sealable → x.reply = .ofFault .tooLong → Ends x none

theorem Exchange.Ends.fails_alike {x y : Exchange δ} {fault? : Option Fault} (ends : x.Ends fault?)
    (ends' : y.Ends fault?) (same : x.request.Sealable ↔ y.request.Sealable) (code : Code)
    (message : String) : x.reply = .error code message ↔ y.reply = .error code message := by
  cases ends with
  | failed reply =>
    cases ends' with
    | failed reply' => rw [reply, reply']
  | sealed short reply =>
    cases ends' with
    | sealed _ reply' =>
      rw [reply, reply']
      exact ⟨nofun, nofun⟩
    | tooLong long _ => exact absurd (same.mp short) long
  | tooLong long reply =>
    cases ends' with
    | sealed short _ => exact absurd (same.mpr short) long
    | tooLong _ reply' => rw [reply, reply']

/-- Exchanges that a platform cannot tell apart: it is asked the same and left in the same
state, with the same random bytes drawn. Whether an encryption fails, and how, does not
depend on its text, as long as the text is not too long for the cipher. -/
structure Indistinct (x y : Exchange δ) : Prop where
  before : x.before.scene.surroundings = y.before.scene.surroundings ∧
    x.before.register = y.before.register
  after : x.after.scene.surroundings = y.after.scene.surroundings ∧
    x.after.register = y.after.register
  plain : x.request = y.request → x.reply = y.reply
  /-- Encryptions of texts that are both short enough, or both too long, fail alike. -/
  sealing : Method.ofName? x.request.name = some .encrypt →
    (x.request.Sealable ↔ y.request.Sealable) →
    ∀ code message, x.reply = .error code message ↔ y.reply = .error code message
  /-- Whatever the texts, they fail alike before the cipher is asked, and there a text decides by
  its length alone. -/
  ending : Method.ofName? x.request.name = some .encrypt →
    ∃ fault?, x.Ends fault? ∧ y.Ends fault?

theorem Indistinct.alike {x y : Exchange δ} (indistinct : Indistinct x y) :
    x.after.Alike Eq y.after := by
  obtain ⟨surroundings, register⟩ := indistinct.after
  exact ⟨⟨by rw [surroundings], by rw [surroundings]⟩, register⟩

/-- A request for which there is a key ends as the codec does in this scene. -/
def Exchange.Translated (x : Exchange δ) (direction : Direction) (key : SessionKey) (data : String)
    (scene : Scene δ) : Prop :=
  let ran := (direction.translate Codec.ofEnvelopes key data).run.run scene
  x.reply = .ofOutcome (ran.1.map .string) ∧ x.after.scene.surroundings = ran.2.surroundings

namespace SessionKey

/-- Sealing draws alike for all texts. -/
theorem draws_alike (key : SessionKey) (text text' : String) (source : Entropy) :
    ((key.sealText text).run.run source).2 = ((key.sealText text').run.run source).2 := by
  rw [run_sealText, run_sealText]
  cases source.draw? 12 with
  | none => rfl
  | some drawn =>
    simp only []
    split <;> split <;> rfl

/-- With a key it is the random source that decides how an encryption ends, and then the length
of the text. -/
theorem ends (key : SessionKey) (source : Entropy) :
    ∃ fault?, ∀ {x : Exchange δ} {tag text : String},
      x.request.call? = some (.encrypt tag text) →
      x.reply = .ofOutcome
        ((((key.sealText text).run.run source).1.mapError Fault.ofSeal).map .string) →
      x.Ends fault? := by
  cases drawn : source.draw? 12 with
  | none =>
    refine ⟨some (.encrypt ("nonce generation failed: " ++ Entropy.exhausted)), ?_⟩
    intro x tag text made reply
    rw [run_sealText, drawn] at reply
    exact .failed reply
  | some parts =>
    refine ⟨none, ?_⟩
    intro x tag text made reply
    rw [run_sealText, drawn] at reply
    have sealable := Request.sealable_of_call made
    by_cases short : Sealable text
    · simp only [if_pos short] at reply
      exact .sealed (sealable.mpr short) reply
    · simp only [if_neg short] at reply
      exact .tooLong (mt sealable.mp short) reply

end SessionKey

namespace Stack

variable (stack : Stack δ) {s t : Session δ}

/-- A request that is to encrypt nothing is answered alike, whatever has been noted. -/
theorem plain_indistinct {request : Request} (other : Method.ofName? request.name ≠ some .encrypt)
    (related : s.Alike Eq t) :
    Indistinct ((stack.service Codec.ofEnvelopes).exchange request s)
      ((stack.service Codec.ofEnvelopes).exchange request t) := by
  obtain ⟨reply, after⟩ := stack.service_alike_self.exchange request related
  exact ⟨⟨Surroundings.Alike.eq related.1, related.2⟩,
    ⟨Surroundings.Alike.eq after.1, after.2⟩, fun _ => reply, fun sealing => absurd sealing other,
    fun sealing => absurd sealing other⟩

theorem reply_of_eq {request other : Request} (related : s.Alike Eq t) (same : request = other) :
    ((stack.service Codec.ofEnvelopes).exchange request s).reply =
      ((stack.service Codec.ofEnvelopes).exchange other t).reply := by
  obtain rfl := same
  exact (stack.service_alike_self.exchange request related).1

/-- A fault of the arguments is all that is left of a request. -/
theorem failing_indistinct {request other : Request} {method : Method} {fault : Fault}
    (named : Method.ofName? request.name = some method)
    (named' : Method.ofName? other.name = some method)
    (failed : method.call request.arguments = .error fault)
    (failed' : method.call other.arguments = .error fault) (related : s.Alike Eq t) :
    Indistinct ((stack.service Codec.ofEnvelopes).exchange request s)
      ((stack.service Codec.ofEnvelopes).exchange other t) := by
  rw [Service.exchange_of_fault _ named failed, Service.exchange_of_fault _ named' failed']
  have kept := Surroundings.Alike.eq related.1
  exact ⟨⟨kept, related.2⟩, ⟨kept, related.2⟩, fun _ => rfl, fun _ _ _ _ => .rfl,
    fun _ => ⟨some fault, .failed rfl, .failed rfl⟩⟩

/-- Two requests that reach for the key of one tag for one purpose fail alike without it; with
it, it is the same key, and the codec is asked in the same surroundings. -/
theorem reach_alike (direction : Direction) {request other : Request} {tag data data' : String}
    (made : request.call? = some (direction.call tag data))
    (made' : other.call? = some (direction.call tag data')) (related : s.Alike Eq t) :
    let x := (stack.service Codec.ofEnvelopes).exchange request s
    let y := (stack.service Codec.ofEnvelopes).exchange other t
    x.after.register = y.after.register ∧
      ((∃ fault, x.reply = .ofFault fault ∧ y.reply = .ofFault fault ∧
          x.after.scene.surroundings = y.after.scene.surroundings) ∨
        ∃ (key : SessionKey) (u v : Scene δ), u.surroundings = v.surroundings ∧
          x.Translated direction key data u ∧ y.Translated direction key data' v) := by
  intro x y
  let service := stack.service Codec.ofEnvelopes
  obtain ⟨register, one⟩ := service.exchange_of_cipher made s
  obtain ⟨register', two⟩ := service.exchange_of_cipher made' t
  obtain ⟨agree, keyed⟩ := stack.service_alike_self.sessionKey tag direction.unconfigured
    (s.noting .debug "handling method call") (t.noting .debug "handling method call") related
  refine ⟨register.trans (keyed.2.trans register'.symm), ?_⟩
  have left := Surroundings.Alike.eq keyed.1
  revert one two agree left
  rcases (service.sessionKey tag direction.unconfigured).run.run
    (s.noting .debug "handling method call") with ⟨outcome, u⟩
  rcases (service.sessionKey tag direction.unconfigured).run.run
    (t.noting .debug "handling method call") with ⟨outcome', v⟩
  intro one two agree left
  cases agree with
  | error fault => exact .inl ⟨fault, one.1, two.1, one.2.trans (left.trans two.2.symm)⟩
  | @ok key _ same =>
    obtain rfl := same
    exact .inr ⟨key, u.scene, v.scene, left, one, two⟩

theorem sealing_indistinct {request other : Request} {tag text text' : String}
    (made : request.call? = some (.encrypt tag text))
    (made' : other.call? = some (.encrypt tag text')) (related : s.Alike Eq t) :
    Indistinct ((stack.service Codec.ofEnvelopes).exchange request s)
      ((stack.service Codec.ofEnvelopes).exchange other t) := by
  have kept := Surroundings.Alike.eq related.1
  obtain ⟨register, ⟨fault, reply, reply', after⟩ | ⟨key, u, v, same, one, two⟩⟩ :=
    stack.reach_alike .encrypt made made' related
  · have ends := Exchange.Ends.failed reply
    have ends' := Exchange.Ends.failed reply'
    exact ⟨⟨kept, related.2⟩, ⟨after, register⟩, stack.reply_of_eq related,
      fun _ same => ends.fails_alike ends' same, fun _ => ⟨_, ends, ends'⟩⟩
  · obtain ⟨scene, journal⟩ := u
    obtain rfl : scene = v.surroundings := same
    obtain ⟨fault?, ending⟩ := key.ends (δ := δ) v.surroundings.entropy
    have ends := ending made one.1
    have ends' := ending made' two.1
    refine ⟨⟨kept, related.2⟩, ⟨?_, register⟩, stack.reply_of_eq related,
      fun _ same => ends.fails_alike ends' same, fun _ => ⟨_, ends, ends'⟩⟩
    calc
      _ = { v.surroundings with
            entropy := ((key.sealText text).run.run v.surroundings.entropy).2 } := one.2
      _ = { v.surroundings with
            entropy := ((key.sealText text').run.run v.surroundings.entropy).2 } := by
          rw [key.draws_alike text text']
      _ = _ := two.2.symm

theorem opening_indistinct {request other : Request} {tag wire wire' : String}
    (named : Method.ofName? request.name = some .decrypt)
    (made : request.call? = some (.decrypt tag wire))
    (made' : other.call? = some (.decrypt tag wire')) (related : s.Alike Eq t) :
    Indistinct ((stack.service Codec.ofEnvelopes).exchange request s)
      ((stack.service Codec.ofEnvelopes).exchange other t) := by
  obtain ⟨register, reached⟩ := stack.reach_alike .decrypt made made' related
  have sealing : Method.ofName? request.name ≠ some .encrypt := by
    rw [named]
    nofun
  refine ⟨⟨Surroundings.Alike.eq related.1, related.2⟩, ⟨?_, register⟩, stack.reply_of_eq related,
    fun encrypts => absurd encrypts sealing, fun encrypts => absurd encrypts sealing⟩
  -- Opening touches neither the platform nor the random source once there is a key.
  rcases reached with ⟨-, -, -, after⟩ | ⟨key, u, v, same, one, two⟩
  · exact after
  · exact one.2.trans (same.trans two.2.symm)

theorem indistinct {request other : Request} (alike : request.SameButData other)
    (related : s.Alike Eq t) :
    Indistinct ((stack.service Codec.ofEnvelopes).exchange request s)
      ((stack.service Codec.ofEnvelopes).exchange other t) := by
  cases alike with
  | same =>
    by_cases sealing : Method.ofName? request.name = some Direction.encrypt.method
    · rcases Direction.encrypt.call_or_invalid request.arguments with
        ⟨tag, text, made⟩ | ⟨reason, failed⟩
      · have called := Request.call?_of_call sealing made
        exact stack.sealing_indistinct called called related
      · exact stack.failing_indistinct sealing sealing failed failed related
    · exact stack.plain_indistinct sealing related
  | data direction agree found found' =>
    have named := Method.ofName?_name direction.method
    rcases direction.calls_of_data agree found found' with
      ⟨tag, made, made'⟩ | ⟨fault, failed, failed'⟩
    · have called := Request.call?_of_call named made
      have called' := Request.call?_of_call named made'
      cases direction with
      | encrypt => exact stack.sealing_indistinct called called' related
      | decrypt => exact stack.opening_indistinct named called called' related
    · exact stack.failing_indistinct named named failed failed' related

/-- Two runs that differ at most in what is to be encrypted or decrypted cannot be told apart. -/
theorem runs_indistinct {requests others : List Request}
    (alike : List.Forall₂ Request.SameButData requests others) (related : s.Alike Eq t) :
    List.Forall₂ Indistinct ((stack.service Codec.ofEnvelopes).exchanges requests s)
      ((stack.service Codec.ofEnvelopes).exchanges others t) := by
  -- Replies and journals may drift apart; what the sessions keep in common is all but the journal.
  induction alike generalizing s t with
  | nil => exact .nil
  | cons first _ ih =>
    have indistinct := stack.indistinct first related
    exact .cons indistinct (ih indistinct.alike)

theorem after_alike {requests others : List Request}
    (alike : List.Forall₂ Request.SameButData requests others) (related : s.Alike Eq t) :
    ((stack.service Codec.ofEnvelopes).after requests s).Alike Eq
      ((stack.service Codec.ofEnvelopes).after others t) := by
  induction alike generalizing s t with
  | nil => exact related
  | cons first _ ih => exact ih (stack.indistinct first related).alike

end Stack

/-- Encryption and decryption under one tag ask the same of every platform, in the same
order and with the same arguments, and leave it and the register in the same state; they
have the same key or fail alike, and only a missing seed has two names. So two runs that
differ in payloads alone show the platform the same and draw the same random bytes, and an
encryption fails in the one exactly as in the other, but for a text that is too long for the
cipher in one of them: that is refused once the nonce has been drawn. -/
theorem Stack.payloads_do_not_show (stack : Stack δ) :
    let service := stack.watched.service Codec.ofEnvelopes
    (∀ (session : Session (Watched δ)) (sealing opening : Request) (tag text wire : String),
      sealing.call? = some (.encrypt tag text) → opening.call? = some (.decrypt tag wire) →
      let x := service.exchange sealing session
      let y := service.exchange opening session
      x.after.contacts = y.after.contacts ∧
        x.after.unwatched.scene.surroundings.device = y.after.unwatched.scene.surroundings.device ∧
        x.after.register = session.register ∧ y.after.register = session.register ∧
        Twins stack tag text wire session x y) ∧
    ∀ (start : Session (Watched δ)) (requests others : List Request),
      List.Forall₂ Request.SameButData requests others →
      List.Forall₂ Indistinct (service.exchanges requests start) (service.exchanges others start) ∧
        (service.after requests start).contacts = (service.after others start).contacts ∧
        (service.after requests start).scene.surroundings.entropy =
          (service.after others start).scene.surroundings.entropy := by
  intro service
  constructor
  · intro session sealing opening tag text wire seals opens x y
    have twins : Twins stack tag text wire session x y := stack.twins seals opens session
    have sealed : sealing.call? = some (Direction.encrypt.call tag text) := seals
    have opened : opening.call? = some (Direction.decrypt.call tag wire) := opens
    refine ⟨congrArg Watched.contacts twins.device, congrArg Watched.device twins.device, ?_, ?_,
      twins⟩
    · exact service.register_of_cipher sealed session
    · exact service.register_of_cipher opened session
  · intro start requests others alike
    have same : start.Alike Eq start := ⟨⟨rfl, rfl⟩, rfl⟩
    have after := Surroundings.Alike.eq (stack.watched.after_alike alike same).1
    exact ⟨stack.watched.runs_indistinct alike same,
      congrArg (fun surroundings => surroundings.device.contacts) after,
      congrArg Surroundings.entropy after⟩

/-- The platform of a host. -/
def Host.stack (settings : Settings) (folder : Option Processor.Folder) : Stack Station where
  processor := Host.processor settings.tpm folder
  keyring :=
    Keyring.software settings.biometry.supported settings.biometry.availability.availability
  prompt := settings.consent.prompt

theorem Host.service_stack (settings : Settings) (folder : Option Processor.Folder) :
    (Host.stack settings folder).service Codec.ofEnvelopes = Host.service settings folder := rfl

/-- A host that has sealed one text or another, and one that was given an envelope, were asked
the same; a scope of its own has nothing to release. -/
theorem payloads_do_not_show_to_host :
    let stack := Host.stack {} none
    let station : Station :=
      { store := (Store.mk []).insert "t" ⟨Bytes.zero 32⟩, desk := { gate := .autoApprove } }
    let session : Session (Watched Station) :=
      ⟨⟨⟨⟨station, []⟩, ⟨List.replicate 12 7⟩⟩, []⟩, ⟨true, "s"⟩⟩
    let service := stack.watched.service Codec.ofEnvelopes
    let sealing := Request.ofTexts "encrypt" [("data", "one"), ("tag", "t")]
    let other := Request.ofTexts "encrypt" [("data", "another"), ("tag", "t")]
    let opening := Request.ofTexts "decrypt" [("data", "none"), ("tag", "t")]
    let contacts : List Contact :=
      [.isSupported, .openCredential "t", .foreground, .sign "t" [0x73, 0x00] {}]
    sealing.call? = some (.encrypt "t" "one") ∧ opening.call? = some (.decrypt "t" "none") ∧
    (service.exchange sealing session).after.contacts = contacts ∧
    (service.exchange opening session).after.contacts = contacts ∧
    Twins stack "t" "one" "none" session (service.exchange sealing session)
      (service.exchange opening session) ∧
    List.Forall₂ Request.SameButData [sealing] [other] ∧
    (service.after [other] session).contacts = contacts := by
  intro stack station session service sealing other opening contacts
  obtain ⟨pairs, runs⟩ := stack.payloads_do_not_show
  have seals : sealing.call? = some (.encrypt "t" "one") := rfl
  have opens : opening.call? = some (.decrypt "t" "none") := rfl
  obtain ⟨same, -, -, -, twins⟩ := pairs session sealing opening "t" "one" "none" seals opens
  have alike : List.Forall₂ Request.SameButData [sealing] [other] := by
    refine .cons (.data .encrypt ?_ rfl rfl) .nil
    intro key differs
    have apart : (key == "data") = false := beq_false_of_ne differs
    simp only [List.map_cons, List.lookup_cons, apart]
  obtain ⟨-, after, -⟩ := runs session [sealing] [other] alike
  have asked : (service.exchange opening session).after.contacts = contacts := by decide +kernel
  have sealed : (service.exchange sealing session).after.contacts = contacts := same.trans asked
  exact ⟨seals, opens, sealed, asked, twins, alike, after.symm.trans sealed⟩

end PresenceSeal
