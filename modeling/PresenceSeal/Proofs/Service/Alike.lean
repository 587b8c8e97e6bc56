import PresenceSeal.Proofs.Attempt.Alike
import PresenceSeal.Proofs.Request.Exchange

/-! Services over platforms that answer alike answer alike. Two platforms may keep devices
of different types; what is related is what a relation between the devices says, the random
source is the same, and nothing is asked of the journals. So nothing that a service does
depends on what has been noted. -/
namespace PresenceSeal

variable {δ δ' : Type} (rel : δ → δ' → Prop)

def Surroundings.Alike (s : Surroundings δ) (t : Surroundings δ') : Prop :=
  rel s.device t.device ∧ s.entropy = t.entropy

def Scene.Alike (s : Scene δ) (t : Scene δ') : Prop := s.surroundings.Alike rel t.surroundings

def Session.Alike (s : Session δ) (t : Session δ') : Prop :=
  s.scene.Alike rel t.scene ∧ s.register = t.register

structure Processor.Alike (p : Processor δ) (q : Processor δ') : Prop where
  acquire : Attempt.Alike (Surroundings.Alike rel) Eq p.acquire q.acquire
  platformType : ∀ handle,
    Attempt.Alike (Surroundings.Alike rel) Eq (p.platformType handle) (q.platformType handle)
  release : ∀ handle,
    PresenceSeal.Alike (Surroundings.Alike rel) Eq (p.release handle) (q.release handle)

def Credential.Alike (c : Credential δ) (d : Credential δ') : Prop :=
  ∀ challenge prompt,
    Attempt.Alike (Surroundings.Alike rel) Eq (c.sign challenge prompt) (d.sign challenge prompt)

def Scope.Alike (c : Scope δ) (d : Scope δ') : Prop :=
  PresenceSeal.Alike (Surroundings.Alike rel) Eq c.release d.release

structure Keyring.Alike (k : Keyring δ) (l : Keyring δ') : Prop where
  isSupported : PresenceSeal.Alike (Surroundings.Alike rel) Eq k.isSupported l.isSupported
  availability : PresenceSeal.Alike (Surroundings.Alike rel) Eq k.availability l.availability
  create : ∀ tag prompt,
    Attempt.Alike (Surroundings.Alike rel) Eq (k.create tag prompt) (l.create tag prompt)
  openCredential : ∀ tag, Attempt.Alike (Surroundings.Alike rel) (Credential.Alike rel)
    (k.openCredential tag) (l.openCredential tag)
  delete : ∀ tag, Attempt.Alike (Surroundings.Alike rel) Eq (k.delete tag) (l.delete tag)
  foreground :
    PresenceSeal.Alike (Surroundings.Alike rel) (Scope.Alike rel) k.foreground l.foreground

/-- Services whose components are alike. -/
structure Service.Alike (a : Service δ) (b : Service δ') : Prop where
  platformStatus :
    Attempt.Alike (Scene.Alike rel) Eq a.oracle.platformStatus b.oracle.platformStatus
  biometryStatus :
    Attempt.Alike (Scene.Alike rel) Eq a.oracle.biometryStatus b.oracle.biometryStatus
  create : ∀ tag, Attempt.Alike (Scene.Alike rel) Eq (a.vault.create tag) (b.vault.create tag)
  delete : ∀ tag, Attempt.Alike (Scene.Alike rel) Eq (a.vault.delete tag) (b.vault.delete tag)
  sign : ∀ tag challenge,
    Attempt.Alike (Scene.Alike rel) Eq (a.vault.sign tag challenge) (b.vault.sign tag challenge)
  encrypt : ∀ key text,
    Attempt.Alike (Scene.Alike rel) Eq (a.codec.encrypt key text) (b.codec.encrypt key text)
  decrypt : ∀ key wire,
    Attempt.Alike (Scene.Alike rel) Eq (a.codec.decrypt key wire) (b.codec.decrypt key wire)

variable {rel}

theorem Scene.platform_alike :
    Scene.platform.Alike Scene.platform (Scene.Alike rel) (Surroundings.Alike rel) where
  get _ _ related := related
  set _ _ _ _ _ after := after

theorem Scene.entropy_alike : Scene.entropy.Alike Scene.entropy (Scene.Alike rel) Eq where
  get _ _ related := related.2
  set _ _ _ _ related same := ⟨related.1, same⟩

theorem Scene.note_alike {severity severity' : Severity} {text text' : String} :
    Attempt.Alike (Scene.Alike rel) Eq (Scene.note severity text : Attempt (Scene δ) ε Unit)
      (Scene.note severity' text') :=
  fun _ _ related => ⟨.ok rfl, related⟩

theorem Session.components_alike :
    Session.components.Alike Session.components (Session.Alike rel) (Scene.Alike rel) where
  get _ _ related := related.1
  set _ _ _ _ related after := ⟨after, related.2⟩

theorem Session.note_alike {severity severity' : Severity} {text text' : String} :
    Attempt.Alike (Session.Alike rel) Eq (Session.note severity text : Attempt (Session δ) ε Unit)
      (Session.note severity' text') :=
  fun _ _ related => ⟨.ok rfl, related⟩

section Components

variable {p : Processor δ} {q : Processor δ'} {k : Keyring δ} {l : Keyring δ'}

theorem Oracle.asked_alike {same : α → β → Prop} {x : Attempt (Surroundings δ) ε α}
    {y : Attempt (Surroundings δ') ε β} (work : Attempt.Alike (Surroundings.Alike rel) same x y)
    (fault : ε → Fault) :
    Attempt.Alike (Scene.Alike rel) same (Oracle.asked x fault) (Oracle.asked y fault) :=
  .adapt (Scene.platform_alike.attempt work) fault

theorem Oracle.judge_alike (processors : p.Alike rel q) (handle : Handle) :
    Attempt.Alike (Scene.Alike rel) Eq (Oracle.judge p handle) (Oracle.judge q handle) := by
  refine .bind (asked_alike (processors.platformType handle) _) ?_
  rintro platformType _ rfl
  refine .bind (.ofExcept (.refl (Version.major platformType))) ?_
  rintro major _ rfl
  exact .bind Scene.note_alike fun _ _ _ => .pure rfl

theorem Oracle.probe_alike (processors : p.Alike rel q) :
    Attempt.Alike (Scene.Alike rel) Eq (Oracle.probe p) (Oracle.probe q) := by
  refine .bind (asked_alike processors.acquire _) ?_
  rintro handle _ rfl
  exact .endingWith (judge_alike processors handle)
    (Scene.platform_alike.lift (processors.release handle))

theorem Oracle.biometry_alike (keyrings : k.Alike rel l) :
    Attempt.Alike (Scene.Alike rel) Eq (Oracle.biometry k) (Oracle.biometry l) := by
  refine .bind (Scene.platform_alike.always keyrings.isSupported) ?_
  rintro supported _ rfl
  cases supported with
  | true => exact .pure rfl
  | false =>
    refine .bind (Scene.platform_alike.always keyrings.availability) ?_
    rintro availability _ rfl
    cases availability with
    | other raw => exact .bind Scene.note_alike fun _ _ _ => .throw _
    | _ => exact .pure rfl

theorem Vault.ensureBiometry_alike {o : Oracle δ} {o' : Oracle δ'}
    (biometry : Attempt.Alike (Scene.Alike rel) Eq o.biometryStatus o'.biometryStatus) :
    Attempt.Alike (Scene.Alike rel) Eq (ensureBiometry o) (ensureBiometry o') := by
  refine .bind biometry ?_
  rintro status _ rfl
  split
  · exact .pure rfl
  · exact .bind Scene.note_alike fun _ _ _ => .throw _

theorem Vault.inForeground_alike (keyrings : k.Alike rel l) {same : α → β → Prop}
    {x : Attempt (Scene δ) Fault α} {y : Attempt (Scene δ') Fault β}
    (work : Attempt.Alike (Scene.Alike rel) same x y) :
    Attempt.Alike (Scene.Alike rel) same (inForeground k x) (inForeground l y) :=
  .bind (Scene.platform_alike.always keyrings.foreground) fun _ _ scopes =>
    .endingWith work (Scene.platform_alike.lift scopes)

theorem Vault.answer_alike {x : Attempt (Surroundings δ) Refusal α}
    {y : Attempt (Surroundings δ') Refusal α}
    (work : Attempt.Alike (Surroundings.Alike rel) Eq x y) :
    Attempt.Alike (Scene.Alike rel) Eq (answer x) (answer y) := by
  intro s t related
  obtain ⟨agree, after⟩ := work _ _ (Scene.platform_alike.get s t related)
  exact ⟨.ok agree.eq, Scene.platform_alike.set s t _ _ related after⟩

theorem Vault.createIn_alike (keyrings : k.Alike rel l) (prompt : Prompt) (tag : String) :
    Attempt.Alike (Scene.Alike rel) Eq (createIn k prompt tag) (createIn l prompt tag) := by
  refine .bind (answer_alike (keyrings.create tag prompt)) ?_
  rintro outcome _ rfl
  rcases outcome with refusal | _
  · cases refusal <;> exact .throw _
  · exact Scene.note_alike

theorem Vault.deleteIn_alike (keyrings : k.Alike rel l) (tag : String) :
    Attempt.Alike (Scene.Alike rel) Eq (deleteIn k tag) (deleteIn l tag) := by
  refine .bind (answer_alike (keyrings.delete tag)) ?_
  rintro outcome _ rfl
  rcases outcome with refusal | _
  · cases refusal with
    | notFound => exact Scene.note_alike
    | _ => exact .throw _
  · exact Scene.note_alike

theorem Vault.signIn_alike {c : Credential δ} {d : Credential δ'} (credentials : c.Alike rel d)
    (prompt : Prompt) (challenge : List UInt8) :
    Attempt.Alike (Scene.Alike rel) Eq (signIn c prompt challenge) (signIn d prompt challenge) := by
  refine .bind (answer_alike (credentials challenge prompt)) ?_
  rintro outcome _ rfl
  rcases outcome with refusal | signature
  · exact .throw _
  · exact .bind Scene.note_alike fun _ _ _ => .pure rfl

theorem Codec.encrypt_alike (key : SessionKey) (text : String) :
    Attempt.Alike (Scene.Alike rel) Eq (Codec.ofEnvelopes.encrypt key text)
      (Codec.ofEnvelopes.encrypt key text) := by
  refine .adapt (Scene.entropy_alike.attempt ?_) _
  rintro source _ rfl
  exact ⟨.refl _, rfl⟩

theorem Codec.decrypt_alike (key : SessionKey) (wire : String) :
    Attempt.Alike (Scene.Alike rel) Eq (Codec.ofEnvelopes.decrypt key wire)
      (Codec.ofEnvelopes.decrypt key wire) :=
  .ofExcept (.refl _)

end Components

/-- A platform, with the prompt for its users. -/
structure Stack (δ : Type) where
  processor : Processor δ
  keyring : Keyring δ
  prompt : Prompt

def Stack.oracle (stack : Stack δ) : Oracle δ := .ofPlatform stack.processor stack.keyring

def Stack.vault (stack : Stack δ) : Vault δ := .ofKeyring stack.keyring stack.oracle stack.prompt

def Stack.service (stack : Stack δ) (codec : Codec δ) : Service δ :=
  ⟨stack.oracle, stack.vault, codec⟩

/-- Over platforms that are alike, and with the codec over envelopes, services are alike. -/
theorem Stack.service_alike {a : Stack δ} {b : Stack δ'}
    (processors : a.processor.Alike rel b.processor) (keyrings : a.keyring.Alike rel b.keyring)
    (prompts : a.prompt = b.prompt) :
    (a.service Codec.ofEnvelopes).Alike rel (b.service Codec.ofEnvelopes) := by
  obtain ⟨processor, keyring, prompt⟩ := b
  obtain rfl : a.prompt = prompt := prompts
  have biometry := Oracle.biometry_alike keyrings
  have barrier : Attempt.Alike (Scene.Alike rel) Eq (Vault.ensureBiometry a.oracle)
      (Vault.ensureBiometry (Stack.oracle ⟨processor, keyring, a.prompt⟩)) :=
    Vault.ensureBiometry_alike biometry
  constructor
  · exact Oracle.probe_alike processors
  · exact biometry
  · intro tag
    exact .bind barrier fun _ _ _ =>
      Vault.inForeground_alike keyrings (Vault.createIn_alike keyrings _ tag)
  · intro tag
    exact .bind barrier fun _ _ _ =>
      Vault.inForeground_alike keyrings (Vault.deleteIn_alike keyrings tag)
  · intro tag challenge
    refine .bind barrier fun _ _ _ => ?_
    refine .bind (Oracle.asked_alike (keyrings.openCredential tag) _) fun _ _ credentials => ?_
    exact Vault.inForeground_alike keyrings (Vault.signIn_alike credentials _ challenge)
  · exact Codec.encrypt_alike
  · exact Codec.decrypt_alike

theorem Surroundings.Alike.eq {s t : Surroundings δ} (related : s.Alike Eq t) : s = t := by
  obtain ⟨device, entropy⟩ := t
  obtain ⟨rfl, rfl⟩ := related
  rfl

theorem alike_self {same : α → α → Prop} (refl : ∀ a, same a a) (x : StateM (Surroundings δ) α) :
    Alike (Surroundings.Alike Eq) same x x := by
  intro s t related
  obtain rfl := related.eq
  exact ⟨refl _, rfl, rfl⟩

theorem Attempt.alike_self {same : α → α → Prop} (refl : ∀ a, same a a)
    (x : Attempt (Surroundings δ) ε α) : Attempt.Alike (Surroundings.Alike Eq) same x x := by
  refine PresenceSeal.alike_self ?_ x.run
  rintro (fault | a)
  · exact .error fault
  · exact .ok (refl a)

theorem Processor.alike_self (processor : Processor δ) : processor.Alike Eq processor where
  acquire := Attempt.alike_self (fun _ => rfl) _
  platformType _ := Attempt.alike_self (fun _ => rfl) _
  release _ := PresenceSeal.alike_self (fun _ => rfl) _

theorem Credential.alike_self (credential : Credential δ) : credential.Alike Eq credential :=
  fun _ _ => Attempt.alike_self (fun _ => rfl) _

theorem Scope.alike_self (scope : Scope δ) : scope.Alike Eq scope :=
  PresenceSeal.alike_self (fun _ => rfl) scope.release

theorem Keyring.alike_self (keyring : Keyring δ) : keyring.Alike Eq keyring where
  isSupported := PresenceSeal.alike_self (fun _ => rfl) _
  availability := PresenceSeal.alike_self (fun _ => rfl) _
  create _ _ := Attempt.alike_self (fun _ => rfl) _
  openCredential _ := Attempt.alike_self Credential.alike_self _
  delete _ := Attempt.alike_self (fun _ => rfl) _
  foreground := PresenceSeal.alike_self Scope.alike_self _

/-- What has been noted makes no difference to a service. -/
theorem Stack.service_alike_self (stack : Stack δ) :
    (stack.service Codec.ofEnvelopes).Alike Eq (stack.service Codec.ofEnvelopes) :=
  service_alike stack.processor.alike_self stack.keyring.alike_self rfl

namespace Service

variable {a : Service δ} {b : Service δ'}

theorem Alike.tpmStatus (services : a.Alike rel b) :
    Attempt.Alike (Session.Alike rel) Eq a.tpmStatus b.tpmStatus := by
  refine .bind (.outcome (Session.components_alike.attempt services.platformStatus)) ?_
  intro outcome other agree
  obtain rfl := agree.eq
  rcases outcome with fault | status
  · cases fault with
    | tpmUnsupported | tpmVersion => exact .bind Session.note_alike fun _ _ _ => .pure rfl
    | _ => exact .throw _
  · exact .pure rfl

theorem Alike.biometryStatusNumber (services : a.Alike rel b) :
    Attempt.Alike (Session.Alike rel) Eq a.biometryStatus b.biometryStatus := by
  refine .bind (Session.components_alike.attempt services.biometryStatus) ?_
  rintro status _ rfl
  exact .pure rfl

theorem Alike.deleteKey (services : a.Alike rel b) (tag : String) :
    Attempt.Alike (Session.Alike rel) Eq (a.deleteKey tag) (b.deleteKey tag) := by
  refine .bind (.outcome (Session.components_alike.attempt (services.delete tag))) ?_
  intro outcome other agree
  obtain rfl := agree.eq
  rcases outcome with fault | _
  · cases fault with
    | keyNotFound => exact Session.note_alike
    | _ => exact .throw _
  · exact .pure rfl

theorem configure_alike (seed : String) :
    Attempt.Alike (Session.Alike rel) Eq (configure seed : Attempt (Session δ) Fault Unit)
      (configure seed) := by
  refine .get_bind fun s t related => ?_
  rw [related.2]
  rcases t.register.set seed with ⟨fault | _, register⟩ <;>
    refine .bind (.set ⟨related.1, rfl⟩) fun _ _ _ => ?_
  · exact .bind Session.note_alike fun _ _ _ => .throw _
  · exact Session.note_alike

theorem Alike.sessionKey (services : a.Alike rel b) (tag : String) (unconfigured : Fault) :
    Attempt.Alike (Session.Alike rel) Eq (a.sessionKey tag unconfigured)
      (b.sessionKey tag unconfigured) := by
  refine .get_bind fun s t related => ?_
  rw [related.2]
  cases t.register.seed? with
  | none => exact .bind Session.note_alike fun _ _ _ => .throw _
  | some seed =>
    refine .bind (Session.components_alike.attempt (services.sign tag _)) ?_
    rintro signature _ rfl
    exact .pure rfl

theorem Alike.encrypt_of (services : a.Alike rel b) (tag text : String) :
    Attempt.Alike (Session.Alike rel) Eq (a.encrypt tag text) (b.encrypt tag text) := by
  refine .bind (services.sessionKey tag _) ?_
  rintro key _ rfl
  refine .bind (Session.components_alike.attempt (services.encrypt key text)) fun _ _ values => ?_
  exact .bind Session.note_alike fun _ _ _ => .pure values

theorem Alike.decrypt_of (services : a.Alike rel b) (tag wire : String) :
    Attempt.Alike (Session.Alike rel) Eq (a.decrypt tag wire) (b.decrypt tag wire) := by
  refine .bind (services.sessionKey tag _) ?_
  rintro key _ rfl
  refine .bind (Session.components_alike.attempt (services.decrypt key wire)) fun _ _ values => ?_
  exact .bind Session.note_alike fun _ _ _ => .pure values

theorem Alike.perform (services : a.Alike rel b) (call : Call) :
    Attempt.Alike (Session.Alike rel) Eq (a.perform call) (b.perform call) := by
  cases call with
  | getTpmStatus =>
    exact .bind services.tpmStatus fun _ _ number => .pure (by rw [number])
  | getBiometryStatus =>
    exact .bind services.biometryStatusNumber fun _ _ number => .pure (by rw [number])
  | generateKey tag =>
    exact .bind (Session.components_alike.attempt (services.create tag)) fun _ _ _ => .pure rfl
  | deleteKey tag => exact .bind (services.deleteKey tag) fun _ _ _ => .pure rfl
  | encrypt tag text =>
    exact .bind (services.encrypt_of tag text) fun _ _ wire => .pure (congrArg _ wire)
  | decrypt tag wire =>
    exact .bind (services.decrypt_of tag wire) fun _ _ text => .pure (congrArg _ text)
  | configure seed => exact .bind (configure_alike seed) fun _ _ _ => .pure rfl

theorem Alike.dispatch (services : a.Alike rel b) (method : Method) (arguments : Option Json) :
    Attempt.Alike (Session.Alike rel) Eq (a.dispatch method arguments)
      (b.dispatch method arguments) := by
  refine .bind Session.note_alike fun _ _ _ => ?_
  refine .bind (.ofExcept (.refl (method.call arguments))) ?_
  rintro call _ rfl
  exact services.perform call

/-- From related sessions the same request gets the same reply. -/
theorem Alike.exchange (services : a.Alike rel b) (request : Request) {s : Session δ}
    {t : Session δ'} (related : s.Alike rel t) :
    (a.exchange request s).reply = (b.exchange request t).reply ∧
      (a.exchange request s).after.Alike rel (b.exchange request t).after := by
  cases named : Method.ofName? request.name with
  | none =>
    simp only [Service.exchange, Service.handle, named]
    exact ⟨rfl, related⟩
  | some method =>
    obtain ⟨agree, after⟩ := services.dispatch method request.arguments s t related
    simp only [Service.exchange, run_handle _ named]
    revert agree after
    rcases (a.dispatch method request.arguments).run.run s with ⟨outcome, s'⟩
    rcases (b.dispatch method request.arguments).run.run t with ⟨other, t'⟩
    intro agree after
    obtain rfl : outcome = other := agree.eq
    rcases outcome with fault | result
    · exact ⟨rfl, after⟩
    · exact ⟨rfl, after⟩

end Service

end PresenceSeal
