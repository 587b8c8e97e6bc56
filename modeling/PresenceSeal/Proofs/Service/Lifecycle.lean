import Mathlib.Logic.Function.Basic
import PresenceSeal.Proofs.Attempt.Keeps
import PresenceSeal.Proofs.Service.Course
import PresenceSeal.Proofs.Service.Upkeep

/-! Credentials come and go as two states of each tag: absent and present. A service over
an honest keyring goes through them request by request, whatever the requests are. -/
namespace PresenceSeal

/-- Whether there is a credential under a tag. -/
inductive Life where
  | absent
  | present
  deriving DecidableEq

namespace Life

def of : Option κ → Life
  | none => absent
  | some _ => present

theorem of_eq_present_iff {found : Option κ} : of found = present ↔ ∃ new, found = some new := by
  cases found <;> simp [of]

/-- What a call makes of the credential under a tag. -/
def next (tag : String) (life : Life) : Call → Life
  | .generateKey other => if other = tag then present else life
  | .deleteKey other => if other = tag then absent else life
  | _ => life

/-- A request that makes no call leaves every credential as it is. -/
def following (tag : String) (life : Life) (request : Request) : Life :=
  match request.call? with
  | some call => life.next tag call
  | none => life

/-- What some requests make of the credential under a tag, one after another. -/
def behind (tag : String) (life : Life) (requests : List Request) : Life :=
  requests.foldl (following tag) life

variable {tag : String} {life : Life} {request : Request} {call : Call}

theorem following_of_call (made : request.call? = some call) :
    life.following tag request = life.next tag call := by
  rw [following, made]

/-- Only what creates or deletes under the tag itself makes a difference. -/
theorem following_of_other (creates : request.call? ≠ some (.generateKey tag))
    (deletes : request.call? ≠ some (.deleteKey tag)) : life.following tag request = life := by
  unfold following
  split
  · rename_i call made
    rw [made] at creates deletes
    cases call with
    | generateKey other => exact if_neg fun same => creates (by rw [same])
    | deleteKey other => exact if_neg fun same => deletes (by rw [same])
    | _ => rfl
  · rfl

end Life

def Session.device (session : Session δ) : δ := session.scene.surroundings.device

/-- An exchange in which credentials come and go as they should. What is kept under each tag
is read off the device. -/
structure Exchange.Lives (kept : δ → String → Option κ) (x : Exchange δ) : Prop where
  /-- Every tag goes through its states. -/
  follows : ∀ tag, Life.of (kept x.after.device tag) =
    (Life.of (kept x.before.device tag)).following tag x.request
  /-- A credential is created where there was none. -/
  created : ∀ tag, x.request.call? = some (.generateKey tag) →
    kept x.before.device tag = none → x.reply = .success .null
  /-- A credential that is there is not created again, and stays the same. -/
  taken : ∀ tag, x.request.call? = some (.generateKey tag) →
    kept x.before.device tag ≠ none →
    (∃ message, x.reply = .error .keyAlreadyExists message) ∧
      kept x.after.device = kept x.before.device
  /-- A deletion succeeds whether there was a credential or not. -/
  deleted : ∀ tag, x.request.call? = some (.deleteKey tag) →
    x.reply = .success .null ∧ kept x.after.device tag = none
  /-- With a seed, what encryption and decryption lack is the credential exactly if there is
  none. -/
  ciphers : ∀ direction tag data, x.request.call? = some (Direction.call direction tag data) →
    x.before.register.seed? ≠ none →
    ((∃ message, x.reply = .error .keyNotFound message) ↔
      kept x.before.device tag = none)
  /-- A credential is touched only by what creates or deletes under its own tag. -/
  apart : ∀ tag, x.request.call? ≠ some (.generateKey tag) →
    x.request.call? ≠ some (.deleteKey tag) →
    kept x.after.device tag = kept x.before.device tag

/-- How a device shows its credentials: what it keeps under each tag, whether it works
without interference, and how many random bytes a new credential takes. -/
structure Shelf (δ κ : Type) where
  kept : δ → String → Option κ
  ready : δ → Prop
  supply : Nat

namespace Shelf

variable (shelf : Shelf δ κ)

/-- The credentials of a device that works without interference. -/
def Holds (kept : String → Option κ) (s : Surroundings δ) : Prop :=
  shelf.ready s.device ∧ shelf.kept s.device = kept

/-- What an exchange may find on the shelf, as a view of the surroundings. -/
def view (s : Surroundings δ) : (String → Option κ) × Prop :=
  (shelf.kept s.device, shelf.ready s.device)

variable {shelf} {s t : Surroundings δ} {kept : String → Option κ}

theorem Holds.of_view (holds : shelf.Holds kept s) (same : shelf.view t = shelf.view s) :
    shelf.Holds kept t := by
  obtain ⟨keeps, ready⟩ := Prod.mk.inj same
  exact ⟨ready ▸ holds.1, keeps.trans holds.2⟩

theorem Holds.of_device (holds : shelf.Holds kept s) (same : t.device = s.device) :
    shelf.Holds kept t :=
  holds.of_view (by rw [view, same, view])

end Shelf

/-- An exchange that finds the random bytes for the credential it is to create. -/
def Exchange.Supplied (shelf : Shelf δ κ) (x : Exchange δ) : Prop :=
  ∀ tag, x.request.call? = some (.generateKey tag) → shelf.kept x.before.device tag = none →
    shelf.supply ≤ x.before.scene.surroundings.entropy.bytes.length

/-- A keyring that supports biometry and does what it is asked: it creates what is absent,
finds and deletes what is present, and signs. -/
structure Keyring.Honest (keyring : Keyring δ) (shelf : Shelf δ κ) : Prop where
  quiet : keyring.Quiet
  supports : ∀ s, shelf.ready s.device → (keyring.isSupported.run s).1 = false →
    (keyring.availability.run (keyring.isSupported.run s).2).1 = .available
  isSupported : ∀ s, shelf.view (keyring.isSupported.run s).2 = shelf.view s
  availability : ∀ s, shelf.view (keyring.availability.run s).2 = shelf.view s
  foreground : ∀ s, shelf.view (keyring.foreground.run s).2 = shelf.view s
  release : ∀ s t, shelf.view ((keyring.foreground.run s).1.release.run t).2 = shelf.view t
  created : ∀ {kept s tag} prompt, shelf.Holds kept s → kept tag = none →
    shelf.supply ≤ s.entropy.bytes.length →
    ∃ new after, (keyring.create tag prompt).run.run s = (.ok (), after) ∧
      shelf.Holds (Function.update kept tag (some new)) after
  taken : ∀ {kept s tag} prompt, shelf.Holds kept s → kept tag ≠ none →
    ∃ after, (keyring.create tag prompt).run.run s = (.error .credentialAlreadyExists, after) ∧
      shelf.Holds kept after
  deleted : ∀ {kept s} tag, shelf.Holds kept s →
    ∃ answer after, (keyring.delete tag).run.run s = (answer, after) ∧
      (answer = .ok () ∨ answer = .error .notFound) ∧
      shelf.Holds (Function.update kept tag none) after
  missing : ∀ {kept s tag}, shelf.Holds kept s → kept tag = none →
    ∃ after, (keyring.openCredential tag).run.run s = (.error .notFound, after) ∧
      shelf.Holds kept after
  opened : ∀ {kept s tag}, shelf.Holds kept s → kept tag ≠ none →
    ∃ credential after, (keyring.openCredential tag).run.run s = (.ok credential, after) ∧
      shelf.Holds kept after ∧ ∀ {t} challenge prompt, shelf.Holds kept t →
        ∃ signature done, (credential.sign challenge prompt).run.run t = (.ok signature, done) ∧
          shelf.Holds kept done

namespace Keyring.Honest

variable {stack : Stack δ} {shelf : Shelf δ κ} {kept : String → Option κ}
  {s after : Surroundings δ}

/-- Biometry is always granted, and asking for it changes nothing that counts. -/
theorem probing (honest : stack.keyring.Honest shelf)
    {contacts : List Contact} {outcome : Except Fault Unit} (holds : shelf.Holds kept s)
    (probing : Stack.Probing stack.keyring s contacts outcome after) :
    outcome = .ok () ∧ shelf.Holds kept after ∧ after.entropy = s.entropy := by
  have supports := honest.supports s holds.1
  have drawn := probing.quiet honest.quiet
  cases probing with
  | supported asked =>
    have seen := honest.isSupported s
    rw [asked] at seen
    exact ⟨rfl, holds.of_view seen, drawn⟩
  | @available between _ unsupported answered =>
    have seen := honest.isSupported s
    have seenAgain := honest.availability between
    rw [unsupported] at seen
    rw [answered] at seenAgain
    exact ⟨rfl, (holds.of_view seen).of_view seenAgain, drawn⟩
  | unavailable unsupported answered other =>
    rw [unsupported, answered] at supports
    exact absurd (supports rfl) other
  | unmapped unsupported answered =>
    rw [unsupported, answered] at supports
    cases supports rfl

theorem held (honest : stack.keyring.Honest shelf)
    {scope : Scope δ} {held : Surroundings δ} (holds : shelf.Holds kept s)
    (taken : stack.keyring.foreground.run s = (scope, held)) :
    shelf.Holds kept held ∧ held.entropy = s.entropy ∧
      ∀ {kept' t}, shelf.Holds kept' t → shelf.Holds kept' (scope.release.run t).2 := by
  have seen := honest.foreground s
  have drawn := honest.quiet.foreground s
  have released := honest.release s
  rw [taken] at seen drawn released
  exact ⟨holds.of_view seen, drawn, fun holds' => holds'.of_view (released _)⟩

/-- A creation or a deletion comes to the platform's answer, with nothing else changed. -/
theorem upkeep (honest : stack.keyring.Honest shelf)
    {work : Attempt (Surroundings δ) Refusal Unit} {judge : Except Refusal Unit → Except Fault Unit}
    {outcome : Except Fault Unit} (holds : shelf.Holds kept s)
    (upkeep : stack.Upkeep work judge s outcome after) :
    ∃ held answer done, shelf.Holds kept held ∧ held.entropy = s.entropy ∧
      work.run.run held = (answer, done) ∧ outcome = judge answer ∧
      ∀ {kept'}, shelf.Holds kept' done → shelf.Holds kept' after := by
  cases upkeep with
  | barred probing => cases (honest.probing holds probing).1
  | answered probing taken asked =>
    obtain ⟨-, probed, source⟩ := honest.probing holds probing
    obtain ⟨held, drawn, released⟩ := honest.held probed taken
    exact ⟨_, _, _, held, drawn.trans source, asked, rfl, released⟩

theorem creating (honest : stack.keyring.Honest shelf)
    {tag : String} {outcome : Except Fault Unit} (holds : shelf.Holds kept s)
    (enough : kept tag = none → shelf.supply ≤ s.entropy.bytes.length)
    (creating : stack.Creating tag s outcome after) :
    (kept tag = none ∧ outcome = .ok () ∧
        ∃ new, shelf.Holds (Function.update kept tag (some new)) after) ∨
      (kept tag ≠ none ∧ outcome = .error .keyAlreadyExists ∧ shelf.Holds kept after) := by
  obtain ⟨held, answer, done, holds, drawn, asked, rfl, released⟩ :=
    honest.upkeep holds creating
  by_cases free : kept tag = none
  · obtain ⟨new, created, ran, installed⟩ :=
      honest.created stack.prompt holds free (drawn ▸ enough free)
    obtain ⟨rfl, rfl⟩ := Prod.mk.inj (ran.symm.trans asked)
    exact .inl ⟨free, rfl, new, released installed⟩
  · obtain ⟨refused, ran, same⟩ := honest.taken stack.prompt holds free
    obtain ⟨rfl, rfl⟩ := Prod.mk.inj (ran.symm.trans asked)
    exact .inr ⟨free, rfl, released same⟩

theorem deleting (honest : stack.keyring.Honest shelf)
    {tag : String} {outcome : Except Fault Unit} (holds : shelf.Holds kept s)
    (deleting : stack.Deleting tag s outcome after) :
    outcome = .ok () ∧ shelf.Holds (Function.update kept tag none) after := by
  obtain ⟨held, answer, done, holds, -, asked, rfl, released⟩ :=
    honest.upkeep holds deleting
  obtain ⟨given, erased, ran, answered, gone⟩ := honest.deleted tag holds
  obtain ⟨rfl, rfl⟩ := Prod.mk.inj (ran.symm.trans asked)
  rcases answered with rfl | rfl <;> exact ⟨rfl, released gone⟩

/-- A signature is given exactly if there is a credential to sign with. -/
theorem signing (honest : stack.keyring.Honest shelf)
    {tag : String} {challenge : List UInt8} {stage : Stage} {contacts : List Contact}
    {outcome : Except Fault Secret.Buffer} (holds : shelf.Holds kept s)
    (signing : stack.Signing tag challenge s stage contacts outcome after) :
    shelf.Holds kept after ∧
      ((kept tag = none ∧ outcome = .error .keyNotFound) ∨
        (kept tag ≠ none ∧ ∃ signature, outcome = .ok signature)) := by
  cases signing with
  | barred probing => cases (honest.probing holds probing).1
  | unopened probing opening =>
    obtain ⟨-, probed, -⟩ := honest.probing holds probing
    by_cases absent : kept tag = none
    · obtain ⟨_, ran, same⟩ := honest.missing probed absent
      obtain ⟨refused, rfl⟩ := Prod.mk.inj (ran.symm.trans opening)
      obtain rfl := Except.error.inj refused
      exact ⟨same, .inl ⟨absent, rfl⟩⟩
    · obtain ⟨_, _, ran, -⟩ := honest.opened probed absent
      cases ran.symm.trans opening
  | answered probing opening taken asked =>
    obtain ⟨-, probed, -⟩ := honest.probing holds probing
    by_cases absent : kept tag = none
    · obtain ⟨_, ran, -⟩ := honest.missing probed absent
      cases ran.symm.trans opening
    · obtain ⟨_, _, ran, same, signs⟩ := honest.opened probed absent
      obtain ⟨credential, rfl⟩ := Prod.mk.inj (ran.symm.trans opening)
      obtain rfl := Except.ok.inj credential
      obtain ⟨held, -, released⟩ := honest.held same taken
      obtain ⟨signature, _, signed, done⟩ := signs _ stack.prompt held
      obtain ⟨rfl, rfl⟩ := Prod.mk.inj (signed.symm.trans asked)
      exact ⟨released done, .inr ⟨absent, signature, rfl⟩⟩

end Keyring.Honest

theorem Direction.direction_of_call {direction direction' : Direction}
    {tag tag' data data' : String}
    (same : direction.call tag data = direction'.call tag' data') : direction = direction' := by
  cases direction <;> cases direction' <;> first | rfl | cases same

/-- The codec leaves the device alone, and its faults are its own. -/
theorem Direction.translate_apart (direction : Direction) (key : SessionKey) (data : String)
    (scene : Scene δ) :
    let ran := (direction.translate Codec.ofEnvelopes key data).run.run scene
    ran.2.surroundings.device = scene.surroundings.device ∧
      ∀ fault, ran.1 = .error fault → fault.code ≠ .keyNotFound := by
  have foreign (fault : SealFault) : (Fault.ofSeal fault).code ≠ .keyNotFound := by
    cases fault <;> nofun
  cases direction with
  | encrypt =>
    simp only [translate, Codec.ofEnvelopes]
    rw [Attempt.run_adapt, Part.run_attempt]
    refine ⟨rfl, fun fault failed => ?_⟩
    cases sealed : ((key.sealText data).run.run (Scene.entropy.get scene)).1 with
    | error reason =>
      rw [sealed] at failed
      obtain rfl := Except.error.inj failed
      exact foreign reason
    | ok wire =>
      rw [sealed] at failed
      cases failed
  | decrypt =>
    simp only [translate, Codec.ofEnvelopes]
    rw [Attempt.run_ofExcept]
    refine ⟨rfl, fun fault failed => ?_⟩
    cases opened : key.openText data with
    | error reason =>
      simp only [opened, Except.mapError, Except.error.injEq] at failed
      exact failed ▸ foreign reason
    | ok text =>
      rw [opened] at failed
      cases failed

section Exchanges

variable {κ : Type} {kept : δ → String → Option κ} {x : Exchange δ}

/-- An exchange that neither creates nor deletes is as it should be if it keeps every
credential, and if encryption and decryption report a credential that is not there. -/
theorem Exchange.Lives.of_same (creates : ∀ tag, x.request.call? ≠ some (.generateKey tag))
    (deletes : ∀ tag, x.request.call? ≠ some (.deleteKey tag))
    (same : kept x.after.device = kept x.before.device)
    (ciphers : ∀ direction tag data, x.request.call? = some (Direction.call direction tag data) →
      x.before.register.seed? ≠ none →
      ((∃ message, x.reply = .error .keyNotFound message) ↔ kept x.before.device tag = none)) :
    x.Lives kept where
  follows tag := by rw [same, Life.following_of_other (creates tag) (deletes tag)]
  created tag made := absurd made (creates tag)
  taken tag made := absurd made (creates tag)
  deleted tag made := absurd made (deletes tag)
  ciphers := ciphers
  apart tag _ _ := by rw [same]

/-- The credential that there is under a tag after it has been put there. -/
theorem Exchange.Lives.of_created {tag : String} {new : κ}
    (made : x.request.call? = some (.generateKey tag)) (free : kept x.before.device tag = none)
    (installed : kept x.after.device = Function.update (kept x.before.device) tag (some new))
    (reply : x.reply = .success .null) : x.Lives kept where
  follows other := by
    rw [Life.following_of_call made, installed, Life.next]
    by_cases same : tag = other
    · rw [if_pos same, same, Function.update_self]
      rfl
    · rw [if_neg same, Function.update_of_ne (Ne.symm same)]
  created _ _ _ := reply
  taken other called present := by
    obtain rfl := Call.generateKey.inj (Option.some.inj (made.symm.trans called))
    exact absurd free present
  deleted _ called := by cases made.symm.trans called
  ciphers direction _ _ called := by
    cases direction <;> cases made.symm.trans called
  apart other creates _ := by
    rw [installed, Function.update_of_ne]
    rintro rfl
    exact creates made

theorem Exchange.Lives.of_taken {tag message : String}
    (made : x.request.call? = some (.generateKey tag)) (present : kept x.before.device tag ≠ none)
    (same : kept x.after.device = kept x.before.device)
    (reply : x.reply = .error .keyAlreadyExists message) : x.Lives kept where
  follows other := by
    rw [Life.following_of_call made, same, Life.next]
    split
    · rename_i equal
      cases held : kept x.before.device other with
      | none => exact absurd (equal ▸ held) present
      | some _ => rfl
    · rfl
  created other called free := by
    obtain rfl := Call.generateKey.inj (Option.some.inj (made.symm.trans called))
    exact absurd free present
  taken _ _ _ := ⟨⟨message, reply⟩, same⟩
  deleted _ called := by cases made.symm.trans called
  ciphers direction _ _ called := by
    cases direction <;> cases made.symm.trans called
  apart _ _ _ := by rw [same]

theorem Exchange.Lives.of_deleted {tag : String}
    (made : x.request.call? = some (.deleteKey tag))
    (gone : kept x.after.device = Function.update (kept x.before.device) tag none)
    (reply : x.reply = .success .null) : x.Lives kept where
  follows other := by
    rw [Life.following_of_call made, gone, Life.next]
    by_cases same : tag = other
    · rw [if_pos same, same, Function.update_self]
      rfl
    · rw [if_neg same, Function.update_of_ne (Ne.symm same)]
  created _ called := by cases made.symm.trans called
  taken _ called := by cases made.symm.trans called
  deleted other called := by
    obtain rfl := Call.deleteKey.inj (Option.some.inj (made.symm.trans called))
    exact ⟨reply, by rw [gone, Function.update_self]⟩
  ciphers direction _ _ called := by
    cases direction <;> cases made.symm.trans called
  apart other _ deletes := by
    rw [gone, Function.update_of_ne]
    rintro rfl
    exact deletes made

theorem Service.lives_of_keeps {service : Service δ} {shelf : Shelf δ κ} {request : Request}
    {call : Call} (made : request.call? = some call) {session : Session δ}
    (ready : shelf.ready session.device)
    (keeps : (service.perform call).Keeps fun session => shelf.view session.scene.surroundings)
    (plain : call = .getTpmStatus ∨ call = .getBiometryStatus ∨ ∃ seed, call = .configure seed) :
    let x := service.exchange request session
    x.Lives shelf.kept ∧ shelf.ready x.after.device := by
  intro x
  obtain ⟨outcome, done, performed⟩ : ∃ outcome done,
      (service.perform call).run.run
        (session.noting .debug "handling method call") = (outcome, done) := ⟨_, _, rfl⟩
  obtain ⟨-, -, after⟩ := service.exchange_of_perform made performed
  have holds : shelf.Holds _ session.scene.surroundings := ⟨ready, rfl⟩
  have seen := keeps (session.noting .debug "handling method call")
  rw [performed] at seen
  simp only [← after] at seen
  obtain ⟨readied, same⟩ := holds.of_view seen
  refine ⟨.of_same ?_ ?_ same ?_, readied⟩
  · rintro tag called
    rcases plain with rfl | rfl | ⟨seed, rfl⟩ <;> cases made.symm.trans called
  · rintro tag called
    rcases plain with rfl | rfl | ⟨seed, rfl⟩ <;> cases made.symm.trans called
  · intro direction tag data called
    rcases plain with rfl | rfl | ⟨seed, rfl⟩ <;> cases direction <;>
      cases made.symm.trans called

end Exchanges

namespace Stack

/-- A stack over an honest keyring, whose processor has no part in credentials. -/
structure Honest (stack : Stack δ) (shelf : Shelf δ κ) : Prop where
  keyring : stack.keyring.Honest shelf
  processor : stack.processor.Keeps shelf.view

variable {stack : Stack δ} {shelf : Shelf δ κ} {kept : String → Option κ}

theorem Course.lives {direction : Direction} {request : Request} {register : Register}
    {s after : Surroundings δ} {stage : Stage} {contacts : List Contact} {reply : Reply}
    (honest : stack.keyring.Honest shelf) (holds : shelf.Holds kept s)
    (course : stack.Course Codec.ofEnvelopes direction request register s stage contacts reply
      after) :
    shelf.Holds kept after ∧ ∀ tag data, request.call? = some (direction.call tag data) →
      register.seed? ≠ none →
      ((∃ message, reply = .error .keyNotFound message) ↔ kept tag = none) := by
  cases course with
  | arguments failed =>
    refine ⟨holds, fun tag data called => ?_⟩
    cases failed.symm.trans (direction.of_call? called).2
  | unconfigured _ unseeded => exact ⟨holds, fun _ _ _ seeded => absurd unseeded seeded⟩
  | unsigned called _ signing =>
    obtain ⟨same, ⟨absent, fault⟩ | ⟨-, _, signed⟩⟩ := honest.signing holds signing
    · obtain rfl := Except.error.inj fault
      refine ⟨same, fun tag data again _ => ?_⟩
      obtain rfl := Direction.tag_of_call (Option.some.inj (called.symm.trans again))
      exact iff_of_true ⟨_, rfl⟩ absent
    · cases signed
  | @translated _ _ _ _ _ _ _ journal outcome _ _ called _ signing ran =>
    obtain ⟨same, ⟨-, fault⟩ | ⟨present, -⟩⟩ := honest.signing holds signing
    · cases fault
    · obtain ⟨device, foreign⟩ := direction.translate_apart _ _ ⟨_, journal⟩
      rw [ran] at device foreign
      refine ⟨same.of_device device, fun tag data again _ => ?_⟩
      obtain rfl := Direction.tag_of_call (Option.some.inj (called.symm.trans again))
      refine iff_of_false ?_ present
      rintro ⟨message, failed⟩
      rcases outcome with fault | text
      · exact foreign fault rfl (Reply.error.inj failed).1
      · cases failed

theorem Honest.lives_of_cipher (honest : stack.Honest shelf) {request : Request}
    {direction : Direction} {tag data : String}
    (made : request.call? = some (direction.call tag data)) {session : Session δ}
    (ready : shelf.ready session.device) :
    let x := (stack.service Codec.ofEnvelopes).exchange request session
    x.Lives shelf.kept ∧ shelf.ready x.after.device := by
  intro x
  obtain ⟨named, -⟩ := direction.of_call? made
  obtain ⟨stage, contacts, course, -⟩ := stack.course Codec.ofEnvelopes named session
  obtain ⟨⟨readied, same⟩, reports⟩ := course.lives honest.keyring ⟨ready, rfl⟩
  refine ⟨.of_same ?_ ?_ same ?_, readied⟩
  · intro created called
    cases direction <;> cases made.symm.trans called
  · intro deleted called
    cases direction <;> cases made.symm.trans called
  · intro direction' tag' data' called
    obtain rfl := Direction.direction_of_call (Option.some.inj (made.symm.trans called))
    exact reports tag' data' called

/-- Every exchange over an honest keyring is as it should be, and leaves the keyring so. -/
theorem Honest.lives (honest : stack.Honest shelf) (request : Request) (session : Session δ)
    (ready : shelf.ready session.device)
    (supplied : ((stack.service Codec.ofEnvelopes).exchange request session).Supplied shelf) :
    let x := (stack.service Codec.ofEnvelopes).exchange request session
    x.Lives shelf.kept ∧ shelf.ready x.after.device := by
  intro x
  have holds : shelf.Holds (shelf.kept session.device) session.scene.surroundings := ⟨ready, rfl⟩
  cases made : request.call? with
  | none =>
    obtain ⟨reply, entries, -, same⟩ :=
      (stack.service Codec.ofEnvelopes).exchange_of_no_call made session
    rw [show x = _ from same]
    refine ⟨.of_same ?_ ?_ rfl ?_, ready⟩
    · exact fun _ called => by cases made.symm.trans called
    · exact fun _ called => by cases made.symm.trans called
    · exact fun _ _ _ called => by cases made.symm.trans called
  | some call =>
    cases call with
    | generateKey tag =>
      obtain ⟨outcome, creating, reply, -⟩ := stack.exchange_of_generateKey made session
      rcases honest.keyring.creating holds (supplied tag made) creating with
        ⟨free, rfl, new, readied, installed⟩ | ⟨present, rfl, readied, same⟩
      · exact ⟨.of_created made free installed reply, readied⟩
      · exact ⟨.of_taken made present same reply, readied⟩
    | deleteKey tag =>
      obtain ⟨outcome, deleting, reply, -⟩ := stack.exchange_of_deleteKey made session
      obtain ⟨rfl, readied, gone⟩ := honest.keyring.deleting holds deleting
      exact ⟨.of_deleted made gone reply, readied⟩
    | encrypt tag data =>
      have called : request.call? = some (Direction.encrypt.call tag data) := made
      exact honest.lives_of_cipher called ready
    | decrypt tag data =>
      have called : request.call? = some (Direction.decrypt.call tag data) := made
      exact honest.lives_of_cipher called ready
    | getTpmStatus =>
      have keeps : (stack.service Codec.ofEnvelopes).tpmStatus.Keeps _ :=
        Service.tpmStatus_keeps (Oracle.probe_keeps honest.processor)
      exact Service.lives_of_keeps made ready
        (.bind (fun session => congrArg Prod.snd (keeps session)) fun _ _ => rfl) (.inl rfl)
    | getBiometryStatus =>
      have keeps : (stack.service Codec.ofEnvelopes).biometryStatus.Keeps _ :=
        Service.biometryStatus_keeps
          (Oracle.biometry_keeps honest.keyring.isSupported honest.keyring.availability)
      exact Service.lives_of_keeps made ready
        (.bind (fun session => congrArg Prod.snd (keeps session)) fun _ _ => rfl)
        (.inr (.inl rfl))
    | configure seed =>
      have keeps : (Service.configure seed).Keeps
          fun session : Session δ => session.scene.surroundings := Service.configure_keeps seed
      exact Service.lives_of_keeps made ready
        (.bind (fun session => congrArg shelf.view (keeps session)) fun _ _ => rfl)
        (.inr (.inr ⟨seed, rfl⟩))

end Stack

/-- A run in which credentials come and go as they should: at every point each tag is in the
state in which the requests so far have left it. -/
structure Service.Refines (service : Service δ) (kept : δ → String → Option κ)
    (start : Session δ) (requests : List Request) : Prop where
  states : ∀ earlier later, requests = earlier ++ later → ∀ tag,
    Life.of (kept (service.after earlier start).device tag) =
      (Life.of (kept start.device tag)).behind tag earlier
  steps : ∀ x ∈ service.exchanges requests start, x.Lives kept

theorem Service.after_follows {service : Service δ} {kept : δ → String → Option κ}
    {requests : List Request} {start : Session δ}
    (lives : ∀ x ∈ service.exchanges requests start, x.Lives kept) (tag : String) :
    Life.of (kept (service.after requests start).device tag) =
      (Life.of (kept start.device tag)).behind tag requests := by
  induction requests generalizing start with
  | nil => rfl
  | cons request rest ih =>
    have first := (lives _ List.mem_cons_self).follows tag
    have behind := ih fun x member => lives x (List.mem_cons_of_mem _ member)
    exact behind.trans (congrArg (Life.behind tag · rest) first)

theorem Service.refines_of_lives {service : Service δ} {kept : δ → String → Option κ}
    {requests : List Request} {start : Session δ}
    (lives : ∀ x ∈ service.exchanges requests start, x.Lives kept) :
    service.Refines kept start requests where
  states earlier later split := by
    refine service.after_follows fun x member => lives x ?_
    obtain ⟨before, request, behind, rfl, rfl⟩ := service.mem_exchanges.mp member
    exact service.mem_exchanges.mpr
      ⟨before, request, behind ++ later, by rw [split, List.append_assoc, List.cons_append], rfl⟩
  steps := lives

/-- Over an honest keyring every run goes through the states of its tags. -/
theorem Stack.Honest.refines {stack : Stack δ} {shelf : Shelf δ κ} (honest : stack.Honest shelf)
    {requests : List Request} {start : Session δ} (ready : shelf.ready start.device)
    (supplied : ∀ x ∈ (stack.service Codec.ofEnvelopes).exchanges requests start,
      x.Supplied shelf) :
    (stack.service Codec.ofEnvelopes).Refines shelf.kept start requests := by
  refine Service.refines_of_lives ?_
  induction requests generalizing start with
  | nil => nofun
  | cons request rest ih =>
    obtain ⟨lives, readied⟩ := honest.lives request start ready (supplied _ List.mem_cons_self)
    intro x member
    rcases List.mem_cons.mp member with rfl | member
    · exact lives
    · exact ih readied (fun y member => supplied y (List.mem_cons_of_mem _ member)) x member

end PresenceSeal
