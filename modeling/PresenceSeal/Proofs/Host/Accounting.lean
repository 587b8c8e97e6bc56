import PresenceSeal.Proofs.Host.Presence
import PresenceSeal.Proofs.Host.Recovery

/-! Where the random bytes go. A successful creation takes the 32 bytes of its seed, a
successful encryption the 12 bytes of its nonce, and nothing else takes any, but for a text
that turns out too long for the cipher when its nonce has been drawn; so the bytes of a run
lie one behind the other in the order of its requests. -/
namespace PresenceSeal

theorem Entropy.parts_of_draw? {n : Nat} {source rest : Entropy} {drawn : Bytes n}
    (h : source.draw? n = some (drawn, rest)) :
    n ≤ source.bytes.length ∧ drawn.val = source.bytes.take n ∧
      rest.bytes = source.bytes.drop n := by
  rw [bytes_of_draw? h, List.length_append, drawn.property]
  refine ⟨Nat.le_add_right n _, ?_, ?_⟩
  · exact (List.take_left' drawn.property).symm
  · exact (List.drop_left' drawn.property).symm

/-- The number of random bytes that a call needs. -/
def Call.need : Call → Nat
  | .generateKey _ => 32
  | .encrypt _ _ => 12
  | _ => 0

theorem Reply.ofFault_eq_tooLong_iff {fault : Fault} :
    ofFault fault = ofFault .tooLong ↔ fault = .tooLong := by
  constructor
  · intro same
    obtain ⟨code, message⟩ := Reply.error.inj same
    cases fault with
    | encrypt reason => exact congrArg Fault.encrypt (String.append_right_inj _ |>.mp message)
    | _ => cases code
  · rintro rfl
    rfl

namespace Exchange

/-- The number of random bytes that belong to an exchange: a request that fails has none, but
for one that has drawn a nonce for a text which is too long. -/
def cost (x : Exchange δ) : Nat :=
  match x.request.call?, x.reply with
  | some call, .success _ => call.need
  | some (.encrypt _ text), .error .encryptError message =>
    if ¬ Sealable text ∧ message = Fault.tooLong.message then 12 else 0
  | _, _ => 0

theorem cost_of_success {x : Exchange δ} {call : Call} {result : Json}
    (made : x.request.call? = some call) (success : x.reply = .success result) :
    x.cost = call.need := by
  rw [cost, made, success]

theorem cost_of_failure {x : Exchange δ} (failed : ∀ result, x.reply ≠ .success result)
    (kept : x.request.Sealable ∨ x.reply ≠ .ofFault .tooLong) : x.cost = 0 := by
  unfold cost
  split
  · rename_i success
    exact absurd success (failed _)
  · rename_i made replied
    rw [Request.sealable_of_call made] at kept
    refine if_neg fun ⟨long, same⟩ => ?_
    rw [same] at replied
    exact kept.elim long fun other => other replied
  · rfl

theorem cost_of_tooLong {x : Exchange δ} {tag text : String}
    (made : x.request.call? = some (.encrypt tag text)) (long : ¬ Sealable text)
    (replied : x.reply = .ofFault .tooLong) : x.cost = 12 := by
  rw [cost, made, replied]
  exact if_pos ⟨long, rfl⟩

/-- The number of random bytes that belong to a run. -/
def total : List (Exchange δ) → Nat
  | [] => 0
  | x :: rest => x.cost + total rest

/-- The exchanges of a run, each with the place in the random source where its bytes begin:
the first at `offset`, and every other where the one before it ends. -/
def ledger (offset : Nat) : List (Exchange δ) → List (Nat × Exchange δ)
  | [] => []
  | x :: rest => (offset, x) :: ledger (offset + x.cost) rest

theorem le_of_mem_ledger {offset : Nat} {xs : List (Exchange δ)} {entry : Nat × Exchange δ}
    (member : entry ∈ ledger offset xs) : offset ≤ entry.1 := by
  induction xs generalizing offset with
  | nil => cases member
  | cons x rest ih =>
    rcases List.mem_cons.mp member with rfl | member
    · exact Nat.le_refl _
    · have behind := ih member
      omega

theorem map_snd_ledger (offset : Nat) (xs : List (Exchange δ)) :
    (ledger offset xs).map Prod.snd = xs := by
  induction xs generalizing offset with
  | nil => rfl
  | cons x rest ih => exact congrArg (x :: ·) (ih _)

/-- No byte belongs to two exchanges. -/
theorem pairwise_ledger (offset : Nat) (xs : List (Exchange δ)) :
    (ledger offset xs).Pairwise fun one two => one.1 + one.2.cost ≤ two.1 := by
  induction xs generalizing offset with
  | nil => exact .nil
  | cons x rest ih => exact .cons (fun _ member => le_of_mem_ledger member) (ih _)

end Exchange

namespace Host.Wiring

variable {w : Wiring} {register next : Register} {held after : Holdings} {tag : String}

/-- What an operation may take from the random source: what it needs, and only if it
succeeds. One that fails leaves the credentials alone as well. -/
structure Draws (need : Nat) (held : Holdings) (outcome : Except Fault α) (after : Holdings) :
    Prop where
  taken : ∀ result, outcome = .ok result →
    need ≤ held.entropy.bytes.length ∧ after.entropy.bytes = held.entropy.bytes.drop need
  spared : ∀ fault, outcome = .error fault →
    after.store = held.store ∧ after.entropy = held.entropy

theorem Draws.of_error {need : Nat} {fault : Fault} (store : after.store = held.store)
    (entropy : after.entropy = held.entropy) :
    Draws need held (.error fault : Except Fault α) after where
  taken _ := nofun
  spared _ _ := ⟨store, entropy⟩

theorem Draws.of_draw? {need : Nat} {bytes : Bytes need} {rest : Entropy} {result : α}
    (drawn : held.entropy.draw? need = some (bytes, rest)) (left : after.entropy = rest) :
    Draws need held (.ok result : Except Fault α) after where
  taken _ _ := by
    obtain ⟨enough, -, behind⟩ := Entropy.parts_of_draw? drawn
    rw [left]
    exact ⟨enough, behind⟩
  spared _ := nofun

theorem Draws.nothing {outcome : Except Fault α} (entropy : after.entropy = held.entropy)
    (spared : ∀ fault, outcome = .error fault → after.store = held.store) :
    Draws 0 held outcome after where
  taken _ _ := ⟨Nat.zero_le _, congrArg Entropy.bytes entropy⟩
  spared fault failed := ⟨spared fault failed, entropy⟩

theorem Draws.map {need : Nat} {outcome : Except Fault α} {f : α → β}
    (draws : Draws need held outcome after) : Draws need held (outcome.map f) after := by
  cases outcome with
  | error fault => exact .of_error (draws.spared fault rfl).1 (draws.spared fault rfl).2
  | ok result => exact ⟨fun _ _ => draws.taken result rfl, nofun⟩

theorem Creation.draws {outcome : Except Fault Unit}
    (creation : w.Creation held tag outcome after) : Draws 32 held outcome after := by
  cases creation with
  | barred | taken | refused | exhausted => exact .of_error rfl rfl
  | created _ _ _ drawn => exact .of_draw? drawn rfl

theorem Deletion.draws {outcome : Except Fault Unit}
    (deletion : w.Deletion held tag outcome after) : Draws 0 held outcome after := by
  cases deletion with
  | barred => exact .of_error rfl rfl
  | absent => exact .nothing rfl fun _ _ => rfl
  | deleted => exact .nothing rfl nofun

theorem Reaction.draws {call : Call} {outcome : Except Fault Json}
    (reaction : w.Reaction register held call outcome next after) (short : call.Sealable) :
    Draws call.need held outcome after := by
  cases reaction with
  | tpmStatus | biometryStatus | configure => exact .nothing rfl fun _ _ => rfl
  | generateKey creation => exact creation.draws.map
  | deleteKey deletion => exact deletion.draws.map
  | encryptKeyless keying | decryptKeyless keying =>
    exact .of_error keying.keeps.1 keying.keeps.2
  | decrypt keying => exact .nothing keying.keeps.2 fun _ _ => keying.keeps.1
  | encrypt keying ran =>
    rw [SessionKey.run_sealText, keying.keeps.2] at ran
    split at ran
    · rename_i nonce rest drawn
      obtain ⟨rfl, rfl⟩ := Prod.mk.inj ((if_pos short).symm.trans ran)
      exact .of_draw? drawn rfl
    · obtain ⟨rfl, rfl⟩ := Prod.mk.inj ran
      exact .of_error keying.keeps.1 rfl

theorem barrier?_ne_encrypt {reason : String} : w.barrier? ≠ some (.encrypt reason) := by
  unfold barrier?
  split
  · nofun
  · split <;> nofun

/-- A key that is not reached is no fault of the cipher. -/
theorem Keying.ne_encrypt {unconfigured fault : Fault} {reason : String}
    (keying : w.Keying register held tag unconfigured (.error fault) after)
    (other : unconfigured ≠ .encrypt reason) : fault ≠ .encrypt reason := by
  generalize made : (Except.error fault : Except Fault SessionKey) = outcome at keying
  cases keying with
  | unconfigured =>
    obtain rfl := Except.error.inj made
    exact other
  | answered _ signing =>
    cases signing with
    | barred barrier =>
      obtain rfl := Except.error.inj made
      rintro rfl
      exact barrier?_ne_encrypt barrier
    | absent =>
      obtain rfl := Except.error.inj made
      nofun
    | @refused _ refusal =>
      obtain rfl := Except.error.inj made
      cases refusal <;> nofun
    | signed => cases made

/-- A text that is too long is not sealed. That shows behind the draw of its nonce, unless the
encryption does not come so far. -/
theorem Reaction.of_not_sealable {text : String} {outcome : Except Fault Json}
    (reaction : w.Reaction register held (.encrypt tag text) outcome next after)
    (long : ¬ Sealable text) :
    after.store = held.store ∧ ∃ fault, outcome = .error fault ∧
      (fault ≠ .tooLong ∧ after.entropy = held.entropy ∨
        fault = .tooLong ∧ 12 ≤ held.entropy.bytes.length ∧
          after.entropy.bytes = held.entropy.bytes.drop 12) := by
  cases reaction with
  | encryptKeyless keying =>
    exact ⟨keying.keeps.1, _, rfl, .inl ⟨keying.ne_encrypt nofun, keying.keeps.2⟩⟩
  | encrypt keying ran =>
    refine ⟨keying.keeps.1, ?_⟩
    rw [SessionKey.run_sealText, keying.keeps.2] at ran
    split at ran
    · rename_i nonce rest drawn
      obtain ⟨rfl, rfl⟩ := Prod.mk.inj ((if_neg long).symm.trans ran)
      obtain ⟨enough, -, behind⟩ := Entropy.parts_of_draw? drawn
      exact ⟨_, rfl, .inr ⟨rfl, enough, behind⟩⟩
    · obtain ⟨rfl, rfl⟩ := Prod.mk.inj ran
      refine ⟨_, rfl, .inl ⟨?_, rfl⟩⟩
      decide

/-- An operation that fails leaves the credentials alone. -/
theorem Reaction.store_of_error {call : Call} {fault : Fault}
    (reaction : w.Reaction register held call (.error fault) next after) :
    after.store = held.store := by
  by_cases short : call.Sealable
  · exact ((reaction.draws short).spared fault rfl).1
  · obtain ⟨tag, text, rfl, long⟩ := Call.exists_of_not_sealable short
    exact (reaction.of_not_sealable long).1

/-- One that succeeds takes what it needs. -/
theorem Reaction.taken {call : Call} {result : Json}
    (reaction : w.Reaction register held call (.ok result) next after) :
    call.need ≤ held.entropy.bytes.length ∧
      after.entropy.bytes = held.entropy.bytes.drop call.need := by
  by_cases short : call.Sealable
  · exact (reaction.draws short).taken result rfl
  · obtain ⟨tag, text, rfl, long⟩ := Call.exists_of_not_sealable short
    obtain ⟨-, fault, failed, -⟩ := reaction.of_not_sealable long
    cases failed

/-- A pair that was created is the pair of the bytes that were next, under a tag that was
free. -/
theorem Reaction.inserted {result : Json}
    (reaction : w.Reaction register held (.generateKey tag) (.ok result) next after) :
    held.store.find? tag = none ∧ ∃ pair, pair.seed.val = held.entropy.bytes.take 32 ∧
      after.store = held.store.insert tag pair := by
  generalize made : (Except.ok result : Except Fault Json) = outcome at reaction
  cases reaction with
  | generateKey creation =>
    cases creation with
    | barred | taken | refused | exhausted => cases made
    | @created _ seed _ _ free _ drawn =>
      refine ⟨?_, ⟨seed⟩, (Entropy.parts_of_draw? drawn).2.1, rfl⟩
      simpa [Store.contains] using free

theorem Reaction.created_pair {result : Json}
    (reaction : w.Reaction register held (.generateKey tag) (.ok result) next after) :
    ∃ pair, after.store.find? tag = some pair ∧
      pair.seed.val = held.entropy.bytes.take 32 := by
  obtain ⟨-, pair, seed, inserted⟩ := reaction.inserted
  exact ⟨pair, inserted ▸ Store.find?_insert_self .., seed⟩

/-- An envelope that was sealed begins with the bytes that were next. -/
theorem Reaction.sealed_nonce {data : String} {result : Json}
    (reaction : w.Reaction register held (.encrypt tag data) (.ok result) next after) :
    ∃ wire raw, result = .string wire ∧ Text.Base64.decode (Text.utf8 wire) = .ok raw ∧
      raw.take 12 = held.entropy.bytes.take 12 := by
  generalize made : (Except.ok result : Except Fault Json) = outcome at reaction
  cases reaction with
  | encryptKeyless => cases made
  | @encrypt _ _ key _ sealing _ keying ran =>
    cases sealing with
    | error fault => cases made
    | ok wire =>
      obtain ⟨-, nonce, drawn, rfl⟩ := SessionKey.of_run_sealText ran
      obtain ⟨-, front, -⟩ := Entropy.parts_of_draw? drawn
      refine ⟨_, (key.envelope nonce data).toBytes, Except.ok.inj made,
        Text.Base64.decode_encode _, ?_⟩
      rw [Envelope.toBytes, List.append_assoc, ← keying.keeps.2, ← front]
      exact List.take_left' nonce.property

/-- With consent it is the number of bytes left that decides a creation. -/
theorem Reaction.creation_of_approved {outcome : Except Fault Json}
    (reaction : w.Reaction register held (.generateKey tag) outcome next after)
    (asks : w.Asks register held (.generateKey tag))
    (approved : (held.desk.answer w.prompt).1 = .ok ()) :
    (32 ≤ held.entropy.bytes.length → outcome = .ok .null) ∧
      (held.entropy.bytes.length < 32 → outcome = .error (Refusal.fault .unknownError)) := by
  cases reaction with
  | generateKey creation =>
    cases creation with
    | barred barrier => exact absurd asks.1 (not_biometric barrier)
    | taken _ taken => exact absurd (asks.2.symm.trans taken) Bool.false_ne_true
    | refused _ _ answered =>
      rw [answered] at approved
      contradiction
    | exhausted _ _ _ drawn =>
      have short := Entropy.draw?_eq_none_iff.mp drawn
      exact ⟨fun enough => absurd short (Nat.not_lt.mpr enough), fun _ => rfl⟩
    | created _ _ _ drawn =>
      have enough := (Entropy.parts_of_draw? drawn).1
      exact ⟨fun _ => rfl, fun short => absurd enough (Nat.not_le.mpr short)⟩

/-- With consent it is the number of bytes left that decides an encryption, and then the length
of the text. -/
theorem Reaction.encryption_of_approved {data : String} {outcome : Except Fault Json}
    (reaction : w.Reaction register held (.encrypt tag data) outcome next after)
    (asks : w.Asks register held (.encrypt tag data))
    (approved : (held.desk.answer w.prompt).1 = .ok ()) :
    (12 ≤ held.entropy.bytes.length → Sealable data → ∃ wire, outcome = .ok (.string wire)) ∧
      (12 ≤ held.entropy.bytes.length → ¬ Sealable data → outcome = .error .tooLong) ∧
      (held.entropy.bytes.length < 12 →
        outcome = .error (.encrypt ("nonce generation failed: " ++ Entropy.exhausted))) := by
  obtain ⟨configured, biometric, stored⟩ := asks
  obtain ⟨seed, seeded⟩ := Option.isSome_iff_exists.mp configured
  obtain ⟨pair, found⟩ := Option.isSome_iff_exists.mp stored
  have unlocked : w.Unlocked register held tag seed pair :=
    ⟨seeded, w.barrier?_eq_none_iff.mpr biometric, found, approved⟩
  refine ⟨reaction.seals unlocked, fun enough long => ?_, fun few => ?_⟩
  · simp only [reaction.sealing unlocked, SessionKey.run_sealText, Entropy.draw?_of_le enough,
      if_neg long]
    rfl
  · rw [reaction.sealing unlocked, SessionKey.run_sealText, Entropy.draw?_eq_none_iff.mpr few]
    rfl

/-- What becomes of the random bytes in an exchange. -/
structure Accounted (w : Wiring) (x : Exchange Station) : Prop where
  /-- The bytes that belong to it are the next ones, and no others are taken. -/
  taken : x.cost ≤ x.before.holdings.entropy.bytes.length ∧
    x.after.holdings.entropy.bytes = x.before.holdings.entropy.bytes.drop x.cost
  /-- A request that fails, for whatever reason, creates nothing, and takes none, if it is for
  no text that is too long for the cipher. -/
  spared : (∀ result, x.reply ≠ .success result) →
    x.after.holdings.store = x.before.holdings.store ∧
      (x.request.Sealable → x.after.holdings.entropy = x.before.holdings.entropy)
  /-- One that is for such a text fails, and takes none or, in vain, the bytes of a nonce. -/
  wasted : ¬ x.request.Sealable →
    (∀ result, x.reply ≠ .success result) ∧
      (x.cost = 0 ∨ x.cost = 12 ∧
        x.reply = .error .encryptError "encrypt error: AES-256-GCM encryption failed")
  /-- The bytes of a successful creation are the seed of the tag's new pair. -/
  seed : ∀ tag result, x.request.call? = some (.generateKey tag) → x.reply = .success result →
    ∃ pair, x.after.holdings.store.find? tag = some pair ∧
      pair.seed.val = x.before.holdings.entropy.bytes.take x.cost
  /-- The bytes of a successful encryption stand in front of the envelope. -/
  nonce : ∀ tag data result, x.request.call? = some (.encrypt tag data) →
    x.reply = .success result →
    ∃ wire raw, result = .string wire ∧ Text.Base64.decode (Text.utf8 wire) = .ok raw ∧
      raw.take 12 = x.before.holdings.entropy.bytes.take x.cost
  /-- A creation that comes so far as to need its bytes fails if they are not there. -/
  creation : ∀ tag, x.request.call? = some (.generateKey tag) → w.Consulted x →
    (x.before.holdings.desk.answer w.prompt).1 = .ok () →
    (32 ≤ x.before.holdings.entropy.bytes.length → x.reply = .success .null) ∧
    (x.before.holdings.entropy.bytes.length < 32 → x.reply =
      .error .unknownError "unknown error: credential store reported an unknown error")
  /-- So does an encryption, and if they are there, one of a text that is too long. -/
  encryption : ∀ tag data, x.request.call? = some (.encrypt tag data) → w.Consulted x →
    (x.before.holdings.desk.answer w.prompt).1 = .ok () →
    (12 ≤ x.before.holdings.entropy.bytes.length → Sealable data →
      ∃ wire, x.reply = .success (.string wire)) ∧
    (12 ≤ x.before.holdings.entropy.bytes.length → ¬ Sealable data →
      x.reply = .error .encryptError "encrypt error: AES-256-GCM encryption failed") ∧
    (x.before.holdings.entropy.bytes.length < 12 → x.reply =
      .error .encryptError "encrypt error: nonce generation failed: random source exhausted")

/-- What becomes of an exchange whose text is too long for the cipher. -/
theorem wasted_of_call {request : Request} {text : String}
    (made : request.call? = some (.encrypt tag text)) (long : ¬ Sealable text)
    (session : Session Station) :
    let x := w.service.exchange request session
    (∀ result, x.reply ≠ .success result) ∧
      x.after.holdings.store = session.holdings.store ∧
      (x.cost = 0 ∧ x.after.holdings.entropy = session.holdings.entropy ∨
        x.cost = 12 ∧ x.reply = .ofFault .tooLong ∧
          12 ≤ session.holdings.entropy.bytes.length ∧
          x.after.holdings.entropy.bytes = session.holdings.entropy.bytes.drop 12) := by
  intro x
  obtain ⟨outcome, reply, reaction⟩ := w.exchange_reacts made session
  obtain ⟨store, fault, rfl, drawn⟩ := reaction.of_not_sealable long
  have failed : ∀ result, x.reply ≠ .success result := by
    rw [show x.reply = _ from reply]
    nofun
  refine ⟨failed, store, ?_⟩
  obtain ⟨other, same⟩ | ⟨rfl, enough, behind⟩ := drawn
  · have kept : x.reply ≠ .ofFault .tooLong := fun replied =>
      other (Reply.ofFault_eq_tooLong_iff.mp (reply.symm.trans replied))
    exact .inl ⟨Exchange.cost_of_failure failed (.inr kept), same⟩
  · exact .inr ⟨Exchange.cost_of_tooLong made long reply, reply, enough, behind⟩

theorem accounted_of_no_call {request : Request} (made : request.call? = none)
    (session : Session Station) : w.Accounted (w.service.exchange request session) := by
  obtain ⟨failed, -, same⟩ := w.exchange_idle made session
  have uncalled (call : Call) : (w.service.exchange request session).request.call? ≠ some call := by
    intro called
    cases made.symm.trans called
  have sealable : request.Sealable := fun call called => absurd called (uncalled call)
  constructor
  · rw [Exchange.cost_of_failure failed (.inl sealable), same]
    exact ⟨Nat.zero_le _, rfl⟩
  · intro _
    rw [same]
    exact ⟨rfl, fun _ => rfl⟩
  · exact fun long => absurd sealable long
  · exact fun _ _ called => absurd called (uncalled _)
  · exact fun _ _ _ called => absurd called (uncalled _)
  · exact fun _ called => absurd called (uncalled _)
  · exact fun _ _ called => absurd called (uncalled _)

/-- An exchange takes the bytes that belong to it, and no others. -/
theorem taken_of_call {request : Request} {call : Call} (made : request.call? = some call)
    (session : Session Station) :
    let x := w.service.exchange request session
    x.cost ≤ session.holdings.entropy.bytes.length ∧
      x.after.holdings.entropy.bytes = session.holdings.entropy.bytes.drop x.cost := by
  intro x
  obtain ⟨outcome, reply, reaction⟩ := w.exchange_reacts made session
  cases outcome with
  | ok result =>
    have cost : x.cost = call.need := Exchange.cost_of_success made reply
    rw [cost]
    exact reaction.taken
  | error fault =>
    by_cases short : call.Sealable
    · have failed : ∀ result, x.reply ≠ .success result := by
        rw [show x.reply = _ from reply]
        nofun
      have sealable : x.request.Sealable := (Request.sealable_of_call made).mpr short
      have same := ((reaction.draws short).spared fault rfl).2
      rw [Exchange.cost_of_failure failed (.inl sealable), same]
      exact ⟨Nat.zero_le _, rfl⟩
    · obtain ⟨tag, text, rfl, long⟩ := Call.exists_of_not_sealable short
      obtain ⟨-, -, ⟨none, same⟩ | ⟨twelve, -, drawn⟩⟩ := wasted_of_call made long session
      · rw [none, same]
        exact ⟨Nat.zero_le _, rfl⟩
      · rw [twelve]
        exact drawn

theorem accounted_of_call {request : Request} {call : Call} (made : request.call? = some call)
    (session : Session Station) : w.Accounted (w.service.exchange request session) := by
  obtain ⟨outcome, reply, reaction⟩ := w.exchange_reacts made session
  have asks_iff : _ ↔ w.Asks session.register session.holdings call := consulted_iff made session
  have same {other : Call} (called : request.call? = some other) : call = other :=
    Option.some.inj (made.symm.trans called)
  have cost {result : Json}
      (success : (w.service.exchange request session).reply = .success result) :
      (w.service.exchange request session).cost = call.need := Exchange.cost_of_success made success
  have sealable : request.Sealable ↔ call.Sealable := Request.sealable_of_call made
  constructor
  · exact taken_of_call made session
  · intro failed
    cases outcome with
    | error fault =>
      refine ⟨reaction.store_of_error, fun short => ?_⟩
      exact ((reaction.draws (sealable.mp short)).spared fault rfl).2
    | ok result => exact absurd reply (failed result)
  · intro excess
    obtain ⟨tag, text, rfl, long⟩ := Call.exists_of_not_sealable (mt sealable.mpr excess)
    obtain ⟨failed, -, ⟨none, -⟩ | ⟨twelve, replied, -⟩⟩ := wasted_of_call made long session
    · exact ⟨failed, .inl none⟩
    · exact ⟨failed, .inr ⟨twelve, replied⟩⟩
  · intro tag result called success
    obtain rfl := same called
    obtain rfl := Reply.ofOutcome_eq_success_iff.mp (reply.symm.trans success)
    rw [cost success]
    exact reaction.created_pair
  · intro tag data result called success
    obtain rfl := same called
    obtain rfl := Reply.ofOutcome_eq_success_iff.mp (reply.symm.trans success)
    rw [cost success]
    exact reaction.sealed_nonce
  · intro tag called consulted approved
    obtain rfl := same called
    obtain ⟨enough, short⟩ := reaction.creation_of_approved (asks_iff.mp consulted) approved
    exact ⟨fun long => reply.trans (congrArg Reply.ofOutcome (enough long)),
      fun few => reply.trans (congrArg Reply.ofOutcome (short few))⟩
  · intro tag data called consulted approved
    obtain rfl := same called
    obtain ⟨sealed, refused, exhausted⟩ :=
      reaction.encryption_of_approved (asks_iff.mp consulted) approved
    refine ⟨?_, fun enough long => reply.trans (congrArg Reply.ofOutcome (refused enough long)),
      fun few => reply.trans (congrArg Reply.ofOutcome (exhausted few))⟩
    intro enough short
    obtain ⟨wire, rfl⟩ := sealed enough short
    exact ⟨wire, reply⟩

theorem accounted (request : Request) (session : Session Station) :
    w.Accounted (w.service.exchange request session) := by
  cases made : request.call? with
  | none => exact accounted_of_no_call made session
  | some call => exact accounted_of_call made session

end Host.Wiring

namespace Host

/-- The random bytes that a session has left are those of a source behind a place. -/
def LeftAt (source : List UInt8) (offset : Nat) (session : Session Station) : Prop :=
  offset ≤ source.length ∧ session.holdings.entropy.bytes = source.drop offset

theorem LeftAt.exchange {w : Wiring} {source : List UInt8} {offset : Nat}
    {session : Session Station} (left : LeftAt source offset session) (request : Request) :
    LeftAt source (offset + (w.service.exchange request session).cost)
      (w.service.exchange request session).after := by
  have taken := (Wiring.accounted request session : w.Accounted _).taken
  rw [w.service.before_exchange, left.2, List.length_drop, List.drop_drop] at taken
  exact ⟨by have inside := left.1; omega, taken.2⟩

/-- Each exchange of a run finds the source where the ledger says it does. -/
theorem leftAt_of_mem_ledger {w : Wiring} {source : List UInt8} {requests : List Request}
    {offset : Nat} {session : Session Station} (left : LeftAt source offset session)
    {entry : Nat × Exchange Station}
    (member : entry ∈ Exchange.ledger offset (w.service.exchanges requests session)) :
    LeftAt source entry.1 entry.2.before ∧ w.Accounted entry.2 := by
  -- What the requests in front have drawn is the offset, and the induction is for all of them.
  induction requests generalizing offset session with
  | nil => cases member
  | cons request rest ih =>
    rcases List.mem_cons.mp member with rfl | member
    · exact ⟨left, Wiring.accounted request session⟩
    · exact ih (left.exchange request) member

theorem leftAt_after {w : Wiring} {source : List UInt8} (requests : List Request) {offset : Nat}
    {session : Session Station} (left : LeftAt source offset session) :
    LeftAt source (offset + Exchange.total (w.service.exchanges requests session))
      (w.service.after requests session) := by
  induction requests generalizing offset session with
  | nil => exact left
  | cons request rest ih =>
    have next : LeftAt source _ (w.service.exchange request session).after := left.exchange request
    have behind := ih next
    rw [Nat.add_assoc] at behind
    exact behind

/-- In every run the random bytes of successful creations and encryptions lie one behind
the other, in the order of the requests, from the first byte of the source on. -/
theorem random_bytes_are_accounted (w : Wiring) (start : Session Station)
    (requests : List Request) :
    let source := start.holdings.entropy.bytes
    let run := w.service.exchanges requests start
    let total := Exchange.total run
    (∀ entry ∈ Exchange.ledger 0 run, w.Accounted entry.2 ∧
      entry.1 + entry.2.cost ≤ source.length ∧
      entry.2.before.holdings.entropy.bytes = source.drop entry.1) ∧
    (Exchange.ledger 0 run).map Prod.snd = run ∧
    (Exchange.ledger 0 run).Pairwise (fun one two => one.1 + one.2.cost ≤ two.1) ∧
    total ≤ source.length ∧
    (w.service.after requests start).holdings.entropy.bytes = source.drop total := by
  intro source run total
  have begun : LeftAt source 0 start := ⟨Nat.zero_le _, rfl⟩
  have ended : LeftAt source (0 + total) (w.service.after requests start) :=
    leftAt_after requests begun
  rw [Nat.zero_add] at ended
  refine ⟨?_, Exchange.map_snd_ledger 0 run, Exchange.pairwise_ledger 0 run, ended⟩
  intro entry member
  obtain ⟨⟨place, left⟩, accounted⟩ := leftAt_of_mem_ledger begun member
  have enough := accounted.taken.1
  rw [left, List.length_drop] at enough
  exact ⟨accounted, by omega, left⟩

/-- With 44 bytes a second creation finds too few; the encryption behind it takes the last
twelve. -/
theorem random_bytes_are_accounted_to_the_last :
    let w := Wiring.ofSettings {} none
    let start := Host.session .autoApprove ⟨List.replicate 32 7 ++ List.replicate 12 5⟩
    let before := w.service.after
      [.ofTexts "configure" [("windowsDataToSign", "s")], .ofTexts "generateKey" [("tag", "t")]]
      start
    let short := w.service.exchange (.ofTexts "generateKey" [("tag", "u")]) before
    let last := w.service.exchange (.ofTexts "encrypt" [("data", "text"), ("tag", "t")]) short.after
    short.reply =
      .error .unknownError "unknown error: credential store reported an unknown error" ∧
    short.after.holdings.store = before.holdings.store ∧
    (∃ wire raw, last.reply = .success (.string wire) ∧
      Text.Base64.decode (Text.utf8 wire) = .ok raw ∧ raw.take 12 = List.replicate 12 5) ∧
    last.after.holdings.entropy.bytes = [] := by
  intro w start before short last
  let configured : Request := .ofTexts "configure" [("windowsDataToSign", "s")]
  let created : Request := .ofTexts "generateKey" [("tag", "t")]
  obtain ⟨entries, -⟩ :=
    random_bytes_are_accounted w start [configured, created, short.request, last.request]
  have shortAccounted : w.Accounted short := (entries _ (.tail _ (.tail _ (.head _)))).1
  have lastAccounted : w.Accounted last := (entries _ (.tail _ (.tail _ (.tail _ (.head _))))).1
  have few : short.before.holdings.entropy.bytes = List.replicate 12 5 := by decide +kernel
  have shortConsulted : w.Consulted short := ⟨.generateKey "u", rfl, .inl rfl, by decide +kernel⟩
  have refused := (shortAccounted.creation "u" rfl shortConsulted rfl).2 (by rw [few]; decide)
  obtain ⟨sameStore, kept⟩ := shortAccounted.spared (by rw [refused]; nofun)
  have creates : short.request.call? = some (.generateKey "u") := rfl
  have sameSource := kept ((Request.sealable_of_call creates).mpr trivial)
  have follows : last.before = short.after := w.service.before_exchange ..
  have left : last.before.holdings.entropy.bytes = List.replicate 12 5 := by
    rw [follows, sameSource, few]
  have stored : last.before.holdings.store.contains "t" = true := by
    rw [follows, sameStore]
    decide +kernel
  have made : last.request.call? = some (.encrypt "t" "text") := rfl
  have lastConsulted : w.Consulted last := ⟨_, made, by decide +kernel, .inl rfl, stored⟩
  obtain ⟨enough, -⟩ := lastAccounted.encryption "t" "text" made lastConsulted (by decide +kernel)
  obtain ⟨wire, sealed⟩ := enough (by rw [left]; decide) (by decide)
  have cost : last.cost = 12 := Exchange.cost_of_success made sealed
  obtain ⟨other, raw, same, decoded, front⟩ := lastAccounted.nonce "t" "text" _ made sealed
  obtain rfl := Json.string.inj same
  rw [cost, left] at front
  have taken := lastAccounted.taken.2
  rw [cost, left] at taken
  exact ⟨refused, sameStore, ⟨wire, raw, sealed, decoded, front⟩, taken⟩

end Host

end PresenceSeal
