import PresenceSeal.Proofs.Host.Accounting
import PresenceSeal.Proofs.Request.Arguments

/-! What a request may change. One that fails leaves the register, the credentials and the
random source exactly as they were, but that an empty seed takes the register out of use and
a text that is too long may cost a nonce; one that succeeds changes only what it is for. -/
namespace PresenceSeal

/-- What a request may change. -/
structure Exchange.Framed (x : Exchange Station) : Prop where
  /-- A request that fails changes nothing; only one with an empty seed may touch the register,
  and only one with a text that is too long for the cipher may touch the random source. -/
  failed : (∀ result, x.reply ≠ .success result) →
    (¬ x.request.Configures "" → x.after.register = x.before.register) ∧
      x.after.holdings.store = x.before.holdings.store ∧
      (x.request.Sealable → x.after.holdings.entropy = x.before.holdings.entropy)
  /-- A text that is too long is refused, and may have cost the bytes of a nonce. -/
  oversized : ¬ x.request.Sealable →
    (∀ result, x.reply ≠ .success result) ∧
      (x.after.holdings.entropy = x.before.holdings.entropy ∨
        x.reply = .error .encryptError "encrypt error: AES-256-GCM encryption failed" ∧
          12 ≤ x.before.holdings.entropy.bytes.length ∧
          x.after.holdings.entropy.bytes = x.before.holdings.entropy.bytes.drop 12)
  /-- An empty seed is refused, takes the register out of use, and changes nothing else. -/
  emptied : x.request.Configures "" →
    x.reply = .error .configureError "configure error: Field 'dataToSign' can't be empty" ∧
      x.after.register.seed? = none ∧ x.after.holdings = x.before.holdings
  /-- A seed that is missing or no text is refused, and the previous one stays in use. -/
  unseeded : x.request.name = "configure" → (∀ seed, ¬ x.request.Configures seed) →
    (∃ message, x.reply = .error .invalidArgument message) ∧
      x.after.register = x.before.register ∧ x.after.holdings = x.before.holdings
  /-- A creation puts one new pair into the store, made of the next 32 bytes. -/
  created : ∀ tag result, x.request.call? = some (.generateKey tag) → x.reply = .success result →
    x.after.register = x.before.register ∧
      x.before.holdings.store.find? tag = none ∧
      (∃ pair, pair.seed.val = x.before.holdings.entropy.bytes.take 32 ∧
        x.after.holdings.store = x.before.holdings.store.insert tag pair) ∧
      x.after.holdings.entropy.bytes = x.before.holdings.entropy.bytes.drop 32
  /-- A deletion takes away what there is under its tag, and nothing else. -/
  deleted : ∀ tag result, x.request.call? = some (.deleteKey tag) → x.reply = .success result →
    x.after.register = x.before.register ∧
      (∀ other, x.after.holdings.store.find? other =
        if other = tag then none else x.before.holdings.store.find? other) ∧
      x.after.holdings.entropy = x.before.holdings.entropy
  /-- A new seed changes the register alone. -/
  configured : ∀ seed result, x.request.Configures seed → x.reply = .success result →
    x.after.register.seed? = some seed ∧ x.after.holdings = x.before.holdings
  /-- An encryption takes the bytes of its nonce. -/
  sealed : ∀ tag data result, x.request.call? = some (.encrypt tag data) →
    x.reply = .success result →
    x.after.register = x.before.register ∧
      x.after.holdings.store = x.before.holdings.store ∧
      12 ≤ x.before.holdings.entropy.bytes.length ∧
      x.after.holdings.entropy.bytes = x.before.holdings.entropy.bytes.drop 12
  /-- A decryption and the questions for a status change nothing. -/
  read : ∀ call result, x.request.call? = some call → x.reply = .success result →
    (call = .getTpmStatus ∨ call = .getBiometryStatus ∨ ∃ tag data, call = .decrypt tag data) →
    x.after.register = x.before.register ∧
      x.after.holdings.store = x.before.holdings.store ∧
      x.after.holdings.entropy = x.before.holdings.entropy

theorem Register.set_of_ne_empty (register : Register) {seed : String} (filled : seed ≠ "") :
    register.set seed = (.ok (), ⟨true, seed⟩) := by
  rw [set, if_neg (by simpa using filled)]

namespace Host.Wiring

variable {w : Wiring} {register next : Register} {held after : Holdings} {tag : String}

theorem Reaction.register_eq {call : Call} {outcome : Except Fault Json}
    (reaction : w.Reaction register held call outcome next after)
    (other : ∀ seed, call ≠ .configure seed) : next = register := by
  cases reaction with
  | configure seed => exact absurd rfl (other seed)
  | _ => rfl

theorem Reaction.set_seed {seed : String} {outcome : Except Fault Json}
    (reaction : w.Reaction register held (.configure seed) outcome next after) :
    outcome = (register.set seed).1.map (fun _ => .null) ∧ next = (register.set seed).2 ∧
      after = held := by
  cases reaction
  exact ⟨rfl, rfl, rfl⟩

theorem Reaction.erased {result : Json}
    (reaction : w.Reaction register held (.deleteKey tag) (.ok result) next after) :
    (∀ other, after.store.find? other =
        if other = tag then none else held.store.find? other) ∧ after.entropy = held.entropy := by
  generalize made : (Except.ok result : Except Fault Json) = outcome at reaction
  cases reaction with
  | deleteKey deletion =>
    cases deletion with
    | barred => cases made
    | absent _ missing =>
      refine ⟨fun other => ?_, rfl⟩
      split
      · rename_i same
        simpa [same, Store.contains] using missing
      · rfl
    | deleted => exact ⟨held.store.find?_erase tag, rfl⟩

theorem Reaction.store_eq {call : Call} {outcome : Except Fault Json}
    (reaction : w.Reaction register held call outcome next after)
    (creates : ∀ tag, call ≠ .generateKey tag) (deletes : ∀ tag, call ≠ .deleteKey tag) :
    after.store = held.store := by
  cases reaction with
  | tpmStatus | biometryStatus | configure => rfl
  | @generateKey tag => exact absurd rfl (creates tag)
  | @deleteKey tag => exact absurd rfl (deletes tag)
  | encryptKeyless keying | encrypt keying _ | decryptKeyless keying | decrypt keying =>
    exact keying.keeps.1

theorem framed_of_call {request : Request} {call : Call} (made : request.call? = some call)
    (session : Session Station) : (w.service.exchange request session).Framed := by
  obtain ⟨outcome, reply, reaction⟩ := w.exchange_reacts made session
  have same {other : Call} (called : request.call? = some other) : call = other :=
    Option.some.inj (made.symm.trans called)
  have seeds {seed : String} (configures : request.Configures seed) : call = .configure seed :=
    same (Request.configures_iff.mp configures)
  have succeeded {result : Json}
      (success : (w.service.exchange request session).reply = .success result) :
      outcome = .ok result := Reply.ofOutcome_eq_success_iff.mp (reply.symm.trans success)
  constructor
  · intro failed
    cases outcome with
    | ok result => exact absurd reply (failed result)
    | error fault =>
      refine ⟨fun kept => reaction.register_eq ?_, reaction.store_of_error,
        fun short => ((reaction.draws (short call made)).spared fault rfl).2⟩
      rintro seed rfl
      have filled : seed ≠ "" := by
        rintro rfl
        exact kept (Request.configures_iff.mpr made)
      have accepted := reaction.set_seed.1
      rw [Register.set_of_ne_empty _ filled] at accepted
      contradiction
  · intro excess
    obtain ⟨tag, text, rfl, long⟩ :=
      Call.exists_of_not_sealable (mt (Request.sealable_of_call made).mpr excess)
    obtain ⟨failed, -, ⟨-, same⟩ | ⟨-, replied, drawn⟩⟩ := wasted_of_call made long session
    · exact ⟨failed, .inl same⟩
    · exact ⟨failed, .inr ⟨replied, drawn⟩⟩
  · intro configures
    obtain rfl := seeds configures
    obtain ⟨rfl, register, holdings⟩ := reaction.set_seed
    refine ⟨reply, ?_, holdings⟩
    rw [register, Register.seed?_set]
    rfl
  · intro named unseeded
    obtain ⟨seed, configures⟩ := Request.configures_of_name named made
    exact absurd configures (unseeded seed)
  · intro tag result called success
    obtain rfl := same called
    obtain rfl := succeeded success
    exact ⟨reaction.register_eq nofun, reaction.inserted.1, reaction.inserted.2,
      reaction.taken.2⟩
  · intro tag result called success
    obtain rfl := same called
    obtain rfl := succeeded success
    exact ⟨reaction.register_eq nofun, reaction.erased⟩
  · intro seed result configures success
    obtain rfl := seeds configures
    obtain rfl := succeeded success
    obtain ⟨accepted, register, holdings⟩ := reaction.set_seed
    have filled : seed ≠ "" := by
      rintro rfl
      contradiction
    rw [Register.set_of_ne_empty _ filled] at register
    rw [register]
    exact ⟨rfl, holdings⟩
  · intro tag data result called success
    obtain rfl := same called
    obtain rfl := succeeded success
    exact ⟨reaction.register_eq nofun, reaction.store_eq nofun nofun,
      reaction.taken⟩
  · intro called result makes success reads
    obtain rfl := same makes
    obtain rfl := succeeded success
    refine ⟨reaction.register_eq ?_, reaction.store_eq ?_ ?_, ?_⟩
    · rintro _ rfl
      simp at reads
    · rintro _ rfl
      simp at reads
    · rintro _ rfl
      simp at reads
    · have drawn := reaction.taken.2
      rcases reads with rfl | rfl | ⟨tag, data, rfl⟩ <;> exact congrArg Entropy.mk drawn

theorem framed_of_no_call {request : Request} (made : request.call? = none)
    (session : Session Station) : (w.service.exchange request session).Framed := by
  obtain ⟨failed, register, holdings⟩ := w.exchange_idle made session
  have uncalled {call : Call} : request.call? ≠ some call := by
    rw [made]
    nofun
  have unconfigured {seed : String} : ¬ request.Configures seed :=
    mt Request.configures_iff.mp uncalled
  constructor
  · rw [register, holdings]
    exact fun _ => ⟨fun _ => rfl, rfl, fun _ => rfl⟩
  · exact fun long => absurd (fun call called => absurd called uncalled) long
  · exact fun configures => absurd configures unconfigured
  · intro named _
    have configure : Method.ofName? request.name = some .configure := by
      rw [show request.name = _ from named]
      rfl
    obtain ⟨reason, refused⟩ := Method.invalid_of_no_call configure made
    rw [w.service.exchange_of_fault configure refused session]
    exact ⟨⟨_, rfl⟩, rfl, rfl⟩
  · exact fun _ _ called => absurd called uncalled
  · exact fun _ _ called => absurd called uncalled
  · exact fun _ _ configures => absurd configures unconfigured
  · exact fun _ _ _ called => absurd called uncalled
  · exact fun _ _ called => absurd called uncalled

end Host.Wiring

/-- Whatever has become of a host, a request that fails leaves the register, the credentials
and the random source as they are, an empty seed and a text that is too long for the cipher
apart, and one that succeeds changes only its own part. -/
theorem Host.exchanges_are_framed (w : Host.Wiring) (request : Request)
    (session : Session Station) : (w.service.exchange request session).Framed := by
  cases made : request.call? with
  | none => exact Host.Wiring.framed_of_no_call made session
  | some call => exact Host.Wiring.framed_of_call made session

end PresenceSeal
