import PresenceSeal.Proofs.Host.Reaction

/-! What a host has sealed it can open again. The session key is made of the seed and
of the tag's key pair alone, and no request but the tag's own deletion touches the
pair; so it does not matter what else was asked in between. -/
namespace PresenceSeal.Host

namespace Wiring

variable {w : Wiring} {register : Register} {held after : Holdings} {tag : String}

theorem Signing.keeps {challenge : List UInt8} {outcome : Except Fault Secret.Buffer}
    (signing : w.Signing held tag challenge outcome after) :
    after.store = held.store ∧ after.entropy = held.entropy := by
  cases signing <;> exact ⟨rfl, rfl⟩

theorem Keying.keeps {unconfigured : Fault} {outcome : Except Fault SessionKey}
    (keying : w.Keying register held tag unconfigured outcome after) :
    after.store = held.store ∧ after.entropy = held.entropy := by
  cases keying with
  | unconfigured => exact ⟨rfl, rfl⟩
  | answered _ signing => exact signing.keeps

/-- What it takes to reach the session key of a tag: a seed, supported biometry, the tag's
key pair and consent. -/
structure Unlocked (w : Wiring) (register : Register) (held : Holdings) (tag seed : String)
    (pair : Signature.Ed25519.KeyPair) : Prop where
  seeded : register.seed? = some seed
  unbarred : w.barrier? = none
  found : held.store.find? tag = some pair
  approved : (held.desk.answer w.prompt).1 = .ok ()

def sessionKey (seed : String) (pair : Signature.Ed25519.KeyPair) : SessionKey :=
  .derive (pair.sign (Secret.Buffer.ofText seed).bytes).val

/-- The key is reached exactly when nothing is missing, and then it is the key of the seed
and the pair. -/
theorem Keying.ok_iff {unconfigured : Fault} {outcome : Except Fault SessionKey}
    (keying : w.Keying register held tag unconfigured outcome after) (key : SessionKey) :
    outcome = .ok key ↔
      ∃ seed pair, w.Unlocked register held tag seed pair ∧ key = sessionKey seed pair := by
  constructor
  · intro ok
    cases keying with
    | unconfigured => cases ok
    | answered configured signing =>
      cases signing with
      | barred | absent | refused => cases ok
      | signed barrier found answered =>
        obtain rfl := Except.ok.inj ok
        exact ⟨_, _, ⟨configured, barrier, found, congrArg Prod.fst answered⟩, rfl⟩
  · rintro ⟨seed, pair, ⟨seeded, noBarrier, found, approved⟩, rfl⟩
    cases keying with
    | unconfigured missing =>
      rw [missing] at seeded
      contradiction
    | answered configured signing =>
      obtain rfl := Option.some.inj (configured.symm.trans seeded)
      cases signing with
      | barred barrier =>
        rw [barrier] at noBarrier
        contradiction
      | absent _ missing =>
        rw [missing] at found
        contradiction
      | refused _ _ answered =>
        rw [answered] at approved
        contradiction
      | signed _ stored _ =>
        obtain rfl := Option.some.inj (stored.symm.trans found)
        rfl

/-- Where nothing is missing, the key of the seed and the pair is reached. -/
theorem Keying.reached {unconfigured : Fault} {outcome : Except Fault SessionKey} {seed : String}
    {pair : Signature.Ed25519.KeyPair}
    (keying : w.Keying register held tag unconfigured outcome after)
    (unlocked : w.Unlocked register held tag seed pair) : outcome = .ok (sessionKey seed pair) :=
  (keying.ok_iff (sessionKey seed pair)).mpr ⟨seed, pair, unlocked, rfl⟩

/-- A key pair stays where it is unless its tag is deleted. -/
theorem Reaction.keeps_pair {call : Call} {outcome : Except Fault Json} {next : Register}
    {pair : Signature.Ed25519.KeyPair}
    (reaction : w.Reaction register held call outcome next after)
    (kept : call = .deleteKey tag → ∀ result, outcome ≠ .ok result)
    (found : held.store.find? tag = some pair) : after.store.find? tag = some pair := by
  cases reaction with
  | tpmStatus | biometryStatus | configure => exact found
  | @generateKey other _ _ creation =>
    cases creation with
    | barred | taken | refused | exhausted => exact found
    | created _ free =>
      have differ : tag ≠ other := by
        rintro rfl
        exact free (by rw [Store.contains, found]; rfl)
      rw [Store.find?_insert_of_ne held.store _ differ, found]
  | @deleteKey other _ _ deletion =>
    cases deletion with
    | barred | absent => exact found
    | deleted =>
      have differ : tag ≠ other := by
        rintro rfl
        exact kept rfl .null rfl
      rw [Store.find?_erase, if_neg differ, found]
  | encryptKeyless keying | encrypt keying _ | decryptKeyless keying | decrypt keying =>
    simpa only [keying.keeps.1] using found

theorem exchange_keeps_pair (w : Wiring) {pair : Signature.Ed25519.KeyPair}
    (request : Request) (session : Session Station)
    (kept : request.call? = some (.deleteKey tag) →
      ∀ result, (w.service.exchange request session).reply ≠ .success result)
    (found : session.holdings.store.find? tag = some pair) :
    (w.service.exchange request session).after.holdings.store.find? tag = some pair := by
  cases made : request.call? with
  | none =>
    obtain ⟨_, _, same⟩ := w.exchange_idle made session
    rw [same]
    exact found
  | some call =>
    obtain ⟨outcome, reply, reaction⟩ := w.exchange_reacts made session
    refine reaction.keeps_pair ?_ found
    rintro rfl result ok
    exact kept made result (reply.trans (Reply.ofOutcome_eq_success_iff.mpr ok))

/-- What was sealed was sealed under the key of a seed and a pair that are still there. -/
theorem Reaction.sealed {data wire : String} {outcome : Except Fault Json} {next : Register}
    (reaction : w.Reaction register held (.encrypt tag data) outcome next after)
    (success : outcome = .ok (.string wire)) :
    ∃ seed pair, w.Unlocked register held tag seed pair ∧
      (sessionKey seed pair).openText wire = .ok data ∧ after.store.find? tag = some pair := by
  cases reaction with
  | encryptKeyless => contradiction
  | @encrypt _ _ key keyed sealing rest keying ran =>
    obtain ⟨seed, pair, unlocked, rfl⟩ := (keying.ok_iff key).mp rfl
    cases sealing with
    | error fault => contradiction
    | ok made =>
      obtain rfl : made = wire := Json.string.inj (Except.ok.inj success)
      refine ⟨seed, pair, unlocked, SessionKey.openText_of_sealText ran, ?_⟩
      simpa only [keying.keeps.1] using unlocked.found

/-- Where nothing is missing, a text is sealed under the key of the seed and the pair. -/
theorem Reaction.sealing {data seed : String} {outcome : Except Fault Json} {next : Register}
    {pair : Signature.Ed25519.KeyPair}
    (reaction : w.Reaction register held (.encrypt tag data) outcome next after)
    (unlocked : w.Unlocked register held tag seed pair) :
    outcome = (((((sessionKey seed pair).sealText data).run.run held.entropy).1).mapError
      Fault.ofSeal).map .string := by
  cases reaction with
  | encryptKeyless keying => cases keying.reached unlocked
  | encrypt keying ran =>
    obtain rfl := Except.ok.inj (keying.reached unlocked)
    rw [← keying.keeps.2, ran]

/-- Twelve random bytes are enough for that, if the text is not too long. -/
theorem Reaction.seals {data seed : String} {outcome : Except Fault Json} {next : Register}
    {pair : Signature.Ed25519.KeyPair}
    (reaction : w.Reaction register held (.encrypt tag data) outcome next after)
    (unlocked : w.Unlocked register held tag seed pair)
    (enough : 12 ≤ held.entropy.bytes.length) (short : Sealable data) :
    ∃ wire, outcome = .ok (.string wire) := by
  simp only [reaction.sealing unlocked, SessionKey.run_sealText, Entropy.draw?_of_le enough,
    if_pos short]
  exact ⟨_, rfl⟩

/-- Where nothing is missing, an envelope is opened under the key of the seed and the pair. -/
theorem Reaction.opened {wire seed : String} {outcome : Except Fault Json} {next : Register}
    {pair : Signature.Ed25519.KeyPair}
    (reaction : w.Reaction register held (.decrypt tag wire) outcome next after)
    (unlocked : w.Unlocked register held tag seed pair) :
    outcome = (((sessionKey seed pair).openText wire).mapError Fault.ofSeal).map .string ∧
      next = register ∧ after.store = held.store ∧ after.entropy = held.entropy := by
  cases reaction with
  | decryptKeyless keying => cases keying.reached unlocked
  | decrypt keying =>
    obtain rfl := Except.ok.inj (keying.reached unlocked)
    exact ⟨rfl, rfl, keying.keeps⟩

end Wiring

/-- An envelope that a host sealed under a seed opens to its text whenever the seed is in
use again, the tag's credential has not been deleted since and the user consents. Only
consent is used up by it. -/
theorem decrypt_recovers (settings : Settings) (folder : Option Processor.Folder)
    (gate : Consent.Gate) (source : Entropy) (earlier between : List Request)
    (sealing opening : Request) (tag data seed wire : String) :
    let service := Host.service settings folder
    let sealed := service.exchange sealing (service.after earlier (Host.session gate source))
    let later := service.after between sealed.after
    let opened := service.exchange opening later
    sealing.call? = some (.encrypt tag data) →
    sealed.reply = .success (.string wire) →
    sealed.before.register.seed? = some seed →
    (∀ x ∈ service.exchanges between sealed.after,
      x.request.call? = some (.deleteKey tag) → ∀ result, x.reply ≠ .success result) →
    opening.call? = some (.decrypt tag wire) →
    later.register.seed? = some seed →
    (later.holdings.desk.answer settings.consent.prompt).1 = .ok () →
    opened.reply = .success (.string data) ∧
      opened.after.register = later.register ∧
      opened.after.holdings.store = later.holdings.store ∧
      opened.after.holdings.entropy = later.holdings.entropy := by
  let w := Wiring.ofSettings settings folder
  intro service sealed later opened sealingCall success seeded undeleted openingCall seededAgain
    approved
  obtain ⟨first, sealedReply, sealing'⟩ := w.exchange_reacts sealingCall
    (service.after earlier (Host.session gate source))
  have firstOk : first = .ok (.string wire) :=
    Reply.ofOutcome_eq_success_iff.mp (sealedReply.symm.trans success)
  obtain ⟨usedSeed, pair, unlocked, opens, stored⟩ := sealing'.sealed firstOk
  obtain rfl : usedSeed = seed := Option.some.inj (unlocked.seeded.symm.trans seeded)
  -- The invariant of the requests in between is the pair; seed and consent may come and go.
  have stays : later.holdings.store.find? tag = some pair := by
    refine service.after_keeps (fun session => session.holdings.store.find? tag = some pair)
      ?_ stored
    intro x member found
    have kept := undeleted x member
    obtain ⟨_, request, _, _, rfl⟩ := service.mem_exchanges.mp member
    exact w.exchange_keeps_pair request _ kept found
  obtain ⟨second, openedReply, opening'⟩ := w.exchange_reacts openingCall later
  obtain ⟨secondOk, sameRegister, sameStore, sameSource⟩ := opening'.opened
    ⟨seededAgain, unlocked.unbarred, stays, approved⟩
  rw [opens] at secondOk
  refine ⟨openedReply.trans ?_, sameRegister, sameStore, sameSource⟩
  rw [secondOk]
  rfl

/-- The seed is rejected and given again before the envelope comes back. -/
theorem decrypt_recovers_after_reconfiguration :
    let service := Host.service {} none
    let earlier :=
      [.ofTexts "configure" [("windowsDataToSign", "s")], .ofTexts "generateKey" [("tag", "t")]]
    let between :=
      [.ofTexts "deleteKey" [("tag", "u")], .ofTexts "configure" [("windowsDataToSign", "")],
        .ofTexts "configure" [("windowsDataToSign", "s")]]
    let sealed := service.exchange (.ofTexts "encrypt" [("data", "text"), ("tag", "t")])
      (service.after earlier (Host.session .autoApprove ⟨List.replicate 44 7⟩))
    ∃ wire, sealed.reply = .success (.string wire) ∧
      (service.exchange (.ofTexts "decrypt" [("data", wire), ("tag", "t")])
        (service.after between sealed.after)).reply = .success (.string "text") := by
  intro service earlier between sealed
  let w := Wiring.ofSettings {} none
  have sealing : sealed.request.call? = some (.encrypt "t" "text") := rfl
  have unlocked : w.Unlocked sealed.before.register sealed.before.holdings "t" "s"
      ⟨⟨List.replicate 32 7, rfl⟩⟩ := ⟨rfl, rfl, rfl, rfl⟩
  obtain ⟨outcome, reply, reaction⟩ := w.exchange_reacts sealing sealed.before
  obtain ⟨wire, rfl⟩ := reaction.seals unlocked (by decide) (by decide)
  have undeleted : ∀ request ∈ between, request.call? ≠ some (.deleteKey "t") := by decide
  have approved : ((service.after between sealed.after).holdings.desk.answer {}).1 = .ok () := by
    decide +kernel
  refine ⟨wire, reply, (decrypt_recovers {} none .autoApprove ⟨List.replicate 44 7⟩ earlier between
    sealed.request (.ofTexts "decrypt" [("data", wire), ("tag", "t")]) "t" "text" "s" wire
    sealing reply rfl ?_ rfl rfl approved).1⟩
  intro x member deletes
  obtain ⟨before, request, later, split, rfl⟩ := service.mem_exchanges.mp member
  exact absurd deletes (undeleted request (split ▸ List.mem_append_right _ List.mem_cons_self))

end PresenceSeal.Host
