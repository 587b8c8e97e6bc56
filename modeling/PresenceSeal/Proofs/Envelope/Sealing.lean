import PresenceSeal.Envelope.Sealing
import PresenceSeal.Proofs.Text.Base64
import PresenceSeal.Proofs.Text.Utf16

/-! Sealing and opening are inverse to each other, on bytes and on texts. Opening
accepts an envelope exactly when sealing under its nonce produces it, so the tag of
a ciphertext is unique; a text comes back whatever characters it holds. What is too
long for the cipher is neither sealed nor opened. -/
namespace PresenceSeal

theorem Entropy.run_draw_adapt (n : Nat) (f : String → ε) (source : Entropy) :
    ((Entropy.draw n).adapt f).run.run source =
      match source.draw? n with
      | some (bytes, rest) => (.ok bytes, rest)
      | none => (.error (f exhausted), source) := by
  rw [Attempt.run_adapt]
  simp only [draw, ExceptT.run, StateT.run]
  cases source.draw? n with
  | none => rfl
  | some drawn => rfl

namespace Envelope

theorem cipherKey_val (key : Bytes 32) : cipherKey key.val = .ok key := by
  have read := Bytes.ofList?_eq_some_iff.mpr (rfl : key.val = key.val)
  simp only [cipherKey, read]

theorem cipherKey_of_length_ne {key : List UInt8} (wrong : key.length ≠ 32) :
    cipherKey key =
      .error (.encryption s!"invalid key length: {key.length} bytes (expected 32)") := by
  simp only [cipherKey, Bytes.ofList?, dif_neg wrong]

theorem run_sealBytes (key : Bytes 32) (plaintext : List UInt8) (source : Entropy) :
    (sealBytes plaintext key.val).run.run source =
      match source.draw? 12 with
      | some (nonce, rest) =>
        match Cipher.Gcm.encrypt? key nonce plaintext with
        | some (ciphertext, tag) => (.ok ⟨nonce, ciphertext, tag⟩, rest)
        | none => (.error (.encryption "AES-256-GCM encryption failed"), rest)
      | none =>
        (.error (.encryption ("nonce generation failed: " ++ Entropy.exhausted)), source) := by
  rw [sealBytes, cipherKey_val, Attempt.run_bind, Attempt.run_ofExcept]
  simp only []
  rw [Attempt.run_bind, Entropy.run_draw_adapt]
  cases source.draw? 12 with
  | none => rfl
  | some drawn =>
    simp only []
    cases Cipher.Gcm.encrypt? key drawn.1 plaintext <;> rfl

theorem run_sealBytes_of_length_ne {key : List UInt8} (wrong : key.length ≠ 32)
    (plaintext : List UInt8) (source : Entropy) :
    (sealBytes plaintext key).run.run source =
      (.error (.encryption s!"invalid key length: {key.length} bytes (expected 32)"), source) := by
  rw [sealBytes, cipherKey_of_length_ne wrong, Attempt.run_bind, Attempt.run_ofExcept]

theorem openBytes_val (envelope : Envelope) (key : Bytes 32) :
    envelope.openBytes key.val =
      match Cipher.Gcm.decrypt? key envelope.nonce envelope.ciphertext envelope.tag with
      | some plaintext => .ok ⟨plaintext⟩
      | none => .error .decryption := by
  cases opened : Cipher.Gcm.decrypt? key envelope.nonce envelope.ciphertext envelope.tag <;>
    simp only [openBytes, cipherKey_val, opened]

theorem openBytes_of_length_ne {key : List UInt8} (wrong : key.length ≠ 32) (envelope : Envelope) :
    envelope.openBytes key =
      .error (.encryption s!"invalid key length: {key.length} bytes (expected 32)") := by
  rw [openBytes, cipherKey_of_length_ne wrong]

/-- What opens is what encryption under the same nonce makes of the plaintext. -/
theorem openBytes_eq_ok_iff {envelope : Envelope} {key : Bytes 32} {payload : Secret.Buffer} :
    envelope.openBytes key.val = .ok payload ↔
      Cipher.Gcm.encrypt? key envelope.nonce payload.bytes =
        some (envelope.ciphertext, envelope.tag) := by
  rw [openBytes_val, ← Cipher.Gcm.decrypt?_eq_some_iff]
  cases Cipher.Gcm.decrypt? key envelope.nonce envelope.ciphertext envelope.tag with
  | none => simp only [reduceCtorEq]
  | some plaintext =>
    simp only [Except.ok.injEq, Option.some.injEq]
    exact ⟨congrArg Secret.Buffer.bytes, congrArg Secret.Buffer.mk⟩

/-- Opening undoes sealing, and sealing under the same nonce undoes opening. -/
theorem openBytes_eq_ok_iff_sealBytes {envelope : Envelope} {key : Bytes 32}
    {payload : Secret.Buffer} (rest : List UInt8) :
    envelope.openBytes key.val = .ok payload ↔
      (sealBytes payload.bytes key.val).run.run ⟨envelope.nonce.val ++ rest⟩ =
        (.ok envelope, ⟨rest⟩) := by
  rw [openBytes_eq_ok_iff, run_sealBytes, Entropy.draw?_append]
  obtain ⟨nonce, ciphertext, tag⟩ := envelope
  simp only []
  cases Cipher.Gcm.encrypt? key nonce payload.bytes with
  | none => exact iff_of_false nofun fun ran => nomatch (Prod.mk.inj ran).1
  | some parts =>
    constructor
    · rintro ⟨⟩
      rfl
    · intro ran
      obtain ⟨-, sameText, sameTag⟩ := Envelope.mk.inj (Except.ok.inj (Prod.mk.inj ran).1)
      exact congrArg some (Prod.ext sameText sameTag)

/-- An envelope with the tag that belongs to its nonce and ciphertext, in which the ciphertext is
not too long to have one. -/
def Verifies (envelope : Envelope) (key : Bytes 32) : Prop :=
  Cipher.Gcm.Fits envelope.ciphertext ∧
    Cipher.Gcm.tag (Cipher.Aes.roundKeys key) envelope.nonce envelope.ciphertext = envelope.tag

theorem openBytes_of_verifies {envelope : Envelope} {key : Bytes 32}
    (verifies : envelope.Verifies key) :
    envelope.openBytes key.val =
      .ok ⟨Cipher.Gcm.mask (Cipher.Aes.roundKeys key) envelope.nonce envelope.ciphertext⟩ := by
  have decrypted : Cipher.Gcm.decrypt? key envelope.nonce envelope.ciphertext envelope.tag =
      some _ := if_pos verifies
  rw [openBytes_val, decrypted]

theorem openBytes_of_not_verifies {envelope : Envelope} {key : Bytes 32}
    (refused : ¬ envelope.Verifies key) : envelope.openBytes key.val = .error .decryption := by
  have decrypted : Cipher.Gcm.decrypt? key envelope.nonce envelope.ciphertext envelope.tag =
      none := if_neg refused
  rw [openBytes_val, decrypted]

/-- Bytes that are too many for the cipher are refused when their nonce has been drawn. -/
theorem run_sealBytes_of_not_fits {plaintext : List UInt8}
    (long : ¬ Cipher.Gcm.Fits plaintext) (key : Bytes 32) (nonce : Bytes 12)
    (rest : List UInt8) :
    (sealBytes plaintext key.val).run.run ⟨nonce.val ++ rest⟩ =
      (.error (.encryption "AES-256-GCM encryption failed"), ⟨rest⟩) := by
  simp only [run_sealBytes, Entropy.draw?_append, Cipher.Gcm.encrypt?, if_neg long]

/-- Under a key of 32 bytes opening accepts exactly what sealing under the envelope's
nonce returns. So one tag opens a ciphertext that is short enough for the cipher and every
other one is refused, and under one nonce different envelopes hold different bytes. What is
too long is not sealed, though its nonce is drawn, and not opened. A key of any other length
is refused by both, before anything is drawn. -/
theorem openBytes_accepts_exactly_sealBytes :
    (∀ (key : Bytes 32) (envelope : Envelope) (plaintext rest : List UInt8),
      envelope.openBytes key.val = .ok ⟨plaintext⟩ ↔
        (sealBytes plaintext key.val).run.run ⟨envelope.nonce.val ++ rest⟩ =
          (.ok envelope, ⟨rest⟩)) ∧
    (∀ (key : Bytes 32) (nonce : Bytes 12) (ciphertext : List UInt8),
      ciphertext.length ≤ Nat.pow 2 36 - 32 → ∃ (tag : Bytes 16) (payload : Secret.Buffer),
        openBytes ⟨nonce, ciphertext, tag⟩ key.val = .ok payload ∧
        ∀ other ≠ tag, openBytes ⟨nonce, ciphertext, other⟩ key.val = .error .decryption) ∧
    (∀ (key : Bytes 32) (nonce : Bytes 12) (data : List UInt8), Nat.pow 2 36 - 32 < data.length →
      (∀ tag, openBytes ⟨nonce, data, tag⟩ key.val = .error .decryption) ∧
      ∀ rest, (sealBytes data key.val).run.run ⟨nonce.val ++ rest⟩ =
        (.error (.encryption "AES-256-GCM encryption failed"), ⟨rest⟩)) ∧
    (∀ (key : List UInt8) (one two : Envelope) (payload : Secret.Buffer),
      one.nonce = two.nonce → one.openBytes key = .ok payload →
        two.openBytes key = .ok payload → one = two) ∧
    (∀ key : List UInt8, key.length ≠ 32 →
      (∀ envelope : Envelope, envelope.openBytes key =
        .error (.encryption s!"invalid key length: {key.length} bytes (expected 32)")) ∧
      ∀ (plaintext : List UInt8) (source : Entropy),
        (sealBytes plaintext key).run.run source =
          (.error (.encryption s!"invalid key length: {key.length} bytes (expected 32)"),
            source)) := by
  refine ⟨?_, ?_, ?_, ?_, ?_⟩
  · intro key envelope plaintext rest
    exact openBytes_eq_ok_iff_sealBytes rest
  · intro key nonce ciphertext fits
    refine ⟨Cipher.Gcm.tag (Cipher.Aes.roundKeys key) nonce ciphertext, _,
      openBytes_of_verifies ⟨Cipher.Gcm.fits_iff.mpr fits, rfl⟩, ?_⟩
    intro other different
    exact openBytes_of_not_verifies fun verifies => different verifies.2.symm
  · intro key nonce data long
    have excess : ¬ Cipher.Gcm.Fits data := mt Cipher.Gcm.fits_iff.mp (Nat.not_le.mpr long)
    exact ⟨fun tag => openBytes_of_not_verifies fun verifies => excess verifies.1,
      run_sealBytes_of_not_fits excess key nonce⟩
  · intro key one two payload sameNonce openedOne openedTwo
    by_cases length : key.length = 32
    · obtain ⟨cipher, rfl⟩ : ∃ cipher : Bytes 32, cipher.val = key := ⟨⟨key, length⟩, rfl⟩
      have encryptedOne := openBytes_eq_ok_iff.mp openedOne
      have encryptedTwo := openBytes_eq_ok_iff.mp openedTwo
      rw [sameNonce, encryptedTwo] at encryptedOne
      obtain ⟨sameText, sameTag⟩ := Prod.mk.inj (Option.some.inj encryptedOne)
      obtain ⟨nonce, ciphertext, tag⟩ := one
      simp only at sameNonce sameText sameTag
      rw [sameNonce, ← sameText, ← sameTag]
    · rw [openBytes_of_length_ne length] at openedOne
      contradiction
  · intro key wrong
    exact ⟨openBytes_of_length_ne wrong, run_sealBytes_of_length_ne wrong⟩

/-- A key that opens what it sealed, and one that is a byte too short. -/
theorem openBytes_accepts_under_zero_key :
    let key := Bytes.zero 32
    let nonce := Bytes.zero 12
    (∃ (ciphertext : List UInt8) (tag : Bytes 16),
      (sealBytes [1, 2, 3] key.val).run.run ⟨nonce.val ++ [4]⟩ =
        (.ok ⟨nonce, ciphertext, tag⟩, ⟨[4]⟩) ∧
      (∀ other ≠ tag, openBytes ⟨nonce, ciphertext, other⟩ key.val = .error .decryption) ∧
      ∀ other : Envelope, other.nonce = nonce → other.openBytes key.val = .ok ⟨[1, 2, 3]⟩ →
        other = ⟨nonce, ciphertext, tag⟩) ∧
    (List.replicate 31 (0 : UInt8)).length ≠ 32 ∧
    (sealBytes [1, 2, 3] (List.replicate 31 0)).run.run ⟨[4]⟩ =
      (.error (.encryption "invalid key length: 31 bytes (expected 32)"), ⟨[4]⟩) := by
  intro key nonce
  obtain ⟨accepts, tags, excess, unique, short⟩ := openBytes_accepts_exactly_sealBytes
  refine ⟨?_, by decide, (short (List.replicate 31 0) (by decide)).2 [1, 2, 3] ⟨[4]⟩⟩
  obtain ⟨⟨ciphertext, tag⟩, encrypted⟩ :
      ∃ parts, Cipher.Gcm.encrypt? key nonce [1, 2, 3] = some parts := ⟨_, if_pos (by decide)⟩
  have ran : (sealBytes [1, 2, 3] key.val).run.run ⟨nonce.val ++ [4]⟩ =
      (.ok ⟨nonce, ciphertext, tag⟩, ⟨[4]⟩) := by
    simp only [run_sealBytes, Entropy.draw?_append, encrypted]
  have opened := (accepts key ⟨nonce, ciphertext, tag⟩ [1, 2, 3] [4]).mpr ran
  have fits : ciphertext.length ≤ Nat.pow 2 36 - 32 := by
    refine Nat.not_lt.mp fun long => ?_
    rw [(excess key nonce ciphertext long).1 tag] at opened
    cases opened
  obtain ⟨right, payload, -, others⟩ := tags key nonce ciphertext fits
  obtain rfl : tag = right := by
    refine Decidable.not_not.mp fun differs => ?_
    rw [others tag differs] at opened
    cases opened
  refine ⟨ciphertext, tag, ran, others, ?_⟩
  intro other sameNonce openedOther
  exact unique key.val other _ ⟨[1, 2, 3]⟩ sameNonce openedOther opened

theorem ofText_toText (envelope : Envelope) : ofText envelope.toText = .ok envelope := by
  simp only [ofText, toText, Text.Base64.decode_encode, ofBytes_toBytes]

theorem length_toText (envelope : Envelope) :
    envelope.toText.length = 4 * ((minLength + envelope.ciphertext.length + 2) / 3) := by
  rw [toText, String.length_ofList, Text.Base64.length_encode, length_toBytes]

end Envelope

theorem Secret.Buffer.text_ofText (text : String) :
    (Secret.Buffer.ofText text).text = .ok text := by
  simp only [Secret.Buffer.text, Secret.Buffer.ofText, Text.Utf16.decode_encode,
    String.ofList_toList]

/-- A text of few enough code units, two bytes each, for the cipher. -/
def Sealable (text : String) : Prop := 2 * (Text.Utf16.units text.toList).length ≤ Nat.pow 2 36 - 32

instance (text : String) : Decidable (Sealable text) := inferInstanceAs (Decidable (_ ≤ _))

theorem sealable_iff {text : String} :
    Sealable text ↔ Cipher.Gcm.Fits (Secret.Buffer.ofText text).bytes := by
  rw [Cipher.Gcm.fits_iff, Secret.Buffer.ofText, Text.Utf16.length_encode, Sealable]

namespace SessionKey

/-- What a text that is sealable is sealed to under a nonce. -/
def envelope (key : SessionKey) (nonce : Bytes 12) (text : String) : Envelope :=
  let keys := Cipher.Aes.roundKeys key.bytes
  let ciphertext := Cipher.Gcm.mask keys nonce (Secret.Buffer.ofText text).bytes
  ⟨nonce, ciphertext, Cipher.Gcm.tag keys nonce ciphertext⟩

theorem encrypt?_ofText {text : String} (short : Sealable text) (key : SessionKey)
    (nonce : Bytes 12) :
    Cipher.Gcm.encrypt? key.bytes nonce (Secret.Buffer.ofText text).bytes =
      some ((key.envelope nonce text).ciphertext, (key.envelope nonce text).tag) :=
  if_pos (sealable_iff.mp short)

theorem run_sealText (key : SessionKey) (text : String) (source : Entropy) :
    (key.sealText text).run.run source =
      match source.draw? 12 with
      | some (nonce, rest) =>
        if Sealable text then (.ok (key.envelope nonce text).toText, rest)
        else (.error (.encryption "AES-256-GCM encryption failed"), rest)
      | none =>
        (.error (.encryption ("nonce generation failed: " ++ Entropy.exhausted)), source) := by
  rw [sealText, Attempt.run_bind, Envelope.run_sealBytes]
  cases source.draw? 12 with
  | none => rfl
  | some drawn =>
    by_cases short : Sealable text
    · simp only [encrypt?_ofText short, if_pos short]
      rfl
    · simp only [Cipher.Gcm.encrypt?, if_neg (mt sealable_iff.mpr short), if_neg short]

theorem openText_envelope (key : SessionKey) (nonce : Bytes 12) {text : String}
    (short : Sealable text) : key.openText (key.envelope nonce text).toText = .ok text := by
  have opened : (key.envelope nonce text).openBytes key.bytes.val =
      .ok (Secret.Buffer.ofText text) :=
    Envelope.openBytes_eq_ok_iff.mpr (encrypt?_ofText short key nonce)
  rw [openText, Envelope.ofText_toText]
  simp only [bind, Except.bind, opened]
  exact Secret.Buffer.text_ofText text

/-- A text that has been sealed was not too long, and was sealed under the nonce that was drawn. -/
theorem of_run_sealText {key : SessionKey} {text wire : String} {source rest : Entropy}
    (sealed : (key.sealText text).run.run source = (.ok wire, rest)) :
    Sealable text ∧ ∃ nonce, source.draw? 12 = some (nonce, rest) ∧
      wire = (key.envelope nonce text).toText := by
  rw [run_sealText] at sealed
  split at sealed
  · rename_i nonce left drawn
    split at sealed
    · rename_i short
      obtain ⟨made, rfl⟩ := Prod.mk.inj sealed
      exact ⟨short, nonce, drawn, (Except.ok.inj made).symm⟩
    · cases (Prod.mk.inj sealed).1
  · cases (Prod.mk.inj sealed).1

theorem openText_of_sealText {key : SessionKey} {text wire : String} {source rest : Entropy}
    (sealed : (key.sealText text).run.run source = (.ok wire, rest)) :
    key.openText wire = .ok text := by
  obtain ⟨short, nonce, -, rfl⟩ := of_run_sealText sealed
  exact openText_envelope key nonce short

theorem length_ciphertext (key : SessionKey) (nonce : Bytes 12) (text : String) :
    (key.envelope nonce text).ciphertext.length = 2 * (Text.Utf16.units text.toList).length := by
  simp only [envelope, Cipher.Gcm.length_mask, Secret.Buffer.ofText, Text.Utf16.length_encode]

/-- Whatever characters a text holds, twelve random bytes are enough to seal it, as long as it
is not too long for the cipher, and the wire text opens to it again: nonce, two bytes of
ciphertext to a code unit, and tag. -/
theorem openText_sealText (key : SessionKey) (text : String) (source : Entropy)
    (enough : 12 ≤ source.bytes.length) (short : Sealable text) :
    let units := (Text.Utf16.units text.toList).length
    ∃ (wire : String) (nonce : Bytes 12) (ciphertext : List UInt8) (tag : Bytes 16),
      (key.sealText text).run.run source = (.ok wire, ⟨source.bytes.drop 12⟩) ∧
      key.openText wire = .ok text ∧
      nonce.val = source.bytes.take 12 ∧
      Cipher.Gcm.encrypt? key.bytes nonce (Text.Utf16.encode text.toList) =
        some (ciphertext, tag) ∧
      Text.Base64.decode (Text.utf8 wire) = .ok (nonce.val ++ ciphertext ++ tag.val) ∧
      ciphertext.length = 2 * units ∧
      wire.length = 4 * ((28 + 2 * units + 2) / 3) ∧ (Text.utf8 wire).length = wire.length := by
  intro units
  have drawn := Entropy.draw?_of_le enough
  let nonce : Bytes 12 := ⟨source.bytes.take 12, List.length_take_of_le enough⟩
  let made := key.envelope nonce text
  have length : made.ciphertext.length = 2 * units := length_ciphertext key nonce text
  refine ⟨made.toText, nonce, made.ciphertext, made.tag, ?_, openText_envelope key nonce short, rfl,
    encrypt?_ofText short key nonce, ?_, length, ?_, ?_⟩
  · simp only [run_sealText, drawn, if_pos short]
    rfl
  · exact Text.Base64.decode_encode made.toBytes
  · rw [Envelope.length_toText, length, Envelope.minLength]
  · exact Text.Base64.length_utf8_encode made.toBytes

/-- An astral character and a NUL, with the last of the random bytes. -/
theorem openText_sealText_astral :
    let key : SessionKey := ⟨Bytes.zero 32⟩
    12 ≤ (List.replicate 12 (7 : UInt8)).length ∧ Sealable "🔒\x00" ∧
    ∃ (wire : String) (ciphertext : List UInt8) (tag : Bytes 16),
      (key.sealText "🔒\x00").run.run ⟨List.replicate 12 7⟩ = (.ok wire, ⟨[]⟩) ∧
      key.openText wire = .ok "🔒\x00" ∧
      Text.Base64.decode (Text.utf8 wire) = .ok (List.replicate 12 7 ++ ciphertext ++ tag.val) ∧
      ciphertext.length = 6 ∧ wire.length = 48 := by
  intro key
  refine ⟨by decide, by decide, ?_⟩
  obtain ⟨wire, nonce, ciphertext, tag, sealed, opened, drawn, -, decoded, length, long, -⟩ :=
    openText_sealText key "🔒\x00" ⟨List.replicate 12 7⟩ (by decide) (by decide)
  rw [drawn] at decoded
  exact ⟨wire, ciphertext, tag, sealed, opened, decoded, length, long⟩

end SessionKey

end PresenceSeal
