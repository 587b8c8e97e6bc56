import PresenceSeal.Proofs.Cipher.Tag
import PresenceSeal.Proofs.Envelope.Opening
import PresenceSeal.Proofs.Request.Exchange

/-! Envelopes that were changed on their way are refused. Each of their three parts needs
its own reason: the tag is compared, the nonce decides the tag's cover, and the ciphertext
decides the hash under it. -/
namespace PresenceSeal

namespace Envelope

theorem drop_toBytes (envelope : Envelope) :
    envelope.toBytes.drop 12 = envelope.ciphertext ++ envelope.tag.val := by
  rw [toBytes, List.append_assoc]
  exact List.drop_left' envelope.nonce.property

theorem take_toBytes (envelope : Envelope) :
    envelope.toBytes.take (envelope.toBytes.length - 16) =
      envelope.nonce.val ++ envelope.ciphertext := by
  apply List.take_left'
  rw [length_toBytes, List.length_append, envelope.nonce.property, minLength]
  omega

/-- Bytes as many as an envelope's are an envelope's. -/
theorem exists_toBytes {envelope : Envelope} {altered : List UInt8}
    (length : altered.length = envelope.toBytes.length) :
    ∃ other : Envelope, other.toBytes = altered ∧
      other.ciphertext.length = envelope.ciphertext.length := by
  have long : minLength ≤ altered.length := by
    rw [length, length_toBytes]
    exact Nat.le_add_right ..
  obtain ⟨other, written⟩ := exists_toBytes_of_le long
  refine ⟨other, written, ?_⟩
  rw [← written, length_toBytes, length_toBytes] at length
  exact Nat.add_left_cancel length

/-- A bit between the nonce and the tag is a bit of the ciphertext. -/
theorem toBytes_flipBit (envelope : Envelope) {position : Nat}
    (inside : position < envelope.ciphertext.length) (bit : Nat) :
    flipBit (12 + position) bit envelope.toBytes =
      toBytes { envelope with ciphertext := flipBit position bit envelope.ciphertext } := by
  obtain ⟨⟨nonce, twelve⟩, ciphertext, tag⟩ := envelope
  have behind : flipBit (12 + position) bit (nonce ++ (ciphertext ++ tag.val)) =
      nonce ++ flipBit position bit (ciphertext ++ tag.val) := by
    rw [← twelve]
    exact List.modifyTailIdx_add ..
  have before : flipBit position bit (ciphertext ++ tag.val) =
      flipBit position bit ciphertext ++ tag.val := by
    have parts :=
      List.take_append_drop ciphertext.length (flipBit position bit (ciphertext ++ tag.val))
    rw [flipBit, List.take_modify, List.drop_modify_of_lt _ _ _ _ inside, List.take_left,
      List.drop_left] at parts
    exact parts.symm
  simp only [toBytes, List.append_assoc]
  rw [behind, before]

end Envelope

namespace SessionKey

/-- Refused bytes: as wire text they do not open under the key, and whatever the platform
is, a request to decrypt them that reaches this key is answered without any text. -/
def Refuses (key : SessionKey) (bytes : List UInt8) : Prop :=
  let wire := String.ofList (Text.Base64.encode bytes)
  key.openText wire = .error .decryption ∧
  ∀ (δ : Type) (service : Service δ) (request : Request) (tag : String) (session keyed : Session δ),
    service.codec = Codec.ofEnvelopes →
    request.call? = some (.decrypt tag wire) →
    (service.sessionKey tag (.decrypt Service.unconfiguredReason)).run.run
      (session.noting .debug "handling method call") = (.ok key, keyed) →
    (service.exchange request session).reply =
      .error .decryptError "decrypt error: authentication tag verification failed"

theorem refuses_of_openText {key : SessionKey} {bytes : List UInt8}
    (refused : key.openText (String.ofList (Text.Base64.encode bytes)) = .error .decryption) :
    key.Refuses bytes := by
  refine ⟨refused, ?_⟩
  intro δ service request tag session keyed codec made reached
  rw [service.exchange_of_call made, Service.perform, Attempt.run_bind, Service.decrypt,
    Attempt.run_bind, reached]
  simp only []
  rw [Attempt.run_bind, Part.run_attempt, codec, Codec.ofEnvelopes]
  simp only []
  rw [refused]
  rfl

theorem refuses_of_tag_ne {key : SessionKey} {envelope : Envelope}
    (different : Cipher.Gcm.tag (Cipher.Aes.roundKeys key.bytes) envelope.nonce
      envelope.ciphertext ≠ envelope.tag) : key.Refuses envelope.toBytes := by
  apply refuses_of_openText
  have read : Envelope.ofText (String.ofList (Text.Base64.encode envelope.toBytes)) =
      .ok envelope := Envelope.ofText_toText envelope
  exact openText_eq_decryption_iff.mpr
    (forged_iff.mpr ⟨envelope, read, fun verifies => different verifies.2⟩)

/-- The tag of a sealed text is the tag of its nonce and ciphertext. -/
theorem tag_envelope (key : SessionKey) (nonce : Bytes 12) (text : String) :
    (key.envelope nonce text).tag = Cipher.Gcm.tag (Cipher.Aes.roundKeys key.bytes) nonce
      (key.envelope nonce text).ciphertext := rfl

theorem refuses_nonce {key : SessionKey} {nonce : Bytes 12} {text : String} {altered : List UInt8}
    (length : altered.length = (key.envelope nonce text).toBytes.length)
    (changed : altered ≠ (key.envelope nonce text).toBytes)
    (same : altered.drop 12 = (key.envelope nonce text).toBytes.drop 12) : key.Refuses altered := by
  obtain ⟨other, rfl, long⟩ := Envelope.exists_toBytes length
  rw [Envelope.drop_toBytes, Envelope.drop_toBytes] at same
  obtain ⟨sameText, sameTag⟩ := List.append_inj same long
  have tags : other.tag = (key.envelope nonce text).tag := Subtype.ext sameTag
  apply refuses_of_tag_ne
  intro verified
  rw [tags, tag_envelope, ← sameText] at verified
  have nonces := Cipher.Gcm.tag_injective_nonce _ _ verified
  apply changed
  obtain ⟨n, c, t⟩ := other
  simp only at nonces sameText tags
  subst nonces sameText tags
  rfl

theorem refuses_tag {key : SessionKey} {nonce : Bytes 12} {text : String} {altered : List UInt8}
    (length : altered.length = (key.envelope nonce text).toBytes.length)
    (changed : altered ≠ (key.envelope nonce text).toBytes)
    (same : altered.take (altered.length - 16) = (key.envelope nonce text).toBytes.take
      ((key.envelope nonce text).toBytes.length - 16)) : key.Refuses altered := by
  obtain ⟨other, rfl, -⟩ := Envelope.exists_toBytes length
  have sameLength : other.nonce.val.length = (key.envelope nonce text).nonce.val.length := by
    rw [other.nonce.property, (key.envelope nonce text).nonce.property]
  rw [Envelope.take_toBytes, Envelope.take_toBytes] at same
  obtain ⟨sameNonce, sameText⟩ := List.append_inj same sameLength
  have nonces : other.nonce = nonce := Subtype.ext sameNonce
  apply refuses_of_tag_ne
  intro verified
  rw [nonces, sameText] at verified
  apply changed
  obtain ⟨n, c, t⟩ := other
  simp only at nonces sameText verified
  subst nonces sameText verified
  rfl

/-- Whichever of the three parts a bit is in, flipping it is noticed. -/
theorem refuses_flipBit {key : SessionKey}
    (nonzero : Cipher.Gcm.subkey (Cipher.Aes.roundKeys key.bytes) ≠ 0) (nonce : Bytes 12)
    (text : String) {position bit : Nat}
    (inside : position < (key.envelope nonce text).toBytes.length) (small : bit < 8) :
    key.Refuses (flipBit position bit (key.envelope nonce text).toBytes) := by
  have changed := flipBit_ne inside small
  have length := length_flipBit position bit (key.envelope nonce text).toBytes
  have total := Envelope.length_toBytes (key.envelope nonce text)
  rw [Envelope.minLength] at total
  -- Nonce, ciphertext and tag, in this order; the subkey matters to the ciphertext alone.
  rcases Nat.lt_or_ge position 12 with inNonce | pastNonce
  · exact refuses_nonce length changed (List.drop_modify_of_lt _ _ _ _ inNonce)
  obtain ⟨place, rfl⟩ := Nat.exists_eq_add_of_le pastNonce
  rcases Nat.lt_or_ge place (key.envelope nonce text).ciphertext.length with inText | pastText
  · rw [Envelope.toBytes_flipBit _ inText]
    apply refuses_of_tag_ne
    exact Cipher.Gcm.tag_flipBit_ne nonzero nonce inText small
  · apply refuses_tag length changed
    rw [length, flipBit, List.take_modify]
    apply List.modify_eq_self
    rw [List.length_take]
    omega

/-- A text is sealed if it is not too long for the cipher. What a sealed text decodes to, changed
and encoded again, is refused: under a key whose hash subkey is not zero when any one bit is
flipped, and under every key when the change, however large, is in the nonce alone or in the tag
alone. -/
theorem tampering_is_refused (key : SessionKey) (text : String) (nonce : Bytes 12)
    (rest : List UInt8) :
    (Sealable text → ∃ wire,
      (key.sealText text).run.run ⟨nonce.val ++ rest⟩ = (.ok wire, ⟨rest⟩)) ∧
    ∀ wire left, (key.sealText text).run.run ⟨nonce.val ++ rest⟩ = (.ok wire, left) →
      ∃ raw, Text.Base64.decode (Text.utf8 wire) = .ok raw ∧
        (Cipher.Gcm.subkey (Cipher.Aes.roundKeys key.bytes) ≠ 0 →
          ∀ position < raw.length, ∀ bit < 8, key.Refuses (flipBit position bit raw)) ∧
        ∀ altered : List UInt8, altered.length = raw.length → altered ≠ raw →
          altered.drop 12 = raw.drop 12 ∨
            altered.take (altered.length - 16) = raw.take (raw.length - 16) →
          key.Refuses altered := by
  constructor
  · intro short
    refine ⟨(key.envelope nonce text).toText, ?_⟩
    simp only [run_sealText, Entropy.draw?_append, if_pos short]
  · intro wire left sealed
    obtain ⟨-, nonce, -, rfl⟩ := of_run_sealText sealed
    refine ⟨(key.envelope nonce text).toBytes, Text.Base64.decode_encode _, ?_, ?_⟩
    · intro nonzero position inside bit small
      exact refuses_flipBit nonzero nonce text inside small
    · rintro altered length changed (behind | before)
      · exact refuses_nonce length changed behind
      · exact refuses_tag length changed before

/-- All 256 bits of a sealed astral character are watched over, and a nonce of zeros does
not pass for the one that was drawn. -/
theorem tampering_is_refused_under_zero_key :
    let key : SessionKey := ⟨Bytes.zero 32⟩
    Sealable "🔒" ∧ Cipher.Gcm.subkey (Cipher.Aes.roundKeys key.bytes) ≠ 0 ∧
    ∃ (wire : String) (raw : List UInt8),
      (key.sealText "🔒").run.run ⟨List.replicate 12 7 ++ [5]⟩ = (.ok wire, ⟨[5]⟩) ∧
      Text.Base64.decode (Text.utf8 wire) = .ok raw ∧ raw.length = 32 ∧
      (∀ position < 32, ∀ bit < 8, key.Refuses (flipBit position bit raw)) ∧
      key.Refuses (List.replicate 12 0 ++ raw.drop 12) := by
  intro key
  have short : Sealable "🔒" := by decide
  have nonzero : Cipher.Gcm.subkey (Cipher.Aes.roundKeys key.bytes) ≠ 0 := by decide +kernel
  let nonce : Bytes 12 := ⟨List.replicate 12 7, rfl⟩
  obtain ⟨seals, refuses⟩ := tampering_is_refused key "🔒" nonce [5]
  obtain ⟨wire, sealed⟩ := seals short
  obtain ⟨raw, decoded, bits, parts⟩ := refuses wire _ sealed
  obtain ⟨-, drawn, same, rfl⟩ := of_run_sealText sealed
  obtain rfl : drawn = nonce := by
    rw [Entropy.draw?_append] at same
    exact (Prod.mk.inj (Option.some.inj same)).1.symm
  have bytes : raw = (key.envelope nonce "🔒").toBytes := by
    rw [Envelope.toText, Text.Base64.decode_encode] at decoded
    exact (Except.ok.inj decoded).symm
  have length : raw.length = 32 := by
    rw [bytes, Envelope.length_toBytes, length_ciphertext]
    rfl
  refine ⟨short, nonzero, _, raw, sealed, decoded, length, ?_, parts _ ?_ ?_ (.inl rfl)⟩
  · intro position inside bit small
    exact bits nonzero position (by rw [length]; exact inside) bit small
  · rw [List.length_append, List.length_drop, length]
    rfl
  · intro same
    have first := congrArg List.head? same
    rw [bytes] at first
    cases first

end SessionKey

end PresenceSeal
