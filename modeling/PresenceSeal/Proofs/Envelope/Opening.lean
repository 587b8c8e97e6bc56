import PresenceSeal.Proofs.Envelope.Wire
import PresenceSeal.Service.Codec

/-! What opening makes of every text. The form of the text comes first, then the tag, then the
payload; each stage refuses in a way of its own, and what passes all three is the text that was
sealed. Payloads are exactly the bytes that texts are encoded to. -/
namespace PresenceSeal

namespace Secret.Buffer

open Text.Utf16 (Garbled bytesOfChar)

theorem text_eq_ok_iff {bytes : List UInt8} {string : String} :
    text ⟨bytes⟩ = .ok string ↔ Text.Utf16.encode string.toList = bytes := by
  rw [← Text.Utf16.decode_eq_ok_iff, text]
  cases Text.Utf16.decode bytes with
  | error defect => simp only [reduceCtorEq]
  | ok decoded =>
    simp only [Except.ok.injEq]
    constructor
    · rintro rfl
      exact String.toList_ofList.symm
    · rintro rfl
      exact String.ofList_toList

theorem conversion_of_text {bytes : List UInt8} {fault : SealFault}
    (failed : text ⟨bytes⟩ = .error fault) :
    Garbled bytes ∧ ∃ reason, fault = .stringConversion reason := by
  unfold text at failed
  split at failed
  · cases failed
  · rename_i defect refused
    exact ⟨Text.Utf16.garbled_iff.mpr ⟨defect, refused⟩, _, (Except.error.inj failed).symm⟩

/-- Garbled bytes, and no others, are refused. -/
theorem text_eq_conversion_iff {bytes : List UInt8} :
    (∃ reason, text ⟨bytes⟩ = .error (.stringConversion reason)) ↔ Garbled bytes := by
  constructor
  · rintro ⟨reason, failed⟩
    exact (conversion_of_text failed).1
  · intro garbled
    obtain ⟨defect, refused⟩ := Text.Utf16.garbled_iff.mp garbled
    exact ⟨defect.message, by rw [text, refused]⟩

theorem length_ofText (string : String) : (ofText string).length =
    (string.toList.map fun c => if c.toNat ≤ 0xFFFF then 2 else 4).sum := by
  rw [length, ofText, Text.Utf16.encode_eq_flatMap, List.length_flatMap]
  congr 1
  exact List.map_congr_left fun c _ => Text.Utf16.length_bytesOfChar c

theorem ofText_injective : Function.Injective ofText := by
  intro one two same
  have read := text_ofText one
  rw [same, text_ofText two] at read
  exact (Except.ok.inj read).symm

/-- Encoding and decoding are inverse to each other, and what is not decoded has an odd length
or a surrogate without its other half. A text is encoded character by character, so that no two
texts have the same bytes. -/
theorem text_accepts_exactly_ofText :
    (∀ string : String, (ofText string).text = .ok string) ∧
    (∀ (bytes : List UInt8) (string : String),
      text ⟨bytes⟩ = .ok string ↔ (ofText string).bytes = bytes) ∧
    (∀ bytes : List UInt8,
      ((∃ reason, text ⟨bytes⟩ = .error (.stringConversion reason)) ↔ Garbled bytes) ∧
      ∀ fault, text ⟨bytes⟩ = .error fault → ∃ reason, fault = .stringConversion reason) ∧
    (∀ string : String,
      (ofText string).bytes = string.toList.flatMap bytesOfChar ∧
      (ofText string).length =
        (string.toList.map fun c => if c.toNat ≤ 0xFFFF then 2 else 4).sum) ∧
    Function.Injective ofText := by
  refine ⟨text_ofText, fun bytes string => text_eq_ok_iff, ?_, ?_, ofText_injective⟩
  · intro bytes
    exact ⟨text_eq_conversion_iff, fun fault failed => (conversion_of_text failed).2⟩
  · intro string
    exact ⟨Text.Utf16.encode_eq_flatMap string.toList, length_ofText string⟩

/-- The characters around the surrogates and the first one beyond U+FFFF. -/
example : Text.Utf16.encode ['\ud7ff', '\ue000', '\uffff', Char.ofNat 0x10000] =
    [0xFF, 0xD7, 0x00, 0xE0, 0xFF, 0xFF, 0x00, 0xD8, 0x00, 0xDC] := by
  decide

end Secret.Buffer

namespace SessionKey

open Text.Base64 (Spells)
open Text.Utf16 (Garbled)

/-- No base64 at all, or base64 of fewer bytes than every envelope has. -/
def Malformed (wire : String) : Prop :=
  ∀ bytes : List UInt8, Spells wire.toList bytes → bytes.length < 28

/-- Wire text of a nonce, a ciphertext and a tag that is not the tag of the two. A ciphertext
that is too long for the cipher has no tag. -/
def Forged (key : SessionKey) (wire : String) : Prop :=
  ∃ (nonce : Bytes 12) (ciphertext : List UInt8) (tag : Bytes 16),
    Spells wire.toList (nonce.val ++ ciphertext ++ tag.val) ∧
    (ciphertext.length ≤ Nat.pow 2 36 - 32 →
      Cipher.Gcm.tag (Cipher.Aes.roundKeys key.bytes) nonce ciphertext ≠ tag)

/-- Wire text of a nonce, a ciphertext and their tag, with the bytes under the cipher. -/
def Holds (key : SessionKey) (wire : String) (payload : List UInt8) : Prop :=
  ∃ (nonce : Bytes 12) (ciphertext : List UInt8) (tag : Bytes 16),
    Spells wire.toList (nonce.val ++ ciphertext ++ tag.val) ∧
    ciphertext.length ≤ Nat.pow 2 36 - 32 ∧
    Cipher.Gcm.tag (Cipher.Aes.roundKeys key.bytes) nonce ciphertext = tag ∧
    Cipher.Gcm.mask (Cipher.Aes.roundKeys key.bytes) nonce ciphertext = payload

variable {key : SessionKey} {wire : String}

/-! ### What a wire text is, by the envelope it is read as -/

theorem malformed_iff : Malformed wire ↔ ∀ envelope, Envelope.ofText wire ≠ .ok envelope := by
  constructor
  · intro malformed envelope read
    have short := malformed _ (Envelope.ofText_eq_ok_iff.mp read)
    rw [Envelope.length_toBytes, Envelope.minLength] at short
    omega
  · intro refused bytes spells
    by_contra long
    obtain ⟨envelope, rfl⟩ := Envelope.exists_toBytes_of_le (Nat.not_lt.mp long)
    exact refused envelope (Envelope.ofText_eq_ok_iff.mpr spells)

theorem forged_iff : key.Forged wire ↔
    ∃ envelope, Envelope.ofText wire = .ok envelope ∧ ¬ envelope.Verifies key.bytes := by
  constructor
  · rintro ⟨nonce, ciphertext, tag, spells, other⟩
    exact ⟨⟨nonce, ciphertext, tag⟩, Envelope.ofText_eq_ok_iff.mpr spells,
      fun verifies => other verifies.1 verifies.2⟩
  · rintro ⟨⟨nonce, ciphertext, tag⟩, read, other⟩
    exact ⟨nonce, ciphertext, tag, Envelope.ofText_eq_ok_iff.mp read,
      fun fits same => other ⟨fits, same⟩⟩

theorem holds_iff {payload : List UInt8} : key.Holds wire payload ↔
    ∃ envelope, Envelope.ofText wire = .ok envelope ∧
      envelope.openBytes key.bytes.val = .ok ⟨payload⟩ := by
  constructor
  · rintro ⟨nonce, ciphertext, tag, spells, fits, same, rfl⟩
    exact ⟨⟨nonce, ciphertext, tag⟩, Envelope.ofText_eq_ok_iff.mpr spells,
      Envelope.openBytes_of_verifies ⟨fits, same⟩⟩
  · rintro ⟨⟨nonce, ciphertext, tag⟩, read, opened⟩
    by_cases verifies : Envelope.Verifies ⟨nonce, ciphertext, tag⟩ key.bytes
    · obtain ⟨rfl⟩ := Except.ok.inj ((Envelope.openBytes_of_verifies verifies).symm.trans opened)
      exact ⟨nonce, ciphertext, tag, Envelope.ofText_eq_ok_iff.mp read, verifies.1, verifies.2, rfl⟩
    · rw [Envelope.openBytes_of_not_verifies verifies] at opened
      cases opened

theorem Malformed.not_forged (malformed : Malformed wire) : ¬ key.Forged wire := by
  intro forged
  obtain ⟨envelope, read, -⟩ := forged_iff.mp forged
  exact malformed_iff.mp malformed envelope read

theorem Malformed.not_holds (malformed : Malformed wire) (payload : List UInt8) :
    ¬ key.Holds wire payload := by
  intro holds
  obtain ⟨envelope, read, -⟩ := holds_iff.mp holds
  exact malformed_iff.mp malformed envelope read

theorem Forged.not_holds (forged : key.Forged wire) (payload : List UInt8) :
    ¬ key.Holds wire payload := by
  intro holds
  obtain ⟨envelope, read, other⟩ := forged_iff.mp forged
  obtain ⟨same, reread, opened⟩ := holds_iff.mp holds
  obtain rfl : envelope = same := Except.ok.inj (read.symm.trans reread)
  rw [Envelope.openBytes_of_not_verifies other] at opened
  cases opened

theorem Holds.unique {one two : List UInt8} (first : key.Holds wire one)
    (second : key.Holds wire two) : one = two := by
  obtain ⟨envelope, read, opened⟩ := holds_iff.mp first
  obtain ⟨same, reread, reopened⟩ := holds_iff.mp second
  obtain rfl : envelope = same := Except.ok.inj (read.symm.trans reread)
  obtain ⟨rfl⟩ := Except.ok.inj (opened.symm.trans reopened)
  rfl

/-! ### Opening -/

/-- Each stage in its turn: the key is never at fault, since it has the length that it must have. -/
theorem openText_cases (key : SessionKey) (wire : String) :
    (Malformed wire ∧ ∃ reason, key.openText wire = .error (.malformedEnvelope reason)) ∨
    (key.Forged wire ∧ key.openText wire = .error .decryption) ∨
    ∃ payload, key.Holds wire payload ∧ key.openText wire = Secret.Buffer.text ⟨payload⟩ := by
  cases read : Envelope.ofText wire with
  | error fault =>
    obtain ⟨reason, rfl⟩ := Envelope.malformed_of_ofText read
    refine .inl ⟨malformed_iff.mpr ?_, reason, ?_⟩
    · intro envelope same
      rw [read] at same
      cases same
    · rw [openText, read]
      rfl
  | ok envelope =>
    have opens : key.openText wire =
        (envelope.openBytes key.bytes.val).bind Secret.Buffer.text := by
      rw [openText, read]
      rfl
    by_cases verifies : envelope.Verifies key.bytes
    · have opened := Envelope.openBytes_of_verifies verifies
      refine .inr (.inr ⟨_, holds_iff.mpr ⟨_, read, opened⟩, ?_⟩)
      rw [opens, opened]
      rfl
    · refine .inr (.inl ⟨forged_iff.mpr ⟨_, read, verifies⟩, ?_⟩)
      rw [opens, Envelope.openBytes_of_not_verifies verifies]
      rfl

theorem openText_eq_malformed_iff :
    (∃ reason, key.openText wire = .error (.malformedEnvelope reason)) ↔ Malformed wire := by
  rcases openText_cases key wire with
    ⟨malformed, refused⟩ | ⟨forged, refused⟩ | ⟨payload, holds, opens⟩
  · exact iff_of_true refused malformed
  · refine iff_of_false ?_ fun malformed => malformed.not_forged forged
    rintro ⟨reason, same⟩
    rw [refused] at same
    cases same
  · refine iff_of_false ?_ fun malformed => malformed.not_holds payload holds
    rintro ⟨reason, same⟩
    rw [opens] at same
    obtain ⟨-, other, conversion⟩ := Secret.Buffer.conversion_of_text same
    cases conversion

theorem openText_eq_decryption_iff :
    key.openText wire = .error .decryption ↔ key.Forged wire := by
  rcases openText_cases key wire with ⟨malformed, reason, refused⟩ | ⟨forged, refused⟩ |
    ⟨payload, holds, opens⟩
  · rw [refused]
    exact iff_of_false nofun malformed.not_forged
  · exact iff_of_true refused forged
  · refine iff_of_false ?_ fun forged => forged.not_holds payload holds
    intro same
    rw [opens] at same
    obtain ⟨-, other, conversion⟩ := Secret.Buffer.conversion_of_text same
    cases conversion

theorem openText_eq_conversion_iff :
    (∃ reason, key.openText wire = .error (.stringConversion reason)) ↔
      ∃ payload, key.Holds wire payload ∧ Garbled payload := by
  rcases openText_cases key wire with ⟨malformed, reason, refused⟩ | ⟨forged, refused⟩ |
    ⟨payload, holds, opens⟩
  · rw [refused]
    refine iff_of_false (fun ⟨_, same⟩ => nomatch same) ?_
    rintro ⟨payload, holds, -⟩
    exact malformed.not_holds payload holds
  · rw [refused]
    refine iff_of_false (fun ⟨_, same⟩ => nomatch same) ?_
    rintro ⟨payload, holds, -⟩
    exact forged.not_holds payload holds
  · rw [opens, Secret.Buffer.text_eq_conversion_iff]
    constructor
    · intro garbled
      exact ⟨payload, holds, garbled⟩
    · rintro ⟨other, held, garbled⟩
      rwa [holds.unique held]

theorem openText_eq_ok_iff {text : String} :
    key.openText wire = .ok text ↔ key.Holds wire (Text.Utf16.encode text.toList) := by
  rcases openText_cases key wire with ⟨malformed, reason, refused⟩ | ⟨forged, refused⟩ |
    ⟨payload, holds, opens⟩
  · rw [refused]
    exact iff_of_false nofun (malformed.not_holds _)
  · rw [refused]
    exact iff_of_false nofun (forged.not_holds _)
  · rw [opens, Secret.Buffer.text_eq_ok_iff]
    constructor
    · rintro rfl
      exact holds
    · intro held
      exact held.unique holds

theorem fault_of_openText {fault : SealFault} (failed : key.openText wire = .error fault) :
    (∃ reason, fault = .malformedEnvelope reason) ∨ fault = .decryption ∨
      ∃ reason, fault = .stringConversion reason := by
  rcases openText_cases key wire with ⟨-, reason, refused⟩ | ⟨-, refused⟩ | ⟨payload, -, opens⟩
  · rw [refused] at failed
    exact .inl ⟨reason, (Except.error.inj failed).symm⟩
  · rw [refused] at failed
    exact .inr (.inl (Except.error.inj failed).symm)
  · rw [opens] at failed
    exact .inr (.inr (Secret.Buffer.conversion_of_text failed).2)

/-! ### Through the codec -/

theorem run_decrypt (key : SessionKey) (wire : String) (scene : Scene δ) :
    (Codec.ofEnvelopes.decrypt key wire).run.run scene =
      ((key.openText wire).mapError Fault.ofSeal, scene) := rfl

/-- A text that is malformed and one that is forged are refused with one code. -/
theorem decryptError_iff :
    (∃ fault, (key.openText wire).mapError Fault.ofSeal = .error fault ∧
      fault.code = .decryptError) ↔ Malformed wire ∨ key.Forged wire := by
  rw [← @openText_eq_malformed_iff key wire, ← openText_eq_decryption_iff]
  cases opened : key.openText wire with
  | ok text => simp [Except.mapError]
  | error fault =>
    rcases fault_of_openText opened with ⟨reason, rfl⟩ | rfl | ⟨reason, rfl⟩ <;>
      simp [Except.mapError, Fault.ofSeal, Fault.code]

theorem convertingStringError_iff :
    (∃ fault, (key.openText wire).mapError Fault.ofSeal = .error fault ∧
      fault.code = .convertingStringError) ↔
        ∃ payload, key.Holds wire payload ∧ Garbled payload := by
  rw [← openText_eq_conversion_iff]
  cases opened : key.openText wire with
  | ok text => simp [Except.mapError]
  | error fault =>
    rcases fault_of_openText opened with ⟨reason, rfl⟩ | rfl | ⟨reason, rfl⟩ <;>
      simp [Except.mapError, Fault.ofSeal, Fault.code]

theorem mapError_eq_ok_iff {text : String} :
    (key.openText wire).mapError Fault.ofSeal = .ok text ↔
      key.Holds wire (Text.Utf16.encode text.toList) := by
  rw [← openText_eq_ok_iff]
  cases key.openText wire <;> simp [Except.mapError]

/-- Every text is malformed, or forged, or holds bytes that are garbled, or holds those of a
text, and opening says which: there is no other fault, and nothing is read of a ciphertext
whose tag is wrong. The codec tells apart what cannot be decrypted from what is no text. -/
theorem openText_tells_apart (key : SessionKey) (wire : String) :
    ((∃ reason, key.openText wire = .error (.malformedEnvelope reason)) ↔ Malformed wire) ∧
    (key.openText wire = .error .decryption ↔ key.Forged wire) ∧
    ((∃ reason, key.openText wire = .error (.stringConversion reason)) ↔
      ∃ payload, key.Holds wire payload ∧ Garbled payload) ∧
    (∀ text : String, key.openText wire = .ok text ↔
      key.Holds wire (Text.Utf16.encode text.toList)) ∧
    (∀ fault, key.openText wire = .error fault → (∃ reason, fault = .malformedEnvelope reason) ∨
      fault = .decryption ∨ ∃ reason, fault = .stringConversion reason) ∧
    ∀ (δ : Type) (scene : Scene δ),
      let decrypted := (Codec.ofEnvelopes.decrypt key wire).run.run scene
      decrypted.2 = scene ∧
      ((∃ fault, decrypted.1 = .error fault ∧ fault.code = .decryptError) ↔
        Malformed wire ∨ key.Forged wire) ∧
      ((∃ fault, decrypted.1 = .error fault ∧ fault.code = .convertingStringError) ↔
        ∃ payload, key.Holds wire payload ∧ Garbled payload) ∧
      ∀ text : String, decrypted.1 = .ok text ↔
        key.Holds wire (Text.Utf16.encode text.toList) := by
  refine ⟨openText_eq_malformed_iff, openText_eq_decryption_iff, openText_eq_conversion_iff,
    fun text => openText_eq_ok_iff, fun fault => fault_of_openText, fun δ scene => ?_⟩
  rw [run_decrypt]
  exact ⟨rfl, decryptError_iff, convertingStringError_iff, fun text => mapError_eq_ok_iff⟩

end SessionKey

end PresenceSeal
