import PresenceSeal.Bytes
import PresenceSeal.Text.Base64
import PresenceSeal.Text.Utf8

/-! Envelopes and their wire form: nonce, ciphertext and tag one behind the other,
as bytes or as base64 of the bytes. Any byte string of at least 28 bytes is the
wire form of exactly one envelope. -/
namespace PresenceSeal

/-- Why something could not be sealed or opened. The reasons are for reading only. -/
inductive SealFault where
  | keyDerivation (reason : String)
  | encryption (reason : String)
  | decryption
  | malformedEnvelope (reason : String)
  | stringConversion (reason : String)
  | secureMemory (reason : String)
  deriving DecidableEq, Repr

def SealFault.message : SealFault → String
  | .keyDerivation reason => "key derivation failed: " ++ reason
  | .encryption reason => "encryption error: " ++ reason
  | .decryption => "decryption failed: authentication tag mismatch"
  | .malformedEnvelope reason => "malformed envelope: " ++ reason
  | .stringConversion reason => "string conversion error: " ++ reason
  | .secureMemory reason => "secure memory error: " ++ reason

structure Envelope where
  nonce : Bytes 12
  ciphertext : List UInt8
  tag : Bytes 16
  deriving DecidableEq

namespace Envelope

/-- The bytes of a nonce and a tag without any ciphertext between them. -/
def minLength : Nat := 28

/-- Nonce, ciphertext and tag. -/
def toBytes (envelope : Envelope) : List UInt8 :=
  envelope.nonce.val ++ envelope.ciphertext ++ envelope.tag.val

/-- Takes the tag off the end. -/
def splitTag (bytes : List UInt8) : Except SealFault (List UInt8 × Bytes 16) :=
  if h : 16 ≤ bytes.length then
    .ok (bytes.take (bytes.length - 16), ⟨bytes.drop (bytes.length - 16), by simp; omega⟩)
  else
    .error (.malformedEnvelope "envelope length underflow")

/-- Splits at the fixed lengths of nonce and tag. -/
def ofBytes (bytes : List UInt8) : Except SealFault Envelope :=
  if h : minLength ≤ bytes.length then
    (splitTag (bytes.drop 12)).map fun (ciphertext, tag) =>
      ⟨⟨bytes.take 12, by simp only [minLength] at h; simp; omega⟩, ciphertext, tag⟩
  else
    .error (.malformedEnvelope
      s!"encrypted data is too short or corrupted: {bytes.length} bytes (minimum {minLength})")

def toText (envelope : Envelope) : String := String.ofList (Text.Base64.encode envelope.toBytes)

def ofText (text : String) : Except SealFault Envelope :=
  match Text.Base64.decode (Text.utf8 text) with
  | .error fault => .error (.malformedEnvelope ("invalid base64: " ++ fault.message))
  | .ok bytes => ofBytes bytes

@[simp] theorem length_toBytes (envelope : Envelope) :
    envelope.toBytes.length = minLength + envelope.ciphertext.length := by
  simp only [toBytes, List.length_append, envelope.nonce.property, envelope.tag.property, minLength]
  omega

theorem splitTag_append (ciphertext : List UInt8) (tag : Bytes 16) :
    splitTag (ciphertext ++ tag.val) = .ok (ciphertext, tag) := by
  obtain ⟨tag, length⟩ := tag
  have long : 16 ≤ (ciphertext ++ tag).length := by
    rw [List.length_append, length]
    exact Nat.le_add_left ..
  have front : (ciphertext ++ tag).length - 16 = ciphertext.length := by
    rw [List.length_append, length, Nat.add_sub_cancel]
  rw [splitTag, dif_pos long]
  simp only [front, List.take_left, List.drop_left]

theorem append_of_splitTag {bytes ciphertext : List UInt8} {tag : Bytes 16}
    (split : splitTag bytes = .ok (ciphertext, tag)) : ciphertext ++ tag.val = bytes := by
  unfold splitTag at split
  split at split
  · obtain ⟨rfl, rfl⟩ := Prod.mk.inj (Except.ok.inj split)
    exact List.take_append_drop ..
  · contradiction

theorem ofBytes_toBytes (envelope : Envelope) : ofBytes envelope.toBytes = .ok envelope := by
  obtain ⟨⟨nonce, length⟩, ciphertext, tag⟩ := envelope
  have long : minLength ≤ (toBytes ⟨⟨nonce, length⟩, ciphertext, tag⟩).length := by
    rw [length_toBytes]
    exact Nat.le_add_right ..
  rw [ofBytes, dif_pos long]
  simp only [toBytes, List.append_assoc, List.drop_left' length, splitTag_append,
    List.take_left' length, Except.map]

theorem toBytes_of_ofBytes {bytes : List UInt8} {envelope : Envelope}
    (read : ofBytes bytes = .ok envelope) : envelope.toBytes = bytes := by
  unfold ofBytes at read
  split at read
  · cases split : splitTag (bytes.drop 12) with
    | error fault => rw [split] at read; cases read
    | ok parts =>
      rw [split] at read
      obtain rfl := Except.ok.inj read
      rw [toBytes, List.append_assoc, append_of_splitTag split, List.take_append_drop]
  · contradiction

/-- Behind the nonce of what is long enough there is room for a tag. -/
theorem exists_splitTag {bytes : List UInt8} (long : minLength ≤ bytes.length) :
    ∃ parts, splitTag (bytes.drop 12) = .ok parts := by
  have room : 16 ≤ (bytes.drop 12).length := by
    simp only [minLength] at long
    rw [List.length_drop]
    omega
  exact ⟨_, by rw [splitTag, dif_pos room]⟩

theorem ofBytes_eq_error_iff {bytes : List UInt8} {fault : SealFault} :
    ofBytes bytes = .error fault ↔ bytes.length < minLength ∧ fault = .malformedEnvelope
      s!"encrypted data is too short or corrupted: {bytes.length} bytes (minimum {minLength})" := by
  unfold ofBytes
  split
  · rename_i long
    obtain ⟨parts, split⟩ := exists_splitTag long
    simp only [split, Except.map, reduceCtorEq, Nat.not_lt.mpr long, false_and]
  · rename_i short
    simp only [Except.error.injEq, Nat.not_le.mp short, true_and]
    exact eq_comm

/-- Any bytes that are long enough are the wire form of an envelope. -/
theorem exists_toBytes_of_le {bytes : List UInt8} (long : minLength ≤ bytes.length) :
    ∃ envelope : Envelope, envelope.toBytes = bytes := by
  cases read : ofBytes bytes with
  | ok envelope => exact ⟨envelope, toBytes_of_ofBytes read⟩
  | error fault => exact absurd long (Nat.not_le.mpr (ofBytes_eq_error_iff.mp read).1)

end Envelope

end PresenceSeal
