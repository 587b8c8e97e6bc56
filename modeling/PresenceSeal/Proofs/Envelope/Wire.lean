import PresenceSeal.Proofs.Envelope.Sealing
import PresenceSeal.Proofs.Text.Spelling

/-! The wire form of an envelope. Its bytes are one to one with envelopes; its texts are not,
since base64 may be padded inside, but the text without padding inside is the one that is
written. -/
namespace PresenceSeal.Envelope

open Text.Base64 (Spells)

theorem ofBytes_eq_ok_iff {bytes : List UInt8} {envelope : Envelope} :
    ofBytes bytes = .ok envelope ↔ envelope.toBytes = bytes := by
  constructor
  · exact toBytes_of_ofBytes
  · rintro rfl
    exact ofBytes_toBytes envelope

/-- A text is an envelope's exactly if it is base64, in whatever groups, of its bytes. -/
theorem ofText_eq_ok_iff {text : String} {envelope : Envelope} :
    ofText text = .ok envelope ↔ Spells text.toList envelope.toBytes := by
  rw [← Text.Base64.decode_eq_ok_iff, ofText]
  cases Text.Base64.decode (Text.utf8 text) with
  | error fault => simp only [reduceCtorEq]
  | ok bytes =>
    simp only [ofBytes_eq_ok_iff, Except.ok.injEq]
    exact eq_comm

theorem malformed_of_ofText {text : String} {fault : SealFault}
    (failed : ofText text = .error fault) :
    ∃ reason, fault = .malformedEnvelope reason := by
  unfold ofText at failed
  split at failed
  · exact ⟨_, (Except.error.inj failed).symm⟩
  · exact ⟨_, (ofBytes_eq_error_iff.mp failed).2⟩

/-- A text that is accepted is the one that is written unless it is padded inside. -/
theorem eq_toText_iff {text : String} {envelope : Envelope} (read : ofText text = .ok envelope) :
    text = envelope.toText ↔ '=' ∉ text.toList.take (text.length - 4) := by
  rw [← String.length_toList]
  constructor
  · rintro rfl
    rw [toText, String.toList_ofList]
    exact Text.Base64.plain_encode _
  · intro plain
    rw [toText, ← (ofText_eq_ok_iff.mp read).eq_encode plain, String.ofList_toList]

/-- The first byte in a group of its own makes another text of any envelope. -/
theorem exists_respelled (envelope : Envelope) :
    ∃ text ≠ envelope.toText, ofText text = .ok envelope := by
  obtain ⟨first, rest, bytes⟩ : ∃ first rest, envelope.toBytes = first :: rest := by
    apply List.exists_cons_of_length_pos
    rw [length_toBytes, minLength]
    omega
  have spells : Spells (Text.Base64.encode [first] ++ Text.Base64.encode rest) ([first] ++ rest) :=
    .cons (Text.Base64.group_iff.mpr ⟨List.cons_ne_nil first [], by simp, rfl⟩)
      (Text.Base64.spells_encode rest)
  have read : ofText (String.ofList (Text.Base64.encode [first] ++ Text.Base64.encode rest)) =
      .ok envelope := by
    rw [ofText_eq_ok_iff, String.toList_ofList, bytes]
    exact spells
  refine ⟨_, ?_, read⟩
  rw [Ne, eq_toText_iff read, not_not, ← String.length_toList, String.toList_ofList,
    Text.Base64.take_behind _ _ rfl]
  · simp [Text.Base64.encode]
  · have length := length_toBytes envelope
    rw [bytes, List.length_cons, minLength] at length
    rw [Text.Base64.length_encode]
    omega

/-- Bytes that are long enough, and no others, are those of an envelope, which is the only one,
and there is always room for the tag behind the nonce. A text is an envelope's exactly if it is
base64 of its bytes, and every other text is malformed; the text that is written is the only one
without padding inside, and never the only one. -/
theorem wire_forms_are_exact :
    (∀ envelope : Envelope,
      ofBytes envelope.toBytes = .ok envelope ∧ ofText envelope.toText = .ok envelope) ∧
    (∀ bytes : List UInt8,
      ((∃ reason, ofBytes bytes = .error (.malformedEnvelope reason)) ↔ bytes.length < 28) ∧
      (28 ≤ bytes.length → (∃ parts, splitTag (bytes.drop 12) = .ok parts) ∧
        ∃ envelope, ofBytes bytes = .ok envelope ∧ envelope.toBytes = bytes)) ∧
    (∀ (text : String) (envelope : Envelope),
      (ofText text = .ok envelope ↔ Spells text.toList envelope.toBytes) ∧
      (ofText text = .ok envelope →
        (text = envelope.toText ↔ '=' ∉ text.toList.take (text.length - 4)))) ∧
    (∀ text : String, (∃ envelope, ofText text = .ok envelope) ∨
      ∃ reason, ofText text = .error (.malformedEnvelope reason)) ∧
    ∀ envelope : Envelope, ∃ text ≠ envelope.toText, ofText text = .ok envelope := by
  refine ⟨?_, ?_, ?_, ?_, exists_respelled⟩
  · intro envelope
    exact ⟨ofBytes_toBytes envelope, ofText_toText envelope⟩
  · intro bytes
    refine ⟨⟨?_, fun short => ⟨_, ofBytes_eq_error_iff.mpr ⟨short, rfl⟩⟩⟩, fun long => ?_⟩
    · rintro ⟨reason, failed⟩
      exact (ofBytes_eq_error_iff.mp failed).1
    · obtain ⟨envelope, written⟩ := exists_toBytes_of_le long
      exact ⟨exists_splitTag long, envelope, ofBytes_eq_ok_iff.mpr written, written⟩
  · intro text envelope
    exact ⟨ofText_eq_ok_iff, eq_toText_iff⟩
  · intro text
    cases read : ofText text with
    | ok envelope => exact .inl ⟨envelope, rfl⟩
    | error fault =>
      obtain ⟨reason, rfl⟩ := malformed_of_ofText read
      exact .inr ⟨reason, rfl⟩

end PresenceSeal.Envelope
