/-! Text as UTF-8 bytes. Reading accepts exactly the bytes of some text. -/
namespace PresenceSeal.Text

def utf8 (text : String) : List UInt8 := text.toByteArray.data.toList

def ofUtf8? (bytes : List UInt8) : Option String := String.fromUTF8? ⟨bytes.toArray⟩

theorem ofUtf8?_eq_some_iff {bytes : List UInt8} {text : String} :
    ofUtf8? bytes = some text ↔ utf8 text = bytes := by
  unfold ofUtf8? String.fromUTF8? utf8
  split
  · constructor
    · intro h
      obtain rfl := Option.some.inj h
      rfl
    · rintro rfl
      rfl
  · rename_i invalid
    simp only [reduceCtorEq, false_iff]
    rintro rfl
    apply invalid
    exact text.isValidUTF8

end PresenceSeal.Text
