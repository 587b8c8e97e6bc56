import PresenceSeal.Proofs.Json.Number

/-! What is printed holds no control character, whatever is printed. -/
namespace PresenceSeal

/-- A character that is no control character below U+0020. -/
def Printable (c : Char) : Prop := 0x20 ≤ c.toNat

instance (c : Char) : Decidable (Printable c) := inferInstanceAs (Decidable (0x20 ≤ c.toNat))

theorem printable_of_isDigit {c : Char} (digit : Text.isDigit c = true) : Printable c := by
  have above := (Text.isDigit_iff.mp digit).1
  unfold Printable
  omega

/-- A text that is given can be looked through. -/
theorem printable_of_all {text : List Char}
    (all : text.all (fun c => decide (Printable c)) = true) : ∀ c ∈ text, Printable c :=
  fun c member => of_decide_eq_true (List.all_eq_true.mp all c member)

theorem printable_append {front back : List Char} (first : ∀ c ∈ front, Printable c)
    (second : ∀ c ∈ back, Printable c) : ∀ c ∈ front ++ back, Printable c :=
  List.forall_mem_append.mpr ⟨first, second⟩

theorem printable_cons {c : Char} {rest : List Char} (first : Printable c)
    (others : ∀ d ∈ rest, Printable d) : ∀ d ∈ c :: rest, Printable d :=
  List.forall_mem_cons.mpr ⟨first, others⟩

namespace Json

theorem Numeral.printable_spell {n : Numeral} (formed : n.Formed) : ∀ c ∈ n.spell, Printable c := by
  have digits {text : List Char} (all : ∀ d ∈ text, Text.isDigit d = true) :
      ∀ d ∈ text, Printable d := fun d member => printable_of_isDigit (all d member)
  refine printable_append (printable_append (printable_append ?_ ?_) ?_) ?_
  · split <;> exact printable_of_all rfl
  · exact digits formed.whole.digits
  · split
    · exact printable_of_all rfl
    · exact printable_cons (by decide) (digits formed.fraction)
  · unfold Numeral.spellExponent
    split
    · exact printable_of_all rfl
    · rename_i negative text same
      refine printable_cons (by decide) (printable_cons (by split <;> decide) ?_)
      exact digits (formed.exponent negative text same).2

theorem printable_number (n : Json.Number) : ∀ c ∈ n.render, Printable c := by
  rw [render_number]
  exact Numeral.printable_spell n.formed_numeral

theorem printable_hexDigit {n : Nat} (small : n < 16) : Printable (hexDigit n) := by
  have all : ∀ n < 16, Printable (hexDigit n) := by decide
  exact all n small

theorem printable_escapeChar (c : Char) : ∀ d ∈ escapeChar c, Printable d := by
  unfold escapeChar
  split
  case h_8 =>
    split
    · rename_i control
      have high := printable_hexDigit (n := c.toNat / 16) (by omega)
      have low := printable_hexDigit (n := c.toNat % 16) (by omega)
      have rest : ∀ d ∈ [hexDigit (c.toNat / 16), hexDigit (c.toNat % 16)], Printable d :=
        List.forall_mem_cons.mpr ⟨high, List.forall_mem_singleton.mpr low⟩
      exact printable_append (printable_of_all rfl : ∀ d ∈ ['\\', 'u', '0', '0'], Printable d) rest
    · rename_i plain
      simp only [List.mem_singleton, forall_eq]
      exact Nat.not_lt.mp plain
  all_goals exact printable_of_all rfl

theorem printable_quote (text : List Char) : ∀ c ∈ quote text, Printable c := by
  refine printable_append (printable_cons (by decide) ?_) (printable_of_all rfl)
  intro c member
  obtain ⟨d, -, inside⟩ := List.mem_flatMap.mp member
  exact printable_escapeChar d c inside

mutual

theorem printable_render : (j : Json) → ∀ c ∈ render j, Printable c
  | .null | .bool true | .bool false | .array [] | .object [] =>
    printable_of_all rfl
  | .number value => printable_number value
  | .string value => printable_quote value.toList
  | .array (item :: rest) =>
    printable_append (printable_cons (by decide)
      (printable_append (printable_render item) (printable_renderItems rest)))
      (printable_of_all rfl)
  | .object ((key, value) :: rest) =>
    printable_append (printable_cons (by decide)
      (printable_append (printable_member key value) (printable_renderMembers rest)))
      (printable_of_all rfl)

theorem printable_member (key : String) (value : Json) :
    ∀ c ∈ quote key.toList ++ ':' :: render value, Printable c :=
  printable_append (printable_quote key.toList)
    (printable_cons (by decide) (printable_render value))

theorem printable_renderItems : (items : List Json) → ∀ c ∈ renderItems items, Printable c
  | [] => nofun
  | item :: rest =>
    printable_cons (by decide)
      (printable_append (printable_render item) (printable_renderItems rest))

theorem printable_renderMembers :
    (members : List (String × Json)) → ∀ c ∈ renderMembers members, Printable c
  | [] => nofun
  | (key, value) :: rest =>
    printable_cons (by decide)
      (printable_append (printable_member key value) (printable_renderMembers rest))

end

end Json

end PresenceSeal
