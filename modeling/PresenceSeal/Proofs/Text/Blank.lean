import Mathlib.Data.List.TakeWhile
import PresenceSeal.Text.Blank

/-! Blanks at the ends of a text: what trimming takes away and what it leaves. -/
namespace PresenceSeal.Text

theorem trimStart_append {front : List Char} (text : List Char) (blank : ∀ c ∈ front, isBlank c) :
    trimStart (front ++ text) = trimStart text :=
  List.dropWhile_append_of_pos blank

theorem trimEnd_append (text : List Char) {back : List Char} (blank : ∀ c ∈ back, isBlank c) :
    trimEnd (text ++ back) = trimEnd text := by
  rw [trimEnd, List.reverse_append, List.dropWhile_append_of_pos]
  · rfl
  · intro c member
    exact blank c (List.mem_reverse.mp member)

theorem trimStart_eq_self {text : List Char} (inside : ∀ c ∈ text, ¬ isBlank c) :
    trimStart text = text := by
  cases text with
  | nil => rfl
  | cons first rest => exact List.dropWhile_cons_of_neg (inside first List.mem_cons_self)

theorem trimEnd_eq_self {text : List Char} (inside : ∀ c ∈ text, ¬ isBlank c) :
    trimEnd text = text := by
  have reversed : trimStart text.reverse = text.reverse :=
    trimStart_eq_self fun c member => inside c (List.mem_reverse.mp member)
  exact (congrArg List.reverse reversed).trans text.reverse_reverse

theorem not_isBlank_of_trimStart {text rest : List Char} {c : Char}
    (trimmed : trimStart text = c :: rest) : isBlank c = false := by
  have first := List.head?_dropWhile_not isBlank text
  rw [← trimStart, trimmed] at first
  exact first

/-- What is trimmed at the end is blank. -/
theorem exists_blanks_trimEnd (text : List Char) :
    ∃ back, text = trimEnd text ++ back ∧ ∀ c ∈ back, isBlank c := by
  refine ⟨(text.reverse.takeWhile isBlank).reverse, ?_, ?_⟩
  · rw [trimEnd, ← List.reverse_append, List.takeWhile_append_dropWhile, List.reverse_reverse]
  · intro c member
    exact List.mem_takeWhile_imp (List.mem_reverse.mp member)

/-- A text is its trimmed text between blanks. -/
theorem exists_blanks_trim (text : List Char) :
    ∃ front back, text = front ++ trim text ++ back ∧ ∀ c ∈ front ++ back, isBlank c := by
  obtain ⟨back, rest, behind⟩ := exists_blanks_trimEnd (trimStart text)
  have start : text.takeWhile isBlank ++ trimStart text = text := List.takeWhile_append_dropWhile
  refine ⟨text.takeWhile isBlank, back, ?_, ?_⟩
  · rw [trim, List.append_assoc, ← rest, start]
  · intro c member
    rcases List.mem_append.mp member with front | back
    · exact List.mem_takeWhile_imp front
    · exact behind c back

theorem not_isBlank_of_trim {text rest : List Char} {c : Char} (trimmed : trim text = c :: rest) :
    isBlank c = false := by
  obtain ⟨back, split, -⟩ := exists_blanks_trimEnd (trimStart text)
  rw [← trim, trimmed] at split
  exact not_isBlank_of_trimStart split

/-- Nothing but the blanks around a text is trimmed. -/
theorem trim_surrounded {front core back : List Char} (blank : ∀ c ∈ front ++ back, isBlank c)
    (inside : ∀ c ∈ core, ¬ isBlank c) : trim (front ++ core ++ back) = core := by
  have before : ∀ c ∈ front, isBlank c := fun c member => blank c (List.mem_append_left _ member)
  have behind : ∀ c ∈ back, isBlank c := fun c member => blank c (List.mem_append_right _ member)
  rw [trim, List.append_assoc, trimStart_append _ before]
  -- A core without letters leaves only the blanks behind it, which go at the start.
  cases core with
  | nil =>
    have nothing := trimStart_append [] behind
    rw [List.append_nil] at nothing
    rw [List.nil_append, nothing]
    rfl
  | cons first rest =>
    have start : trimStart (first :: rest ++ back) = first :: rest ++ back :=
      List.dropWhile_cons_of_neg (inside first List.mem_cons_self)
    rw [start, trimEnd_append _ behind, trimEnd_eq_self inside]

/-- Blanks alone are trimmed away. -/
theorem trim_eq_nil_iff {text : List Char} : trim text = [] ↔ ∀ c ∈ text, isBlank c := by
  constructor
  · intro nothing
    obtain ⟨front, back, split, blank⟩ := exists_blanks_trim text
    rw [nothing, List.append_nil] at split
    rwa [split]
  · intro blank
    have trimmed : trim (text ++ [] ++ []) = [] :=
      trim_surrounded (by rwa [List.append_nil]) nofun
    rwa [List.append_nil, List.append_nil] at trimmed

theorem not_isBlank_of_letter {c : Char} (above : 65 ≤ c.toNat) (below : c.toNat ≤ 122) :
    isBlank c = false := by
  simp only [isBlank, Bool.or_eq_false_iff, Bool.and_eq_false_iff, beq_eq_false_iff_ne,
    decide_eq_false_iff_not]
  omega

theorem isBlank_toLower (c : Char) : isBlank c.toLower = isBlank c := by
  by_cases upper : c.val ≥ 'A'.val ∧ c.val ≤ 'Z'.val
  · have above : 65 ≤ c.toNat := UInt32.le_iff_toNat_le.mp upper.1
    have below : c.toNat ≤ 90 := UInt32.le_iff_toNat_le.mp upper.2
    have lowered : c.toLower.toNat = c.toNat + 32 := by
      have letter : c.toLower.val = c.val + ('a'.val - 'A'.val) := congrArg Char.val (dif_pos upper)
      have shift : ('a'.val - 'A'.val).toNat = 32 := rfl
      rw [Char.toNat] at below
      rw [Char.toNat, Char.toNat, letter, UInt32.toNat_add, shift]
      omega
    rw [not_isBlank_of_letter above (by omega), not_isBlank_of_letter] <;> omega
  · have same : c.toLower = c := dif_neg upper
    rw [same]

end PresenceSeal.Text
