import PresenceSeal.Platform.Processors
import PresenceSeal.Proofs.Text.Blank
import PresenceSeal.Proofs.Text.Numeral

/-! Exactly which version a platform type names: the number in front of what follows the
first version token and any blanks. Then the version that a class directory's file gives. -/
namespace PresenceSeal

namespace Version

/-- What stands behind the first place at which a part stands in a text. -/
def Behind (part text rest : List Char) : Prop :=
  ∃ before, text = before ++ part ++ rest ∧
    ∀ earlier later, text = earlier ++ part ++ later → before.length ≤ earlier.length

/-- Where a text starts with the part, that is the first place. -/
theorem behind_start_iff {part rest rest' : List Char} :
    Behind part (part ++ rest) rest' ↔ rest = rest' := by
  constructor
  · rintro ⟨before, split, least⟩
    obtain rfl := List.eq_nil_of_length_eq_zero (Nat.le_zero.mp (least [] rest rfl))
    exact List.append_cancel_left split
  · rintro rfl
    exact ⟨[], rfl, fun _ _ _ => Nat.zero_le _⟩

/-- Where it does not, the first place is the one in its tail. -/
theorem behind_cons_iff {part text rest : List Char} {c : Char} (elsewhere : ¬ part <+: c :: text) :
    Behind part (c :: text) rest ↔ Behind part text rest := by
  have inTail {before rest : List Char} (split : c :: text = before ++ part ++ rest) :
      ∃ tail, before = c :: tail ∧ text = tail ++ part ++ rest := by
    cases before with
    | nil => exact absurd ⟨rest, split.symm⟩ elsewhere
    | cons d tail =>
      obtain ⟨first, others⟩ := List.cons.inj split
      exact ⟨tail, congrArg (· :: tail) first.symm, others⟩
  constructor
  · rintro ⟨before, split, least⟩
    obtain ⟨tail, rfl, others⟩ := inTail split
    refine ⟨tail, others, fun earlier later found => ?_⟩
    exact Nat.le_of_succ_le_succ (least (c :: earlier) later (congrArg (c :: ·) found))
  · rintro ⟨before, split, least⟩
    refine ⟨c :: before, congrArg (c :: ·) split, fun earlier later found => ?_⟩
    obtain ⟨tail, rfl, others⟩ := inTail found
    exact Nat.succ_le_succ (least tail later others)

theorem after?_eq_some_iff {part text rest : List Char} :
    after? part text = some rest ↔ Behind part text rest := by
  induction text with
  | nil =>
    cases part with
    | nil => simp [after?, Behind]
    | cons c part => simp [after?, Behind]
  | cons c text ih =>
    rw [after?]
    by_cases here : part.isPrefixOf (c :: text)
    · obtain ⟨behind, split⟩ := List.isPrefixOf_iff_prefix.mp here
      rw [if_pos here, ← split, List.drop_left, behind_start_iff, Option.some_inj]
    · rw [if_neg here, ih, behind_cons_iff (mt List.isPrefixOf_iff_prefix.mpr here)]

/-- A platform type names a number: there is a version token in it, and behind the first one,
past the blanks, stand the digits of the number. -/
def Names (number : Nat) (platformType : List Char) : Prop :=
  ∃ blanks rest, Behind token platformType (blanks ++ rest) ∧
    (∀ c ∈ blanks, Text.isBlank c = true) ∧ Text.Leads number rest

theorem trimStart_of_leads {number : Nat} {text : List Char} (leads : Text.Leads number text) :
    Text.trimStart text = text := by
  obtain ⟨c, more, rfl, digit⟩ := leads.start
  obtain ⟨low, high⟩ := Text.isDigit_iff.mp digit
  exact List.dropWhile_cons_of_neg (by simp [Text.isBlank]; omega)

theorem names_iff {number : Nat} {platformType : List Char} :
    Names number platformType ↔
      ∃ rest, after? token platformType = some rest ∧ Text.Leads number (Text.trimStart rest) := by
  constructor
  · rintro ⟨blanks, rest, behind, blank, leads⟩
    refine ⟨blanks ++ rest, after?_eq_some_iff.mpr behind, ?_⟩
    rwa [Text.trimStart_append rest blank, trimStart_of_leads leads]
  · rintro ⟨rest, found, leads⟩
    have split : rest.takeWhile Text.isBlank ++ Text.trimStart rest = rest :=
      List.takeWhile_append_dropWhile
    refine ⟨rest.takeWhile Text.isBlank, _, ?_, ?_, leads⟩
    · rw [split]
      exact after?_eq_some_iff.mp found
    · intro c member
      exact List.mem_takeWhile_imp member

/-- A point is no digit, so looking for the first one makes no difference to the digits. -/
theorem digits_before_point (text : List Char) :
    (text.takeWhile (· != '.')).takeWhile Text.isDigit = text.takeWhile Text.isDigit := by
  rw [List.takeWhile_takeWhile]
  congr 1
  funext c
  have point : Text.isDigit '.' = false := rfl
  by_cases same : c = '.'
  · simp only [same, point, Bool.false_eq_true, false_and, decide_false]
  · simp only [bne_iff_ne.mpr same, and_true, Bool.decide_eq_true]

/-- The version that is read is the one that is named, if it fits 32 bits. -/
theorem major_eq_ok_iff {platformType : String} {number : Nat} :
    major platformType = .ok number ↔ number < 2 ^ 32 ∧ Names number platformType.toList := by
  rw [names_iff, major]
  cases found : after? token platformType.toList with
  | none => simp only [reduceCtorEq, false_and, exists_false, and_false]
  | some rest =>
    simp only [digits_before_point, Option.some.injEq, exists_eq_left', Text.leads_iff]
    split
    · rename_i read
      simp only [Except.ok.injEq]
      constructor
      · rintro rfl
        exact ⟨read.2, read.1, rfl⟩
      · rintro ⟨-, -, rfl⟩
        rfl
    · rename_i unread
      simp only [reduceCtorEq, false_iff]
      rintro ⟨fits, filled, rfl⟩
      exact unread ⟨filled, fits⟩

/-- The first token counts, and so do zeros in front. -/
example : major "any TPM-Version:\u2003007. TPM-Version:1" = .ok 7 := by decide

theorem fault_of_major {platformType : String} {fault : Fault}
    (failed : major platformType = .error fault) : ∃ reason, fault = .tpmVersion reason := by
  unfold major at failed
  split at failed
  · exact ⟨_, (Except.error.inj failed).symm⟩
  · dsimp only at failed
    split at failed
    · cases failed
    · exact ⟨_, (Except.error.inj failed).symm⟩

end Version

namespace Processor

/-- The version of a class directory is the number in front of its file's trimmed text. -/
theorem names_typeOfVersion_iff {contents : String} {number : Nat} :
    Version.Names number (typeOfVersion contents).toList ↔
      Text.Leads number (Text.trim contents.toList) := by
  have behind : Version.after? Version.token (typeOfVersion contents).toList =
      some (Text.trim contents.toList ++ ['.', '0']) := by
    rw [Version.after?_eq_some_iff, typeOfVersion, String.toList_ofList, List.append_assoc,
      Version.behind_start_iff]
  -- What is added behind the text is neither a blank nor a digit.
  have start : Text.trimStart (Text.trim contents.toList ++ ['.', '0']) =
      Text.trim contents.toList ++ ['.', '0'] := by
    cases trimmed : Text.trim contents.toList with
    | nil => rfl
    | cons c rest =>
      exact List.dropWhile_cons_of_neg (by simp [Text.not_isBlank_of_trim trimmed])
  rw [Version.names_iff, behind]
  simp only [Option.some.injEq, exists_eq_left', start]
  exact Text.leads_append ['0'] rfl

end Processor

end PresenceSeal
