import Mathlib.Algebra.Group.Nat.Defs
import Mathlib.Data.List.TakeWhile
import Mathlib.Data.Nat.Digits.Defs
import PresenceSeal.Text.Numeral

/-! Decimal digits and the numbers they denote, by themselves and in front of a text. -/
namespace PresenceSeal.Text

theorem isDigit_iff {c : Char} : isDigit c = true ↔ 48 ≤ c.toNat ∧ c.toNat ≤ 57 := by
  rw [isDigit, Bool.and_eq_true, decide_eq_true_eq, decide_eq_true_eq]
  rfl

theorem isDigit_of_mem_decimal {n : Nat} : ∀ c ∈ decimal n, isDigit c = true := by
  intro c member
  have digit := Nat.isDigit_of_mem_toDigits (by decide) (by decide) member
  rw [Char.isDigit, Bool.and_eq_true, decide_eq_true_eq, decide_eq_true_eq] at digit
  exact isDigit_iff.mpr ⟨UInt32.le_iff_toNat_le.mp digit.1, UInt32.le_iff_toNat_le.mp digit.2⟩

theorem decimal_ne_nil (n : Nat) : decimal n ≠ [] := Nat.toDigits_ne_nil

theorem ofDecimal_decimal (n : Nat) : ofDecimal (decimal n) = n :=
  Nat.ofDigitChars_toDigits (by decide) (by decide)

/-- No digits but those of zero begin with a zero. -/
theorem head_decimal {n : Nat} (positive : 0 < n) {c : Char} {rest : List Char}
    (digits : decimal n = c :: rest) : c ≠ '0' := by
  induction n using Nat.strongRecOn generalizing rest with
  | _ n ih =>
    rw [decimal, Nat.toDigits_eq_if (by decide)] at digits
    by_cases small : n < 10
    · rw [if_pos small] at digits
      obtain ⟨rfl, -⟩ := List.cons.inj digits
      have all : ∀ d < 10, 0 < d → Nat.digitChar d ≠ '0' := by decide
      exact all n small positive
    · rw [if_neg small] at digits
      cases front : Nat.toDigits 10 (n / 10) with
      | nil => exact absurd front Nat.toDigits_ne_nil
      | cons d more =>
        rw [front] at digits
        obtain ⟨rfl, -⟩ := List.cons.inj digits
        exact ih (n / 10) (by omega) (by omega) front

theorem pow_length_le {n : Nat} (positive : 0 < n) : 10 ^ ((decimal n).length - 1) ≤ n := by
  have filled := List.length_pos_iff.mpr (decimal_ne_nil n)
  rcases Nat.eq_zero_or_pos ((decimal n).length - 1) with single | several
  · rw [single]
    exact positive
  · have longer : ¬(decimal n).length ≤ (decimal n).length - 1 := by omega
    exact Nat.not_lt.mp (mt (Nat.length_toDigits_le_iff (by decide) several).mpr longer)

theorem takeWhile_digits {digits rest : List Char} (all : ∀ d ∈ digits, isDigit d = true)
    (stop : ∀ c more, rest = c :: more → isDigit c = false) :
    (digits ++ rest).takeWhile isDigit = digits ∧ (digits ++ rest).dropWhile isDigit = rest := by
  rw [List.takeWhile_append_of_pos all, List.dropWhile_append_of_pos all]
  cases rest with
  | nil => simp
  | cons c more => simp [stop c more rfl]

/-- Decimal digits in their places, the last one for the ones. -/
theorem ofDecimal_eq_ofDigits (digits : List Char) :
    ofDecimal digits = Nat.ofDigits 10 (digits.map digitValue).reverse := by
  rw [ofDecimal, List.foldl_eq_foldr_reverse, Nat.ofDigits_eq_foldr, ← List.map_reverse,
    List.foldr_map]
  simp only [Nat.add_comm, Nat.cast_id]

/-- A text leads with the number that the digits at its start denote, all of them taken;
there must be one. -/
def Leads (number : Nat) (text : List Char) : Prop :=
  ∃ digits rest, text = digits ++ rest ∧ digits ≠ [] ∧ (∀ d ∈ digits, isDigit d = true) ∧
    (∀ c more, rest = c :: more → isDigit c = false) ∧
    number = Nat.ofDigits 10 (digits.map digitValue).reverse

theorem leads_iff {number : Nat} {text : List Char} :
    Leads number text ↔
      text.takeWhile isDigit ≠ [] ∧ number = ofDecimal (text.takeWhile isDigit) := by
  constructor
  · rintro ⟨digits, rest, rfl, filled, all, stop, denoted⟩
    rw [(takeWhile_digits all stop).1, ofDecimal_eq_ofDigits]
    exact ⟨filled, denoted⟩
  · rintro ⟨filled, denoted⟩
    rw [ofDecimal_eq_ofDigits] at denoted
    refine ⟨_, _, List.takeWhile_append_dropWhile.symm, filled, ?_, ?_, denoted⟩
    · intro d member
      exact List.mem_takeWhile_imp member
    · intro c more behind
      have first := List.head?_dropWhile_not isDigit text
      rw [behind] at first
      exact first

/-- Only digits count, so what is written behind them without one does not. -/
theorem leads_append {number : Nat} {text : List Char} {c : Char} (more : List Char)
    (stop : isDigit c = false) : Leads number (text ++ c :: more) ↔ Leads number text := by
  have taken : (text ++ c :: more).takeWhile isDigit = text.takeWhile isDigit := by
    rw [List.takeWhile_append]
    split
    · rename_i whole
      rw [List.takeWhile_cons_of_neg (by simp [stop]), List.append_nil]
      exact (List.takeWhile_prefix _).eq_of_length whole |>.symm
    · rfl
  rw [leads_iff, leads_iff, taken]

theorem Leads.start {number : Nat} {text : List Char} (leads : Leads number text) :
    ∃ c more, text = c :: more ∧ isDigit c = true := by
  obtain ⟨digits, rest, rfl, filled, all, -, -⟩ := leads
  obtain ⟨c, more, rfl⟩ := List.exists_cons_of_ne_nil filled
  exact ⟨c, more ++ rest, rfl, all c List.mem_cons_self⟩

end PresenceSeal.Text
