import PresenceSeal.Number.Shortest
import PresenceSeal.Proofs.Number.Rounding

/-! Shortest decimals stay close to their numbers: never above the numbers' intervals, so
that no decimal of a number in range is out of range when it is read again. -/
namespace PresenceSeal.Number

/-- What a decimal stands for. -/
def Decimal.value (d : Decimal) : ℚ := d.digits * 10 ^ d.exponent

namespace Shortest

theorem tenRatio_pos (digits : Nat) (e : Int) : 0 < (tenRatio digits e).2 := by
  cases e with
  | ofNat e => exact Nat.one_pos
  | negSucc e => exact Nat.pow_pos (by decide)

theorem tenRatio_eq (digits : Nat) (e : Int) :
    ((tenRatio digits e).1 : ℚ) / (tenRatio digits e).2 = digits * 10 ^ e := by
  cases e with
  | ofNat e =>
    simp only [tenRatio, Int.ofNat_eq_natCast, zpow_natCast, Nat.pow_eq]
    push_cast
    rw [div_one]
  | negSucc e =>
    simp only [tenRatio, zpow_negSucc, Nat.pow_eq]
    push_cast
    rw [div_eq_mul_inv]

/-! ### Intervals -/

/-- What an interval holds is not above its upper end. -/
theorem Interval.le_high {i : Interval} {n d : Nat} (positive : 0 < i.denominator) (divisor : 0 < d)
    (inside : i.holds n d = true) : (n : ℚ) / d ≤ i.high / i.denominator := by
  have bound : n * i.denominator ≤ i.high * d := by
    unfold Interval.holds at inside
    dsimp only at inside
    split at inside <;> simp only [Bool.and_eq_true, decide_eq_true_eq] at inside
    · exact inside.2
    · exact inside.2.le
  rw [div_le_div_iff₀ (by exact_mod_cast divisor) (by exact_mod_cast positive)]
  exact_mod_cast bound

/-- Zero is in no interval whose lower end is above it. -/
theorem Interval.holds_zero {i : Interval} {d : Nat} (above : 0 < i.low) (divisor : 0 < d) :
    i.holds 0 d = false := by
  have low : 0 < i.low * d := Nat.mul_pos above divisor
  unfold Interval.holds
  dsimp only
  rw [Nat.zero_mul, decide_eq_false (not_le.mpr low), decide_eq_false (not_lt.mpr low.le)]
  simp

theorem interval_denominator (x : Binary64) : 0 < (interval x).denominator :=
  Binary64.rescale_pos (by decide) _

theorem interval_low {x : Binary64} (nonzero : x.significand ≠ 0) : 0 < (interval x).low := by
  have unit : 0 < (Binary64.rescale 1 4 (-x.exponent)).1 := by
    cases -x.exponent with
    | ofNat e => exact Nat.one_pos
    | negSucc e => exact Nat.mul_pos Nat.one_pos (Nat.pow_pos (by decide))
  refine Nat.mul_pos ?_ unit
  split <;> omega

/-- The interval ends halfway to the next number. -/
theorem interval_high (x : Binary64) :
    ((interval x).high : ℚ) / (interval x).denominator =
      (4 * x.significand + 2) / 4 * 2 ^ x.exponent := by
  have unit := Binary64.rescale_eq 1 4 (-x.exponent)
  simp only [interval]
  push_cast at unit ⊢
  rw [mul_div_assoc, unit, zpow_neg, div_inv_eq_mul]
  ring

/-! ### Candidates -/

/-- Whether a decimal of some grid is in an interval. -/
def Interval.holdsTen (i : Interval) (digits : Nat) (e : Int) : Bool :=
  i.holds (tenRatio digits e).1 (tenRatio digits e).2

/-- The whole part of a value on a grid. -/
def floor (i : Interval) (e : Int) : Nat :=
  i.value * (tenRatio 1 e).2 / (i.denominator * (tenRatio 1 e).1)

/-- A candidate is the first of two neighbours in the interval. The lower neighbour of the
value is one of them. -/
theorem candidate?_eq (i : Interval) (e : Int) : ∃ near far : Nat,
    (near = floor i e ∨ far = floor i e) ∧
      candidate? i e =
        if i.holdsTen near e then some ⟨near, e⟩
        else if i.holdsTen far e then some ⟨far, e⟩ else none := by
  unfold candidate?
  dsimp only
  split
  · exact ⟨_, _, .inr rfl, rfl⟩
  · exact ⟨_, _, .inl rfl, rfl⟩

theorem candidate?_eq_some {i : Interval} {e : Int} {d : Decimal}
    (given : candidate? i e = some d) : d.exponent = e ∧ i.holdsTen d.digits e = true := by
  obtain ⟨near, far, -, same⟩ := candidate?_eq i e
  rw [same] at given
  split at given
  · rename_i inside
    obtain rfl := Option.some.inj given
    exact ⟨rfl, inside⟩
  · split at given
    · rename_i inside
      obtain rfl := Option.some.inj given
      exact ⟨rfl, inside⟩
    · cases given

/-- A grid has a candidate if the lower neighbour of the value is in the interval. -/
theorem exists_candidate? {i : Interval} {e : Int} (inside : i.holdsTen (floor i e) e = true) :
    ∃ d, candidate? i e = some d := by
  obtain ⟨near, far, lower, same⟩ := candidate?_eq i e
  rw [same]
  split
  · exact ⟨_, rfl⟩
  · rename_i outside
    rcases lower with rfl | rfl
    · exact absurd inside outside
    · exact ⟨_, if_pos inside⟩

/-- The lower neighbour on a grid is in the interval if the grid is four times as fine as the
unit of the number. -/
theorem holdsTen_floor {x : Binary64} {j k : Nat} (nonzero : x.significand ≠ 0)
    (unit : x.exponent = k) (fine : 4 * 10 ^ j ≤ 2 ^ k) :
    (interval x).holdsTen (floor (interval x) j) j = true := by
  have scale : Binary64.rescale 1 4 (-x.exponent) = (1 * 2 ^ k, 4) := by
    rw [unit, Binary64.rescale_neg]
  obtain ⟨below, step, steps, low⟩ : ∃ below, 1 ≤ below ∧ below ≤ 2 ∧
      (interval x).low = (4 * x.significand - below) * 2 ^ k := by
    simp only [interval, scale, Nat.one_mul]
    split
    · exact ⟨1, le_rfl, by omega, rfl⟩
    · exact ⟨2, by omega, le_rfl, rfl⟩
  have value : (interval x).value = 4 * x.significand * 2 ^ k := by
    simp only [interval, scale, Nat.one_mul]
  have high : (interval x).high = (4 * x.significand + 2) * 2 ^ k := by
    simp only [interval, scale, Nat.one_mul]
  have denominator : (interval x).denominator = 4 := by simp only [interval, scale]
  have grid (digits : Nat) : tenRatio digits j = (digits * 10 ^ j, 1) := rfl
  have whole := Nat.div_add_mod (4 * x.significand * 2 ^ k) (4 * 10 ^ j)
  have rest := Nat.mod_lt (4 * x.significand * 2 ^ k) (show 0 < 4 * 10 ^ j by positivity)
  have fraction : 2 ^ k ≤ below * 2 ^ k := Nat.le_mul_of_pos_left _ step
  have inner : below * 2 ^ k ≤ 4 * x.significand * 2 ^ k := Nat.mul_le_mul_right _ (by omega)
  have scaled : floor (interval x) j * 10 ^ j * 4 =
      4 * 10 ^ j * (4 * x.significand * 2 ^ k / (4 * 10 ^ j)) := by
    rw [floor, value, denominator, grid, Nat.mul_one, Nat.one_mul]
    ring
  have above : (interval x).low < floor (interval x) j * 10 ^ j * 4 := by
    rw [low, Nat.sub_mul]
    omega
  have under : floor (interval x) j * 10 ^ j * 4 < (interval x).high := by
    rw [high, Nat.add_mul]
    omega
  rw [Interval.holdsTen, grid, Interval.holds]
  simp only [denominator, Nat.mul_one, decide_eq_true above, decide_eq_true under,
    decide_eq_true above.le, decide_eq_true under.le]
  split <;> rfl

theorem log2_scaled {significand k : Nat} (leads : 2 ^ 52 ≤ significand)
    (small : significand < 2 ^ 53) : (4 * significand * 2 ^ k).log2 = 54 + k := by
  have positive : 0 < 2 ^ k := Nat.two_pow_pos k
  have top : 2 ^ (54 + k + 1) = 2 ^ 55 * 2 ^ k := by ring
  rw [Nat.log2_eq_iff (Nat.mul_pos (by omega) positive).ne', Nat.pow_add, top]
  exact ⟨Nat.mul_le_mul_right _ (by omega), Nat.mul_lt_mul_of_pos_right (by omega) positive⟩

theorem topExponent_largest {x : Binary64} (leads : 2 ^ 52 ≤ x.significand)
    (small : x.significand < 2 ^ 53) (largest : x.exponent = Binary64.maxExponent) :
    topExponent (interval x) = 309 := by
  have scale : Binary64.rescale 1 4 (-x.exponent) = (1 * 2 ^ 971, 4) := by
    rw [largest]
    exact Binary64.rescale_neg 1 4 971
  have value : (interval x).value = 4 * x.significand * 2 ^ 971 := by
    simp only [interval, scale, Nat.one_mul]
  have denominator : (interval x).denominator = 4 := by simp only [interval, scale]
  have bits : (interval x).value.log2 = 1025 := by
    rw [value, log2_scaled leads small]
  have unit : Nat.log2 4 = 2 := by decide
  rw [topExponent, bits, denominator, unit]
  rfl

theorem exists_search {i : Interval} {e : Int} {steps k : Nat} (early : k < steps)
    (found : ∃ d, candidate? i (e - k) = some d) :
    ∃ d, search i e steps = some d ∧ e - k ≤ d.exponent := by
  induction steps generalizing e k with
  | zero => omega
  | succ steps ih =>
    rw [search]
    cases here : candidate? i e with
    | some d =>
      have same := (candidate?_eq_some here).1
      exact ⟨d, rfl, by omega⟩
    | none =>
      cases k with
      | zero =>
        obtain ⟨d, given⟩ := found
        rw [Nat.cast_zero, sub_zero, here] at given
        cases given
      | succ k =>
        have shifted : e - (k + 1 : Nat) = e - 1 - k := by omega
        rw [shifted] at found ⊢
        exact ih (by omega) found

theorem search_eq_some {i : Interval} {e : Int} {steps : Nat} {d : Decimal}
    (given : search i e steps = some d) :
    i.holdsTen d.digits d.exponent = true := by
  induction steps generalizing e with
  | zero => cases given
  | succ steps ih =>
    rw [search] at given
    cases here : candidate? i e with
    | some d' =>
      rw [here] at given
      obtain rfl := Option.some.inj given
      obtain ⟨same, inside⟩ := candidate?_eq_some here
      rwa [same]
    | none =>
      rw [here] at given
      exact ih given

/-! ### Trailing zeros -/

theorem strip_value (d : Decimal) (steps : Nat) : (strip d steps).value = d.value := by
  induction steps generalizing d with
  | zero => rfl
  | succ steps ih =>
    rw [strip]
    split
    · rename_i trailing
      have whole : (d.digits : ℚ) = (d.digits / 10 : Nat) * 10 := by
        exact_mod_cast (Nat.div_mul_cancel (Nat.dvd_of_mod_eq_zero trailing.2)).symm
      rw [ih, Decimal.value, Decimal.value, zpow_add_one₀ (by norm_num), whole]
      dsimp only
      ring
    · rfl

theorem le_strip_exponent (d : Decimal) (steps : Nat) : d.exponent ≤ (strip d steps).exponent := by
  induction steps generalizing d with
  | zero => exact le_rfl
  | succ steps ih =>
    rw [strip]
    split
    · exact le_trans (by dsimp only; omega) (ih _)
    · exact le_rfl

theorem strip_digits {d : Decimal} (nonzero : d.digits ≠ 0) (steps : Nat) :
    (strip d steps).digits ≠ 0 := by
  induction steps generalizing d with
  | zero => exact nonzero
  | succ steps ih =>
    rw [strip]
    split
    · exact ih (by dsimp only; omega)
    · exact nonzero

end Shortest

open Shortest

/-! ### The decimal of a number -/

/-- The shortest decimal of a number that is not zero has been searched for, and its value is
in the number's interval; the number's own significand would do without one. -/
theorem shortest_cases {x : Binary64} (nonzero : x.significand ≠ 0) :
    (∃ d, search (interval x) (topExponent (interval x)) 25 = some d ∧ shortest x = strip d 20) ∨
      search (interval x) (topExponent (interval x)) 25 = none ∧
        shortest x = ⟨x.significand, 0⟩ := by
  have filled : x.isZero = false := beq_false_of_ne nonzero
  unfold shortest
  rw [filled]
  dsimp only
  cases found : search (interval x) (topExponent (interval x)) 25 with
  | some d => exact .inl ⟨d, rfl, rfl⟩
  | none => exact .inr ⟨rfl, rfl⟩

theorem digits_of_holdsTen {x : Binary64} (nonzero : x.significand ≠ 0) {digits : Nat} {e : Int}
    (inside : (interval x).holdsTen digits e = true) : digits ≠ 0 := by
  rintro rfl
  have numerator : (tenRatio 0 e).1 = 0 := by
    cases e with
    | ofNat e => exact Nat.zero_mul _
    | negSucc e => rfl
  rw [Interval.holdsTen, numerator, Interval.holds_zero (interval_low nonzero) (tenRatio_pos 0 e)]
    at inside
  cases inside

theorem shortest_digits {x : Binary64} (nonzero : x.significand ≠ 0) :
    (shortest x).digits ≠ 0 := by
  rcases shortest_cases nonzero with ⟨d, found, same⟩ | ⟨-, same⟩
  · rw [same]
    exact strip_digits (digits_of_holdsTen nonzero (search_eq_some found)) 20
  · rw [same]
    exact nonzero

/-- The decimal ends halfway to the next number at the latest. -/
theorem value_of_search {x : Binary64} {e : Int} {steps : Nat} {d : Decimal}
    (found : search (interval x) e steps = some d) :
    d.value ≤ (4 * x.significand + 2) / 4 * 2 ^ x.exponent := by
  rw [Decimal.value, ← interval_high, ← tenRatio_eq]
  exact Interval.le_high (interval_denominator x) (tenRatio_pos _ _) (search_eq_some found)

/-- Below the numbers of the largest exponent the decimals are below `2 ^ 1023`. -/
theorem shortest_value_lt {x : Binary64} (normal : x.Normal) (nonzero : x.significand ≠ 0)
    (below : x.exponent < Binary64.maxExponent) : (shortest x).value < 2 ^ (1023 : Int) := by
  have least : (2 : ℚ) ^ (53 + (970 : Int)) = 2 ^ 53 * 2 ^ (970 : Int) :=
    (Binary64.two_pow_mul 53 970).symm
  have small : (x.significand : ℚ) ≤ 2 ^ 53 - 1 := by
    rw [le_sub_iff_add_le]
    exact_mod_cast normal.small
  rcases shortest_cases nonzero with ⟨d, found, same⟩ | ⟨-, same⟩
  · rw [same, strip_value]
    calc d.value ≤ (4 * x.significand + 2) / 4 * 2 ^ x.exponent := value_of_search found
      _ ≤ (4 * x.significand + 2) / 4 * 2 ^ (970 : Int) := by
        refine mul_le_mul_of_nonneg_left (Binary64.two_zpow_le ?_) (by positivity)
        unfold Binary64.maxExponent at below
        omega
      _ < 2 ^ 53 * 2 ^ (970 : Int) := by
        refine mul_lt_mul_of_pos_right ?_ (Binary64.two_zpow_pos _)
        linarith
      _ = 2 ^ (1023 : Int) := least.symm
  · rw [same, Decimal.value, zpow_zero, mul_one]
    calc (x.significand : ℚ) < 2 ^ 53 * 1 := by linarith
      _ ≤ 2 ^ 53 * 2 ^ (970 : Int) :=
        mul_le_mul_of_nonneg_left (one_le_zpow₀ (by norm_num) (by norm_num)) (by norm_num)
      _ = 2 ^ (1023 : Int) := least.symm

/-- The digits of the largest number. -/
def largestDigits : Nat := 17976931348623157

/-- The decimals of the largest exponent are of a grid of `10 ^ 291` or a coarser one. -/
theorem shortest_exponent {x : Binary64} (normal : x.Normal)
    (largest : x.exponent = Binary64.maxExponent) : 291 ≤ (shortest x).exponent := by
  have leads : 2 ^ 52 ≤ x.significand := normal.leads (largest ▸ by decide)
  have nonzero : x.significand ≠ 0 := by omega
  have fine : 4 * 10 ^ 291 ≤ 2 ^ 971 := by
    rw [← Nat.pow_eq, ← Nat.pow_eq]
    decide +kernel
  have unit : x.exponent = (971 : Nat) := largest
  have candidate := exists_candidate? (holdsTen_floor nonzero unit fine)
  have top := topExponent_largest leads normal.small largest
  have reached : ∃ d, search (interval x) 309 25 = some d ∧ (309 : Int) - (18 : Nat) ≤ d.exponent :=
    exists_search (by decide) candidate
  obtain ⟨d, found, least⟩ := reached
  rcases shortest_cases nonzero with ⟨d', found', same⟩ | ⟨none', -⟩
  · rw [top, found] at found'
    obtain rfl := Option.some.inj found'
    rw [same]
    exact le_trans (by omega) (le_strip_exponent d 20)
  · rw [top, found] at none'
    cases none'

theorem shortest_largest (negative : Bool) :
    shortest ⟨negative, 2 ^ 53 - 1, Binary64.maxExponent⟩ = ⟨largestDigits, 292⟩ := by
  revert negative
  decide +kernel

/-- No decimal is above that of the largest number. -/
theorem shortest_value_le {x : Binary64} (normal : x.Normal)
    (largest : x.exponent = Binary64.maxExponent) :
    (shortest x).value ≤ largestDigits * 10 ^ (292 : Int) := by
  have leads : 2 ^ 52 ≤ x.significand := normal.leads (largest ▸ by decide)
  have small := normal.small
  have nonzero : x.significand ≠ 0 := by omega
  rcases Nat.lt_or_eq_of_le (show x.significand ≤ 2 ^ 53 - 1 by omega) with less | full
  · have above := shortest_exponent normal largest
    rcases shortest_cases nonzero with ⟨d, found, same⟩ | ⟨-, same⟩
    · have significand : (4 * x.significand + 2 : ℚ) ≤ (2 ^ 55 - 6 : Nat) := by
        exact_mod_cast show 4 * x.significand + 2 ≤ 2 ^ 55 - 6 by omega
      have compared : ((2 ^ 55 - 6) * 2 ^ 971 : Nat) ≤ largestDigits * 10 ^ 292 * 4 := by
        decide +kernel
      rw [same, strip_value]
      calc d.value ≤ (4 * x.significand + 2) / 4 * 2 ^ x.exponent := value_of_search found
        _ = (4 * x.significand + 2) * 2 ^ ((971 : Nat) : Int) / 4 := by
          rw [largest]
          exact div_mul_eq_mul_div _ _ _
        _ ≤ (2 ^ 55 - 6 : Nat) * 2 ^ ((971 : Nat) : Int) / 4 := by
          gcongr
        _ ≤ largestDigits * 10 ^ ((292 : Nat) : Int) := by
          rw [div_le_iff₀ (by norm_num), zpow_natCast, zpow_natCast]
          exact_mod_cast compared
    · rw [same] at above
      exact absurd above (show ¬(291 : Int) ≤ 0 by decide)
  · have same : x = ⟨x.negative, 2 ^ 53 - 1, Binary64.maxExponent⟩ := by
      rw [← full, ← largest]
    rw [same, shortest_largest]
    exact le_rfl

theorem shortest_value_lt_ten {x : Binary64} (normal : x.Normal) (nonzero : x.significand ≠ 0) :
    (shortest x).value < 10 ^ 309 := by
  rcases lt_or_eq_of_le normal.most with below | largest
  · have powers : 2 ^ 1023 ≤ 10 ^ 309 := by
      rw [← Nat.pow_eq, ← Nat.pow_eq]
      decide +kernel
    calc (shortest x).value < 2 ^ (1023 : Int) := shortest_value_lt normal nonzero below
      _ ≤ 10 ^ 309 := by
        rw [zpow_ofNat]
        exact_mod_cast powers
  · calc (shortest x).value ≤ largestDigits * 10 ^ (292 : Int) := shortest_value_le normal largest
      _ < 10 ^ 17 * 10 ^ (292 : Int) := by
        refine mul_lt_mul_of_pos_right ?_ (zpow_pos (by norm_num) _)
        norm_num [largestDigits]
      _ = 10 ^ 309 := by
        rw [zpow_ofNat, ← pow_add]

end PresenceSeal.Number
