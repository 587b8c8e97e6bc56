import Mathlib.Algebra.Order.Field.Power
import Mathlib.Data.Nat.Cast.Order.Field
import Mathlib.Tactic.Linarith
import Mathlib.Tactic.Positivity
import Mathlib.Tactic.Ring
import PresenceSeal.Number.Binary64

/-! Rounding keeps the order of magnitudes. What is rounded is in its normal form, and a
ratio below one that can be rounded can be rounded itself. -/
namespace PresenceSeal.Number.Binary64

/-! ### Quotients -/

theorem roundDiv_bounds (numerator denominator : Nat) :
    numerator / denominator ≤ roundDiv numerator denominator ∧
      roundDiv numerator denominator ≤ numerator / denominator + 1 := by
  unfold roundDiv
  constructor <;> (dsimp only; split <;> [skip; split] <;> omega)

/-- A quotient is rounded up behind the half, and from the half itself if it is odd. -/
theorem lt_roundDiv_iff {numerator denominator : Nat} :
    numerator / denominator < roundDiv numerator denominator ↔
      denominator < 2 * (numerator % denominator) ∨
        denominator = 2 * (numerator % denominator) ∧ numerator / denominator % 2 = 1 := by
  unfold roundDiv
  dsimp only
  split <;> [skip; split] <;> omega

theorem roundDiv_mono {a b c d : Nat} (positive : 0 < b) (positive' : 0 < d)
    (below : a * d ≤ c * b) : roundDiv a b ≤ roundDiv c d := by
  have first := Nat.div_add_mod a b
  have second := Nat.div_add_mod c d
  obtain ⟨-, upper⟩ := roundDiv_bounds a b
  obtain ⟨lower, -⟩ := roundDiv_bounds c d
  have quotients : a / b ≤ c / d := by
    rw [Nat.le_div_iff_mul_le positive']
    refine Nat.le_of_mul_le_mul_right ?_ positive
    calc a / b * d * b = b * (a / b) * d := by ring
      _ ≤ a * d := Nat.mul_le_mul_right d (Nat.mul_div_le a b)
      _ ≤ c * b := below
  rcases Nat.lt_or_eq_of_le quotients with less | same
  · omega
  · -- Equal whole parts leave the remainders to be compared.
    have remainders : a % b * d ≤ c % d * b := by
      have left : a * d = a / b * (b * d) + a % b * d := by
        conv_lhs => rw [← first]
        ring
      have right : c * b = c / d * (b * d) + c % d * b := by
        conv_lhs => rw [← second]
        ring
      rw [left, right, same] at below
      omega
    have doubled : 2 * (a % b) * d ≤ 2 * (c % d) * b := by
      rw [Nat.mul_assoc, Nat.mul_assoc]
      exact Nat.mul_le_mul_left 2 remainders
    by_cases up : a / b < roundDiv a b
    · have up' : c / d < roundDiv c d := by
        rw [lt_roundDiv_iff] at up ⊢
        rcases up with above | ⟨half, odd⟩
        · left
          have scaled := Nat.mul_lt_mul_of_pos_right above positive'
          exact Nat.lt_of_mul_lt_mul_right (by rw [Nat.mul_comm d b]; omega)
        · have atLeast : d * b ≤ 2 * (c % d) * b := by rwa [← half, Nat.mul_comm b d] at doubled
          have := Nat.le_of_mul_le_mul_right atLeast positive
          rw [same] at odd
          omega
      omega
    · omega

theorem roundDiv_one (n : Nat) : roundDiv n 1 = n := by
  rw [roundDiv, Nat.div_one, Nat.mod_one]
  rfl

theorem le_roundDiv {a b k : Nat} (positive : 0 < b) (above : k * b ≤ a) : k ≤ roundDiv a b := by
  have := roundDiv_mono Nat.one_pos positive (show k * b ≤ a * 1 by omega)
  rwa [roundDiv_one] at this

theorem roundDiv_le {a b k : Nat} (positive : 0 < b) (below : a ≤ k * b) : roundDiv a b ≤ k := by
  have := roundDiv_mono positive Nat.one_pos (show a * 1 ≤ k * b by omega)
  rwa [roundDiv_one] at this

/-! ### Scaling by powers of two -/

theorem rescale_pos {n d : Nat} (positive : 0 < d) (e : Int) : 0 < (rescale n d e).2 := by
  cases e with
  | ofNat e => exact Nat.mul_pos positive (Nat.pow_pos (by decide))
  | negSucc e => exact positive

theorem rescale_eq (n d : Nat) (e : Int) :
    ((rescale n d e).1 : ℚ) / (rescale n d e).2 = n / d / 2 ^ e := by
  cases e with
  | ofNat e =>
    simp only [rescale, Int.ofNat_eq_natCast, zpow_natCast, Nat.pow_eq]
    push_cast
    rw [div_div]
  | negSucc e =>
    simp only [rescale, zpow_negSucc, Nat.pow_eq]
    push_cast
    rw [div_inv_eq_mul]
    ring

theorem rescale_neg (n d k : Nat) : rescale n d (-(k : Int)) = (n * 2 ^ k, d) := by
  cases k with
  | zero => simp [rescale]
  | succ k => rfl

theorem two_zpow_pos (e : Int) : (0 : ℚ) < 2 ^ e := zpow_pos (by norm_num) e

theorem two_pow_mul (k : Nat) (e : Int) : (2 : ℚ) ^ k * 2 ^ e = 2 ^ (k + e) := by
  rw [zpow_add₀ (by norm_num), zpow_natCast]

theorem two_zpow_le {e f : Int} (less : e ≤ f) : (2 : ℚ) ^ e ≤ 2 ^ f :=
  zpow_le_zpow_right₀ (by norm_num) less

theorem lt_of_two_zpow_lt {e f : Int} (less : (2 : ℚ) ^ e < 2 ^ f) : e < f :=
  (zpow_lt_zpow_iff_right₀ (by norm_num)).mp less

theorem leading_bounds {n d : Nat} (nonzero : 0 < n) (positive : 0 < d) :
    (2 : ℚ) ^ leading n d ≤ n / d ∧ (n : ℚ) / d < 2 ^ (leading n d + 1) := by
  have divisor : (0 : ℚ) < d := by exact_mod_cast positive
  have low : (2 : ℚ) ^ (n.log2 : Int) ≤ n := by
    rw [zpow_natCast]
    exact_mod_cast Nat.log2_self_le nonzero.ne'
  have high : (n : ℚ) < 2 ^ ((n.log2 : Int) + 1) := by exact_mod_cast Nat.lt_log2_self
  have low' : (2 : ℚ) ^ (d.log2 : Int) ≤ d := by
    rw [zpow_natCast]
    exact_mod_cast Nat.log2_self_le positive.ne'
  have high' : (d : ℚ) < 2 ^ ((d.log2 : Int) + 1) := by exact_mod_cast Nat.lt_log2_self
  have above : (n : ℚ) / d < 2 ^ ((n.log2 : Int) - d.log2 + 1) := by
    rw [div_lt_iff₀ divisor]
    calc (n : ℚ) < 2 ^ ((n.log2 : Int) + 1) := high
      _ = 2 ^ ((n.log2 : Int) - d.log2 + 1) * 2 ^ (d.log2 : Int) := by
        rw [← zpow_add₀ (by norm_num)]
        congr 1
        ring
      _ ≤ 2 ^ ((n.log2 : Int) - d.log2 + 1) * d :=
        mul_le_mul_of_nonneg_left low' (two_zpow_pos _).le
  have below : (2 : ℚ) ^ ((n.log2 : Int) - d.log2 - 1) ≤ n / d := by
    rw [le_div_iff₀ divisor]
    calc (2 : ℚ) ^ ((n.log2 : Int) - d.log2 - 1) * d
        ≤ 2 ^ ((n.log2 : Int) - d.log2 - 1) * 2 ^ ((d.log2 : Int) + 1) :=
          mul_le_mul_of_nonneg_left high'.le (two_zpow_pos _).le
      _ = 2 ^ (n.log2 : Int) := by
        rw [← zpow_add₀ (by norm_num)]
        congr 1
        ring
      _ ≤ n := low
  have unit : (0 : ℚ) < (rescale n d ((n.log2 : Int) - d.log2)).2 := by
    exact_mod_cast rescale_pos positive _
  have compared : (rescale n d ((n.log2 : Int) - d.log2)).1 <
      (rescale n d ((n.log2 : Int) - d.log2)).2 ↔ (n : ℚ) / d < 2 ^ ((n.log2 : Int) - d.log2) := by
    rw [← Nat.cast_lt (α := ℚ), ← div_lt_one unit, rescale_eq, div_lt_one (two_zpow_pos _)]
  unfold leading
  dsimp only
  split
  · rename_i less
    rw [sub_add_cancel]
    exact ⟨below, compared.mp less⟩
  · rename_i least
    exact ⟨not_lt.mp (mt compared.mpr least), above⟩

/-! ### Rounding to a number -/

/-- What a number is without its sign. -/
def magnitude (x : Binary64) : ℚ := x.significand * 2 ^ x.exponent

/-- A number in the form that rounding gives it: the significand has its leading bit unless
the exponent is the least one. -/
structure Normal (x : Binary64) : Prop where
  small : x.significand < 2 ^ 53
  least : minExponent ≤ x.exponent
  most : x.exponent ≤ maxExponent
  leads : minExponent < x.exponent → 2 ^ 52 ≤ x.significand

theorem normal_zero (negative : Bool) : (zero negative).Normal where
  small := Nat.two_pow_pos 53
  least := le_rfl
  most := show minExponent ≤ maxExponent by decide
  leads outside := absurd outside (lt_irrefl _)

/-- The exponent of the unit of which a ratio is rounded to a multiple. -/
def unitExponent (n d : Nat) : Int := max minExponent (leading n d - 52)

/-- The multiple of its unit to which a ratio is rounded. -/
def multiple (n d : Nat) : Nat :=
  roundDiv (rescale n d (unitExponent n d)).1 (rescale n d (unitExponent n d)).2

/-- The magnitude to which a ratio is rounded, in range or not. -/
def rounded (n d : Nat) : ℚ := multiple n d * 2 ^ unitExponent n d

/-- The number that the rounded magnitude would be if there were no range. -/
def nearest (negative : Bool) (n d : Nat) : Binary64 :=
  if multiple n d = 2 ^ 53 then ⟨negative, 2 ^ 52, unitExponent n d + 1⟩
  else ⟨negative, multiple n d, unitExponent n d⟩

theorem ofRatio_eq {negative : Bool} {n d : Nat} (nonzero : 0 < n) :
    ofRatio negative n d =
      if (nearest negative n d).exponent ≤ maxExponent then some (nearest negative n d)
      else none := by
  rw [ofRatio, if_neg nonzero.ne']
  rfl

theorem magnitude_nearest (negative : Bool) (n d : Nat) :
    (nearest negative n d).magnitude = rounded n d := by
  unfold nearest rounded
  split
  · rename_i full
    rw [full, magnitude, zpow_add_one₀ (by norm_num)]
    push_cast
    ring
  · rfl

theorem least_le_nearest (negative : Bool) (n d : Nat) :
    minExponent ≤ (nearest negative n d).exponent := by
  have least : minExponent ≤ unitExponent n d := le_max_left _ _
  unfold nearest
  split
  · dsimp only
    omega
  · exact least

section

variable {n d : Nat} (nonzero : 0 < n) (positive : 0 < d)

include positive

theorem multiple_le {k : Nat} (below : (n : ℚ) / d ≤ k * 2 ^ unitExponent n d) :
    multiple n d ≤ k := by
  have unit := rescale_pos (n := n) positive (unitExponent n d)
  refine roundDiv_le unit ?_
  have ratio := rescale_eq n d (unitExponent n d)
  rw [div_eq_iff (by exact_mod_cast unit.ne')] at ratio
  rw [← Nat.cast_le (α := ℚ), ratio, Nat.cast_mul]
  refine mul_le_mul_of_nonneg_right ?_ (Nat.cast_nonneg _)
  rwa [div_le_iff₀ (two_zpow_pos _)]

theorem le_multiple {k : Nat} (above : (k : ℚ) * 2 ^ unitExponent n d ≤ n / d) :
    k ≤ multiple n d := by
  have unit := rescale_pos (n := n) positive (unitExponent n d)
  refine le_roundDiv unit ?_
  have ratio := rescale_eq n d (unitExponent n d)
  rw [div_eq_iff (by exact_mod_cast unit.ne')] at ratio
  rw [← Nat.cast_le (α := ℚ), ratio, Nat.cast_mul]
  refine mul_le_mul_of_nonneg_right ?_ (Nat.cast_nonneg _)
  rwa [le_div_iff₀ (two_zpow_pos _)]

include nonzero

theorem multiple_le_top : multiple n d ≤ 2 ^ 53 := by
  refine multiple_le positive ?_
  have bound : leading n d + 1 ≤ 53 + unitExponent n d := by
    unfold unitExponent
    omega
  calc (n : ℚ) / d ≤ 2 ^ (leading n d + 1) := (leading_bounds nonzero positive).2.le
    _ ≤ 2 ^ (53 + unitExponent n d) := two_zpow_le bound
    _ = (2 ^ 53 : Nat) * 2 ^ unitExponent n d := by
      push_cast
      exact (two_pow_mul 53 _).symm

theorem bottom_le_multiple (inner : minExponent < unitExponent n d) :
    2 ^ 52 ≤ multiple n d := by
  refine le_multiple positive ?_
  have unit : 52 + unitExponent n d = leading n d := by
    unfold unitExponent at inner ⊢
    omega
  calc ((2 ^ 52 : Nat) : ℚ) * 2 ^ unitExponent n d = 2 ^ (52 + unitExponent n d) := by
        push_cast
        exact two_pow_mul 52 _
    _ = 2 ^ leading n d := by rw [unit]
    _ ≤ n / d := (leading_bounds nonzero positive).1

theorem nearest_small (negative : Bool) : (nearest negative n d).significand < 2 ^ 53 := by
  have top := multiple_le_top nonzero positive
  unfold nearest
  split <;> dsimp only
  · omega
  · omega

theorem nearest_leads (negative : Bool) (inner : minExponent < (nearest negative n d).exponent) :
    2 ^ 52 ≤ (nearest negative n d).significand := by
  unfold nearest at inner ⊢
  split
  · exact le_rfl
  · rename_i less
    rw [if_neg less] at inner
    exact bottom_le_multiple nonzero positive inner

/-- What rounding gives is the rounded magnitude, and in its normal form. -/
theorem ofRatio_eq_some {negative : Bool} {x : Binary64} (given : ofRatio negative n d = some x) :
    x.magnitude = rounded n d ∧ x.Normal := by
  rw [ofRatio_eq nonzero] at given
  split at given <;> rename_i most
  · obtain rfl := Option.some.inj given
    exact ⟨magnitude_nearest negative n d, nearest_small nonzero positive negative,
      least_le_nearest negative n d, most, nearest_leads nonzero positive negative⟩
  · cases given

theorem exists_ofRatio (negative : Bool) (inRange : rounded n d < 2 ^ (1024 : Int)) :
    ∃ x, ofRatio negative n d = some x := by
  have most : (nearest negative n d).exponent ≤ maxExponent := by
    by_contra outside
    have inner : minExponent < (nearest negative n d).exponent :=
      lt_trans (by decide) (not_le.mp outside)
    have leads : (2 ^ 52 : ℚ) ≤ (nearest negative n d).significand := by
      exact_mod_cast nearest_leads nonzero positive negative inner
    refine absurd inRange (not_lt.mpr ?_)
    calc (2 : ℚ) ^ (1024 : Int) = 2 ^ 52 * 2 ^ (maxExponent + 1) := by
          rw [two_pow_mul]
          rfl
      _ ≤ 2 ^ 52 * 2 ^ (nearest negative n d).exponent :=
        mul_le_mul_of_nonneg_left (two_zpow_le (by omega)) (by norm_num)
      _ ≤ (nearest negative n d).magnitude :=
        mul_le_mul_of_nonneg_right leads (two_zpow_pos _).le
      _ = rounded n d := magnitude_nearest negative n d
  rw [ofRatio_eq nonzero, if_pos most]
  exact ⟨_, rfl⟩

end

theorem Normal.magnitude_lt {x : Binary64} (normal : x.Normal) :
    x.magnitude < 2 ^ (1024 : Int) := by
  have small : (x.significand : ℚ) < 2 ^ 53 := by exact_mod_cast normal.small
  calc x.magnitude < 2 ^ 53 * 2 ^ x.exponent := mul_lt_mul_of_pos_right small (two_zpow_pos _)
    _ ≤ 2 ^ 53 * 2 ^ maxExponent :=
      mul_le_mul_of_nonneg_left (two_zpow_le normal.most) (by norm_num)
    _ = 2 ^ (1024 : Int) := two_pow_mul 53 maxExponent

theorem magnitude_nonneg (x : Binary64) : 0 ≤ x.magnitude :=
  mul_nonneg (Nat.cast_nonneg _) (two_zpow_pos _).le

theorem magnitude_zero (negative : Bool) : (zero negative).magnitude = 0 := by
  rw [magnitude, zero, Nat.cast_zero, zero_mul]

/-- Rounding keeps the order. -/
theorem rounded_mono {n d n' d' : Nat} (nonzero : 0 < n) (positive : 0 < d) (nonzero' : 0 < n')
    (positive' : 0 < d') (below : (n : ℚ) / d ≤ n' / d') : rounded n d ≤ rounded n' d' := by
  obtain ⟨low, -⟩ := leading_bounds nonzero positive
  obtain ⟨-, high⟩ := leading_bounds nonzero' positive'
  have leading_le : leading n d < leading n' d' + 1 :=
    lt_of_two_zpow_lt (low.trans_lt (below.trans_lt high))
  have units : unitExponent n d ≤ unitExponent n' d' := by
    unfold unitExponent
    omega
  rcases lt_or_eq_of_le units with less | same
  · -- A smaller unit belongs to magnitudes below the power of two where the larger one begins.
    have top : (multiple n d : ℚ) ≤ 2 ^ 53 := by
      exact_mod_cast multiple_le_top nonzero positive
    have bottom : (2 ^ 52 : ℚ) ≤ multiple n' d' := by
      exact_mod_cast bottom_le_multiple nonzero' positive' ((le_max_left _ _).trans_lt less)
    calc rounded n d ≤ 2 ^ 53 * 2 ^ unitExponent n d :=
          mul_le_mul_of_nonneg_right top (two_zpow_pos _).le
      _ = 2 ^ 52 * 2 ^ (unitExponent n d + 1) := by
        rw [zpow_add_one₀ (by norm_num)]
        ring
      _ ≤ 2 ^ 52 * 2 ^ unitExponent n' d' :=
        mul_le_mul_of_nonneg_left (two_zpow_le (by omega)) (by norm_num)
      _ ≤ rounded n' d' := mul_le_mul_of_nonneg_right bottom (two_zpow_pos _).le
  · have multiples : multiple n d ≤ multiple n' d' := by
      refine roundDiv_mono (rescale_pos positive _) (rescale_pos positive' _) ?_
      have unit : (0 : ℚ) < (rescale n d (unitExponent n d)).2 := by
        exact_mod_cast rescale_pos positive _
      have unit' : (0 : ℚ) < (rescale n' d' (unitExponent n' d')).2 := by
        exact_mod_cast rescale_pos positive' _
      rw [← Nat.cast_le (α := ℚ), Nat.cast_mul, Nat.cast_mul, ← div_le_div_iff₀ unit unit',
        rescale_eq, rescale_eq, same]
      exact div_le_div_of_nonneg_right below (two_zpow_pos _).le
    rw [rounded, rounded, same]
    exact mul_le_mul_of_nonneg_right (by exact_mod_cast multiples) (two_zpow_pos _).le

theorem normal_of_ofRatio {negative : Bool} {n d : Nat} {x : Binary64} (positive : 0 < d)
    (given : ofRatio negative n d = some x) : x.Normal := by
  rcases Nat.eq_zero_or_pos n with rfl | nonzero
  · obtain rfl := Option.some.inj given
    exact normal_zero negative
  · exact (ofRatio_eq_some nonzero positive given).2

/-- A ratio below one that can be rounded can be rounded, to a number that is not above. -/
theorem ofRatio_below {negative negative' : Bool} {n d n' d' : Nat} {y : Binary64}
    (positive : 0 < d) (positive' : 0 < d') (below : (n : ℚ) / d ≤ n' / d')
    (given : ofRatio negative' n' d' = some y) :
    ∃ x, ofRatio negative n d = some x ∧ x.magnitude ≤ y.magnitude := by
  rcases Nat.eq_zero_or_pos n with rfl | nonzero
  · exact ⟨zero negative, rfl, (magnitude_zero negative).trans_le y.magnitude_nonneg⟩
  · have nonzero' : 0 < n' := by
      rcases Nat.eq_zero_or_pos n' with rfl | nonzero'
      · have least : (0 : ℚ) < n / d := by positivity
        simp only [Nat.cast_zero, zero_div] at below
        exact absurd below (not_le.mpr least)
      · exact nonzero'
    have order := rounded_mono nonzero positive nonzero' positive' below
    obtain ⟨same', normal⟩ := ofRatio_eq_some nonzero' positive' given
    have inRange := normal.magnitude_lt
    rw [same'] at inRange
    obtain ⟨x, given'⟩ := exists_ofRatio nonzero positive negative (order.trans_lt inRange)
    refine ⟨x, given', ?_⟩
    rw [(ofRatio_eq_some nonzero positive given').1, same']
    exact order

/-! ### Operations -/

theorem ratio_pos (x : Binary64) : 0 < x.ratio.2 := rescale_pos Nat.one_pos _

theorem ratio_eq (x : Binary64) : (x.ratio.1 : ℚ) / x.ratio.2 = x.magnitude := by
  rw [ratio, rescale_eq, Nat.cast_one, div_one, zpow_neg, div_inv_eq_mul, magnitude]

/-- A product with a smaller factor can be rounded if the larger one can. -/
theorem mul_below {x x' y z : Binary64} (below : x.magnitude ≤ x'.magnitude)
    (given : x'.mul y = some z) : ∃ w, x.mul y = some w := by
  have ratios : ((x.ratio.1 * y.ratio.1 : Nat) : ℚ) / (x.ratio.2 * y.ratio.2 : Nat) ≤
      (x'.ratio.1 * y.ratio.1 : Nat) / (x'.ratio.2 * y.ratio.2 : Nat) := by
    push_cast
    rw [mul_div_mul_comm, mul_div_mul_comm, ratio_eq, ratio_eq, ratio_eq]
    exact mul_le_mul_of_nonneg_right below y.magnitude_nonneg
  obtain ⟨w, given', -⟩ := ofRatio_below (Nat.mul_pos x.ratio_pos y.ratio_pos)
    (Nat.mul_pos x'.ratio_pos y.ratio_pos) ratios given
  exact ⟨w, given'⟩

theorem normal_of_mul {x y z : Binary64} (given : x.mul y = some z) : z.Normal :=
  normal_of_ofRatio (Nat.mul_pos x.ratio_pos y.ratio_pos) given

theorem normal_of_div {x y z : Binary64} (nonzero : 0 < y.ratio.1) (given : x.div y = some z) :
    z.Normal :=
  normal_of_ofRatio (Nat.mul_pos x.ratio_pos nonzero) given

theorem normal_of_ofNat {n : Nat} {x : Binary64} (given : ofNat n = some x) : x.Normal :=
  normal_of_ofRatio Nat.one_pos given

theorem ofNat_below {n n' : Nat} {y : Binary64} (below : n ≤ n') (given : ofNat n' = some y) :
    ∃ x, ofNat n = some x ∧ x.magnitude ≤ y.magnitude := by
  refine ofRatio_below Nat.one_pos Nat.one_pos ?_ given
  rw [Nat.cast_one, div_one, div_one]
  exact_mod_cast below

/-- The sign does not matter to the form. -/
theorem Normal.withSign {x : Binary64} (normal : x.Normal) (negative : Bool) :
    { x with negative }.Normal :=
  ⟨normal.small, normal.least, normal.most, normal.leads⟩

end PresenceSeal.Number.Binary64
