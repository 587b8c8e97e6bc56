import Mathlib.Algebra.CharP.Two
import Mathlib.Algebra.Field.ZMod
import Mathlib.Algebra.Polynomial.Monic
import Mathlib.FieldTheory.Separable
import Mathlib.RingTheory.AdjoinRoot
import Mathlib.RingTheory.Ideal.Quotient.Nilpotent
import Mathlib.Tactic.ComputeDegree
import PresenceSeal.Cipher.Gcm

/-! The arithmetic of the tag. An element stands for a polynomial over two elements, and
what is computed with elements is computed with polynomials modulo one fixed polynomial.
That polynomial has no repeated factor, so no power of a nonzero element vanishes, and
two lists of blocks that differ by a unit in one place have different hashes. That the
modulus is irreducible is nowhere needed. -/
namespace PresenceSeal.Cipher.Gcm

open Polynomial

set_option maxRecDepth 3000

noncomputable def modulus : (ZMod 2)[X] := X ^ 128 + (X ^ 7 + X ^ 2 + X + 1)

/-- The most significant bit is the constant coefficient. -/
noncomputable def polynomial (v : Element) : (ZMod 2)[X] :=
  ∑ i ∈ Finset.range 128, if v.getMsbD i then X ^ i else 0

theorem getMsbD_of_le {v : Element} {k : Nat} (outside : 128 ≤ k) : v.getMsbD k = false := by
  rw [BitVec.getMsbD, decide_eq_false (Nat.not_lt.mpr outside), Bool.false_and]

theorem coeff_polynomial (v : Element) (k : Nat) :
    (polynomial v).coeff k = if v.getMsbD k then 1 else 0 := by
  have single (i : Nat) : (if v.getMsbD i then X ^ i else 0 : (ZMod 2)[X]).coeff k =
      if i = k then (if v.getMsbD k then 1 else 0) else 0 := by
    by_cases same : i = k
    · subst same
      cases v.getMsbD i <;> simp
    · cases v.getMsbD i <;> simp [coeff_X_pow, same, Ne.symm same]
  rw [polynomial, finsetSum_coeff, Finset.sum_congr rfl fun i _ => single i,
    Finset.sum_ite_eq' (Finset.range 128) k]
  by_cases inside : k < 128
  · simp [inside]
  · simp [getMsbD_of_le (Nat.not_lt.mp inside)]

theorem polynomial_xor (a b : Element) : polynomial (a ^^^ b) = polynomial a + polynomial b := by
  ext k
  simp only [coeff_add, coeff_polynomial, BitVec.getMsbD_xor]
  cases a.getMsbD k <;> cases b.getMsbD k <;> decide

theorem polynomial_injective : Function.Injective polynomial := by
  intro a b same
  apply BitVec.eq_of_getMsbD_eq
  intro k _
  have bits := congrArg (fun p => coeff p k) same
  simp only [coeff_polynomial] at bits
  revert bits
  cases a.getMsbD k <;> cases b.getMsbD k <;> decide

theorem polynomial_twoPow {i : Nat} (inside : i < 128) :
    polynomial (BitVec.twoPow 128 i) = X ^ (127 - i) := by
  have place : 128 - i - 1 = 127 - i := by omega
  ext k
  simp [coeff_polynomial, BitVec.getMsbD_twoPow, coeff_X_pow, inside, place]

theorem polynomial_reduction : polynomial reduction = X ^ 7 + X ^ 2 + X + 1 := by
  have shifted : reduction = 0xE1#128 <<< 120 := by decide
  ext k
  simp only [coeff_polynomial, coeff_add, coeff_X_pow, coeff_X, coeff_one]
  by_cases low : k < 8
  · rw [shifted]
    interval_cases k <;> decide
  · have unset : reduction.getMsbD k = false := by
      rw [shifted, BitVec.getMsbD_shiftLeft]
      exact getMsbD_of_le (by omega)
    rw [unset, if_neg (by omega : k ≠ 7), if_neg (by omega : k ≠ 2), if_neg (by omega : 1 ≠ k),
      if_neg (by omega : k ≠ 0)]
    decide

theorem polynomial_shift (v : Element) :
    polynomial (v >>> 1) + (if v.getMsbD 127 then X ^ 128 else 0) = X * polynomial v := by
  ext k
  have last : (if v.getMsbD 127 then X ^ 128 else 0 : (ZMod 2)[X]).coeff k =
      if k = 128 ∧ v.getMsbD 127 then 1 else 0 := by
    cases v.getMsbD 127 <;> simp [coeff_X_pow]
  rw [coeff_add, last]
  cases k with
  | zero => simp [coeff_polynomial]
  | succ k =>
    simp only [coeff_X_mul, coeff_polynomial, BitVec.getMsbD_ushiftRight]
    rcases Nat.lt_trichotomy k 127 with inside | rfl | outside
    · simp [Nat.ne_of_lt inside, show k + 1 < 128 by omega]
    · simp
    · simp [getMsbD_of_le (show 128 ≤ k by omega), Nat.ne_of_gt outside]

theorem degree_modulus : modulus.degree = 128 := by
  unfold modulus
  compute_degree!

theorem degree_polynomial_lt (v : Element) : (polynomial v).degree < modulus.degree := by
  rw [degree_modulus]
  apply (degree_lt_iff_coeff_zero _ 128).mpr
  intro k outside
  simp [coeff_polynomial, getMsbD_of_le outside]

/-- The modulus is one more than a multiple of its derivative. -/
theorem modulus_separable : modulus.Separable := by
  have two : (2 : (ZMod 2)[X]) = 0 := CharTwo.two_eq_zero
  -- `X ^ 128 + X ^ 2` is `X ^ 2 * (X ^ 126 + 1)`, and 126 is 6 * 21.
  let powers : (ZMod 2)[X] := ∑ i ∈ Finset.range 21, (X ^ 6) ^ i
  let factor : (ZMod 2)[X] := X + X ^ 2 * powers
  have derived : derivative modulus = X ^ 6 + 1 := by
    have exponents : ((128 : Nat) : ZMod 2) = 0 ∧ ((7 : Nat) : ZMod 2) = 1 ∧
        ((2 : Nat) : ZMod 2) = 0 := by decide
    rw [modulus]
    simp only [derivative_add, derivative_X_pow, derivative_X, derivative_one, exponents, map_zero,
      map_one, zero_mul, one_mul, zero_add, add_zero]
  have factored : modulus = 1 + factor * (X ^ 6 + 1) := by
    have geometric : powers * (X ^ 6 - 1) = (X ^ 6) ^ 21 - 1 := geom_sum_mul _ 21
    rw [modulus]
    linear_combination X ^ 2 * (1 - powers) * two - X ^ 2 * geometric
  refine ⟨1, factor, ?_⟩
  rw [derived, factored]
  linear_combination factor * (X ^ 6 + 1) * two

/-- The ring in which tags are computed. -/
abbrev Residue := AdjoinRoot modulus

instance : IsReduced Residue := by
  have radical := isRadical_iff_span_singleton.mp modulus_separable.squarefree.isRadical
  exact (Ideal.isRadical_iff_quotient_reduced _).mp radical

theorem two_eq_zero : (2 : Residue) = 0 := by
  rw [← map_ofNat (AdjoinRoot.of modulus) 2, show (2 : ZMod 2) = 0 from rfl, map_zero]

noncomputable def residue (v : Element) : Residue := AdjoinRoot.mk modulus (polynomial v)

noncomputable def root : Residue := AdjoinRoot.root modulus

theorem residue_xor (a b : Element) : residue (a ^^^ b) = residue a + residue b := by
  rw [residue, polynomial_xor, map_add, residue, residue]

theorem residue_zero : residue 0 = 0 := by
  have same := residue_xor 0 0
  simpa using same

theorem residue_injective : Function.Injective residue := by
  intro a b same
  have divides : modulus ∣ polynomial a - polynomial b := AdjoinRoot.mk_eq_mk.mp same
  have small : (polynomial a - polynomial b).degree < modulus.degree :=
    lt_of_le_of_lt (degree_sub_le _ _) (max_lt (degree_polynomial_lt a) (degree_polynomial_lt b))
  have difference := eq_zero_of_dvd_of_degree_lt divides small
  exact polynomial_injective (sub_eq_zero.mp difference)

theorem residue_twoPow {i : Nat} (inside : i < 128) :
    residue (BitVec.twoPow 128 i) = root ^ (127 - i) := by
  rw [residue, polynomial_twoPow inside, map_pow, AdjoinRoot.mk_X, root]

/-- A coefficient that is shifted past the end comes back as the reduction. -/
theorem root_pow : root ^ 128 = residue reduction := by
  have vanishes : AdjoinRoot.mk modulus (X ^ 128 + (X ^ 7 + X ^ 2 + X + 1)) = 0 := by
    rw [← modulus, AdjoinRoot.mk_self]
  rw [map_add, map_pow, AdjoinRoot.mk_X, ← polynomial_reduction, ← root, ← residue] at vanishes
  linear_combination vanishes - residue reduction * two_eq_zero

theorem isUnit_root : IsUnit root := by
  have power : root ^ 128 = root ^ 7 + root ^ 2 + root + 1 := by
    rw [root_pow, residue, polynomial_reduction]
    simp only [map_add, map_pow, map_one, AdjoinRoot.mk_X, root]
  have inverse : root * (root ^ 127 + root ^ 6 + root + 1) = 1 := by
    linear_combination power + (root ^ 7 + root ^ 2 + root) * two_eq_zero
  exact .of_mul_eq_one _ inverse

theorem residue_timesX (v : Element) : residue (timesX v) = root * residue v := by
  have shift := congrArg (AdjoinRoot.mk modulus) (polynomial_shift v)
  have lowest : v.getLsbD 0 = v.getMsbD 127 := by simp [BitVec.getMsbD]
  rw [map_mul, AdjoinRoot.mk_X, ← root, map_add, ← residue, ← residue] at shift
  rw [timesX, lowest, ← shift]
  cases v.getMsbD 127 with
  | false => simp
  | true =>
    simp only [↓reduceIte, map_pow, AdjoinRoot.mk_X, residue_xor]
    rw [← root, root_pow]

theorem residue_select (a : Element) (count index : Nat) (v : Element) :
    residue (select a count index v) =
      (∑ i ∈ Finset.range count, if a.getMsbD (index + i) then root ^ i else 0) * residue v := by
  induction count generalizing index v with
  | zero =>
    rw [Finset.sum_range_zero, zero_mul]
    exact residue_zero
  | succ count ih =>
    have first : residue (if a.getMsbD index then v else 0) =
        (if a.getMsbD (index + 0) then root ^ 0 else 0) * residue v := by
      rw [Nat.add_zero]
      cases a.getMsbD index
      · simpa using residue_zero
      · simp
    have rest (i : Nat) : (if a.getMsbD (index + (i + 1)) then root ^ (i + 1) else 0) =
        (if a.getMsbD (index + 1 + i) then root ^ i else 0) * root := by
      rw [Nat.add_right_comm, Nat.add_assoc, pow_succ, ite_mul, zero_mul]
    rw [select, residue_xor, first, ih, residue_timesX, Finset.sum_range_succ',
      Finset.sum_congr rfl fun i _ => rest i, ← Finset.sum_mul, add_mul, mul_assoc, add_comm]

theorem residue_mul (a b : Element) : residue (mul a b) = residue a * residue b := by
  have coefficients : residue a = ∑ i ∈ Finset.range 128, if a.getMsbD i then root ^ i else 0 := by
    rw [residue, polynomial, map_sum]
    refine Finset.sum_congr rfl fun i _ => ?_
    cases a.getMsbD i
    · simp
    · simp [root]
  rw [mul, residue_select, coefficients]
  simp only [Nat.zero_add]

/-- The same blocks multiply the difference of two sums by the subkey, once for each block. -/
theorem residue_foldl (subkey : Element) (blocks : List Element) (s t : Element) :
    residue (blocks.foldl (fun sum block => mul (sum ^^^ block) subkey) s) +
        residue (blocks.foldl (fun sum block => mul (sum ^^^ block) subkey) t) =
      (residue s + residue t) * residue subkey ^ blocks.length := by
  induction blocks generalizing s t with
  | nil => simp
  | cons block rest ih =>
    rw [List.foldl_cons, List.foldl_cons, ih, residue_mul, residue_mul, residue_xor, residue_xor,
      List.length_cons]
    linear_combination residue block * residue subkey ^ (rest.length + 1) * two_eq_zero

/-- A difference that is a unit, in a single block, is never hashed away. -/
theorem ghash_ne {subkey a b : Element} (nonzero : subkey ≠ 0) (unit : IsUnit (residue (a ^^^ b)))
    (front back : List Element) :
    ghash subkey (front ++ a :: back) ≠ ghash subkey (front ++ b :: back) := by
  intro same
  -- The front is hashed to the same sum on both sides, so it cancels, as the back does.
  have split (c : Element) : ghash subkey (front ++ c :: back) =
      back.foldl (fun sum block => mul (sum ^^^ block) subkey)
        (mul (ghash subkey front ^^^ c) subkey) := by
    rw [ghash, List.foldl_append, List.foldl_cons, ← ghash]
  have sum : residue (ghash subkey (front ++ a :: back)) +
      residue (ghash subkey (front ++ b :: back)) =
        residue (a ^^^ b) * residue subkey ^ (back.length + 1) := by
    rw [split a, split b, residue_foldl, residue_mul, residue_mul, residue_xor, residue_xor,
      residue_xor]
    linear_combination
      residue (ghash subkey front) * residue subkey ^ (back.length + 1) * two_eq_zero
  have vanishes : residue (a ^^^ b) * residue subkey ^ (back.length + 1) = 0 := by
    rw [← sum, same]
    linear_combination residue (ghash subkey (front ++ b :: back)) * two_eq_zero
  have power := unit.mul_right_eq_zero.mp vanishes
  have zero : residue subkey = residue 0 := by
    rw [residue_zero]
    exact eq_zero_of_pow_eq_zero power
  exact nonzero (residue_injective zero)

end PresenceSeal.Cipher.Gcm
