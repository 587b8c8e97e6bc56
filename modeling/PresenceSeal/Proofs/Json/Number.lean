import PresenceSeal.Json.Printer
import PresenceSeal.Proofs.Json.Numeral
import PresenceSeal.Proofs.Number.Shortest

/-! Printed numbers as numerals, and what becomes of them when they are read again. Every
number that has been read can be read again from its own text. -/
namespace PresenceSeal.Json

/-! ### Numerals of numbers -/

/-- The numeral in which a binary64 number is written. -/
def realNumeral (x : Number.Binary64) : Numeral :=
  let d := Number.shortest x
  let digits := Text.decimal d.digits
  let point : Int := digits.length + d.exponent
  if x.isZero then ⟨x.negative, ['0'], ['0'], none⟩
  else if 0 ≤ d.exponent ∧ point ≤ 16 then
    ⟨x.negative, digits ++ List.replicate d.exponent.toNat '0', ['0'], none⟩
  else if 0 < point ∧ point ≤ 16 then
    ⟨x.negative, digits.take point.toNat, digits.drop point.toNat, none⟩
  else if -5 < point ∧ point ≤ 0 then
    ⟨x.negative, ['0'], List.replicate (-point).toNat '0' ++ digits, none⟩
  else
    ⟨x.negative, digits.take 1, digits.drop 1,
      some (decide (point - 1 < 0), Text.decimal (point - 1).natAbs)⟩

/-- The numeral in which an integer is written. -/
def integerNumeral (value : Int) : Numeral :=
  ⟨decide (value < 0), Text.decimal value.natAbs, [], none⟩

def Number.numeral : Json.Number → Numeral
  | .integer value => integerNumeral value
  | .real value => realNumeral value

theorem spell_of_fraction {negative : Bool} {whole fraction : List Char} (filled : fraction ≠ []) :
    (Numeral.mk negative whole fraction none).spell =
      (if negative then ['-'] else []) ++ (whole ++ '.' :: fraction) := by
  simp only [Numeral.spell, Numeral.spellExponent, if_neg filled, List.append_nil,
    List.append_assoc]

theorem text_eq_spell (x : Number.Binary64) : Number.text x = (realNumeral x).spell := by
  have filled := Text.decimal_ne_nil (Number.shortest x).digits
  unfold Number.text realNumeral
  dsimp only
  generalize Text.decimal (Number.shortest x).digits = digits at filled ⊢
  generalize (Number.shortest x).exponent = exponent
  have length : 0 < digits.length := List.length_pos_of_ne_nil filled
  by_cases zero : x.isZero = true
  · simp only [if_pos zero]
    rw [spell_of_fraction (by decide)]
    rfl
  · simp only [if_neg zero]
    by_cases whole : 0 ≤ exponent ∧ digits.length + exponent ≤ 16
    · simp only [if_pos whole]
      rw [spell_of_fraction (by decide)]
    · simp only [if_neg whole]
      by_cases inside : 0 < digits.length + exponent ∧ digits.length + exponent ≤ 16
      · have behind : digits.drop (digits.length + exponent).toNat ≠ [] := by
          rw [Ne, List.drop_eq_nil_iff]
          omega
        simp only [if_pos inside]
        rw [spell_of_fraction behind, List.append_assoc, List.singleton_append]
      · simp only [if_neg inside]
        by_cases small : -5 < digits.length + exponent ∧ digits.length + exponent ≤ 0
        · simp only [if_pos small]
          rw [spell_of_fraction (List.append_ne_nil_of_right_ne_nil _ filled)]
          rfl
        · simp only [if_neg small, Numeral.spell, Numeral.spellExponent]
          cases digits with
          | nil => exact absurd rfl filled
          | cons c more =>
            cases more with
            | nil => simp
            | cons d more => simp

theorem signedDecimal_eq_spell (value : Int) :
    Text.signedDecimal value = (integerNumeral value).spell := by
  cases value with
  | ofNat n => simp [Text.signedDecimal, integerNumeral, Numeral.spell, Numeral.spellExponent]
  | negSucc n => simp [Text.signedDecimal, integerNumeral, Numeral.spell, Numeral.spellExponent]

/-- Printed digits begin with a zero only if they are those of zero. -/
theorem proper_decimal (n : Nat) : Numeral.Proper (Text.decimal n) := by
  rcases Nat.eq_zero_or_pos n with rfl | positive
  · exact .inl rfl
  · cases digits : Text.decimal n with
    | nil => exact absurd digits (Text.decimal_ne_nil n)
    | cons c rest =>
      refine .inr ⟨c, rest, rfl, Text.head_decimal positive digits, ?_⟩
      rw [← digits]
      exact Text.isDigit_of_mem_decimal

/-- What begins with a printed number's first digit is as good as the number's digits. -/
theorem proper_of_head {n : Nat} (nonzero : n ≠ 0) {whole : List Char}
    (head : whole.head? = (Text.decimal n).head?) (all : ∀ d ∈ whole, Text.isDigit d = true) :
    Numeral.Proper whole := by
  cases digits : Text.decimal n with
  | nil => exact absurd digits (Text.decimal_ne_nil n)
  | cons d more =>
    rw [digits, List.head?_cons, List.head?_eq_some_iff] at head
    obtain ⟨rest, rfl⟩ := head
    exact .inr ⟨d, rest, rfl, Text.head_decimal (Nat.pos_of_ne_zero nonzero) digits, all⟩

theorem isDigit_of_mem_replicate {n : Nat} : ∀ c ∈ List.replicate n '0', Text.isDigit c = true := by
  intro c member
  rw [List.eq_of_mem_replicate member]
  rfl

theorem formed_realNumeral (x : Number.Binary64) : (realNumeral x).Formed := by
  have all : ∀ c ∈ Text.decimal (Number.shortest x).digits, Text.isDigit c = true :=
    Text.isDigit_of_mem_decimal
  have zero : ∀ c ∈ ['0'], Text.isDigit c = true := List.forall_mem_singleton.mpr rfl
  have filled := Text.decimal_ne_nil (Number.shortest x).digits
  unfold realNumeral
  dsimp only
  split
  · exact ⟨.inl rfl, zero, nofun⟩
  · rename_i isZero
    have proper {whole : List Char} (head : whole.head? = _)
        (digits : ∀ d ∈ whole, Text.isDigit d = true) : Numeral.Proper whole :=
      proper_of_head (Number.shortest_digits (mt beq_iff_eq.mpr isZero)) head digits
    split
    · refine ⟨proper (List.head?_append_of_ne_nil _ filled) ?_, zero, nofun⟩
      exact List.forall_mem_append.mpr ⟨all, isDigit_of_mem_replicate⟩
    · split
      · rename_i inside
        refine ⟨proper ?_ fun c member => all c (List.mem_of_mem_take member),
          fun c member => all c (List.mem_of_mem_drop member), nofun⟩
        rw [List.head?_take, if_neg (by omega)]
      · split
        · exact ⟨.inl rfl, List.forall_mem_append.mpr ⟨isDigit_of_mem_replicate, all⟩, nofun⟩
        · refine ⟨proper ?_ fun c member => all c (List.mem_of_mem_take member),
            fun c member => all c (List.mem_of_mem_drop member), ?_⟩
          · rw [List.head?_take, if_neg Nat.one_ne_zero]
          · rintro negative digits same
            obtain ⟨-, rfl⟩ := Prod.mk.inj (Option.some.inj same)
            exact ⟨Text.decimal_ne_nil _, Text.isDigit_of_mem_decimal⟩

theorem formed_integerNumeral (value : Int) : (integerNumeral value).Formed :=
  ⟨proper_decimal _, nofun, nofun⟩

theorem Number.formed_numeral (n : Json.Number) : n.numeral.Formed := by
  cases n with
  | integer value => exact formed_integerNumeral value
  | real value => exact formed_realNumeral value

theorem render_number (n : Json.Number) : n.render = n.numeral.spell := by
  cases n with
  | integer value => exact signedDecimal_eq_spell value
  | real value => exact text_eq_spell value

/-! ### Digits within 64 bits -/

namespace Numeral

/-- What digits denote behind those whose value is known. -/
def denoted (significand : Nat) (digits : List Char) : Nat :=
  digits.foldl (fun value c => 10 * value + Text.digitValue c) significand

theorem le_denoted (significand : Nat) (digits : List Char) :
    significand * 10 ^ digits.length ≤ denoted significand digits := by
  induction digits generalizing significand with
  | nil => simp [denoted]
  | cons c rest ih =>
    calc significand * 10 ^ (rest.length + 1)
        = 10 * significand * 10 ^ rest.length := by ring
      _ ≤ (10 * significand + Text.digitValue c) * 10 ^ rest.length :=
        Nat.mul_le_mul_right _ (Nat.le_add_right _ _)
      _ ≤ denoted significand (c :: rest) := ih _

theorem digitValue_le {c : Char} (digit : Text.isDigit c = true) : Text.digitValue c ≤ 9 := by
  have zero : '0'.toNat = 48 := rfl
  have := Text.isDigit_iff.mp digit
  rw [Text.digitValue, zero]
  omega

theorem denoted_lt (significand : Nat) {digits : List Char}
    (all : ∀ c ∈ digits, Text.isDigit c = true) :
    denoted significand digits < (significand + 1) * 10 ^ digits.length := by
  induction digits generalizing significand with
  | nil => simp [denoted]
  | cons c rest ih =>
    obtain ⟨first, others⟩ := List.forall_mem_cons.mp all
    have small := digitValue_le first
    calc denoted significand (c :: rest)
        < (10 * significand + Text.digitValue c + 1) * 10 ^ rest.length := ih _ others
      _ ≤ (10 * (significand + 1)) * 10 ^ rest.length := Nat.mul_le_mul_right _ (by omega)
      _ = (significand + 1) * 10 ^ (rest.length + 1) := by ring

/-- Digits that fit are all absorbed. -/
theorem absorb_of_fits {significand : Nat} {digits : List Char}
    (fits : denoted significand digits < 2 ^ 64) :
    absorb significand digits = (denoted significand digits, []) := by
  induction digits generalizing significand with
  | nil => rfl
  | cons c rest ih =>
    have least := le_denoted (10 * significand + Text.digitValue c) rest
    have power : 0 < 10 ^ rest.length := Nat.pow_pos (by decide)
    have next : 10 * significand + Text.digitValue c < 2 ^ 64 :=
      ((Nat.le_mul_of_pos_right _ power).trans least).trans_lt fits
    rw [absorb, Nat.pow_eq, if_pos next]
    exact ih fits

/-- What is absorbed fits, and the digits that are left would not make it less. -/
theorem absorb_bounds {significand : Nat} (fits : significand < 2 ^ 64) (digits : List Char) :
    (absorb significand digits).1 < 2 ^ 64 ∧
      (absorb significand digits).2.length ≤ digits.length ∧
        (absorb significand digits).1 * 10 ^ (absorb significand digits).2.length ≤
          denoted significand digits := by
  induction digits generalizing significand with
  | nil => exact ⟨fits, le_rfl, le_denoted significand []⟩
  | cons c rest ih =>
    rw [absorb, Nat.pow_eq]
    split
    · rename_i next
      obtain ⟨below, shorter, least⟩ := ih next
      exact ⟨below, shorter.trans (Nat.le_succ _), least⟩
    · exact ⟨fits, le_rfl, le_denoted significand (c :: rest)⟩

/-! ### Numbers that have been read -/

theorem tenPower_ratio_pos : ∀ e < 309, 0 < (tenPower e).ratio.1 := by decide +kernel

theorem normal_getD {x : Option Number.Binary64} {y : Number.Binary64}
    (first : ∀ z, x = some z → z.Normal) (second : y.Normal) : (x.getD y).Normal := by
  cases x with
  | none => exact second
  | some z => exact first z rfl

theorem normal_divideByTen {x : Number.Binary64} (normal : x.Normal) (e : Nat) :
    (divideByTen x e).Normal := by
  induction e using Nat.strongRecOn generalizing x with
  | _ e ih =>
    have quotient {k : Nat} (small : k < 309) : ((x.div (tenPower k)).getD x).Normal :=
      normal_getD (fun _ => Number.Binary64.normal_of_div (tenPower_ratio_pos k small)) normal
    rw [divideByTen]
    split
    · exact quotient (by omega)
    · split
      · exact normal
      · exact ih (e - 308) (by omega) (quotient (by decide))

/-- A significand as a number. -/
def start (significand : Nat) : Number.Binary64 :=
  (Number.Binary64.ofNat significand).getD (Number.Binary64.zero false)

theorem normal_start (significand : Nat) : (start significand).Normal :=
  normal_getD (fun _ => Number.Binary64.normal_of_ofNat) (Number.Binary64.normal_zero false)

theorem scaled_negSucc (negative : Bool) (significand e : Nat) :
    scaled negative significand (.negSucc e) =
      .ok { divideByTen (start significand) (e + 1) with negative } := rfl

/-- Only a product that is out of range cannot be read. -/
theorem scaled_ofNat {negative : Bool} {significand e : Nat} (small : e ≤ 308) :
    scaled negative significand (.ofNat e) =
      match (start significand).mul (tenPower e) with
      | some y => .ok { y with negative }
      | none => .error .numberOutOfRange := by
  simp only [scaled, if_pos small, start]
  cases ((Number.Binary64.ofNat significand).getD (Number.Binary64.zero false)).mul
    (tenPower e) with
  | some y => rfl
  | none => rfl

theorem scaled_ofNat_large {negative : Bool} {significand e : Nat} (large : ¬e ≤ 308) :
    scaled negative significand (.ofNat e) =
      if (start significand).isZero then .ok { start significand with negative }
      else .error .numberOutOfRange := by
  unfold start
  simp only [scaled, if_neg large]
  split <;> rfl

theorem normal_of_scaled {negative : Bool} {significand : Nat} {e : Int} {y : Number.Binary64}
    (given : scaled negative significand e = .ok y) : y.Normal := by
  cases e with
  | negSucc e =>
    rw [scaled_negSucc] at given
    obtain rfl := Except.ok.inj given
    exact (normal_divideByTen (normal_start significand) (e + 1)).withSign negative
  | ofNat e =>
    by_cases small : e ≤ 308
    · rw [scaled_ofNat small] at given
      split at given
      · rename_i product
        obtain rfl := Except.ok.inj given
        exact (Number.Binary64.normal_of_mul product).withSign negative
      · cases given
    · rw [scaled_ofNat_large small] at given
      split at given
      · obtain rfl := Except.ok.inj given
        exact (normal_start significand).withSign negative
      · cases given

end Numeral

/-- The numbers that reading makes. -/
def Number.InRange : Json.Number → Prop
  | .integer value => -2 ^ 63 ≤ value ∧ value < 2 ^ 64
  | .real value => value.Normal

namespace Numeral

theorem inRange_of_scaled {negative : Bool} {significand : Nat} {e : Int} {value : Json.Number}
    (given : (scaled negative significand e).map .real = .ok value) : value.InRange := by
  cases result : scaled negative significand e with
  | error _ =>
    rw [result] at given
    cases given
  | ok y =>
    rw [result] at given
    obtain rfl := Except.ok.inj given
    exact normal_of_scaled result

theorem inRange_of_integer {negative : Bool} {magnitude : Nat} {value : Json.Number}
    (fits : magnitude < 2 ^ 64) (given : integer negative magnitude = .ok value) :
    value.InRange := by
  unfold integer at given
  split at given
  · obtain rfl := Except.ok.inj given
    exact ⟨by omega, by exact_mod_cast fits⟩
  · split at given
    · rename_i inside
      obtain rfl := Except.ok.inj given
      rw [Nat.pow_eq] at inside
      exact ⟨by omega, by omega⟩
    · exact inRange_of_scaled given

/-- What a numeral stands for is in range. -/
theorem inRange_of_number {n : Numeral} {value : Json.Number} (given : n.number = .ok value) :
    value.InRange := by
  have fits := (absorb_bounds (show 0 < 2 ^ 64 by decide) n.whole).1
  unfold number at given
  dsimp only at given
  split at given
  · exact inRange_of_integer fits given
  · split at given
    · exact inRange_of_scaled given
    · split at given
      · split at given
        · cases given
        · obtain rfl := Except.ok.inj given
          exact Number.Binary64.normal_zero n.negative
      · exact inRange_of_scaled given

end Numeral

/-! ### Reading again -/

namespace Numeral

theorem exists_scaled_neg (negative : Bool) (significand : Nat) {e : Int} (below : e < 0) :
    ∃ y, scaled negative significand e = .ok y := by
  cases e with
  | ofNat e => exact absurd below (not_lt.mpr (Int.natCast_nonneg e))
  | negSucc e => exact ⟨_, scaled_negSucc negative significand e⟩

/-- The largest significand of each power of ten below `2 ^ 1023` has a product in range. -/
theorem products_below : ∀ e < 309,
    ((Number.Binary64.ofNat (min (2 ^ 64 - 1) (2 ^ 1023 / 10 ^ e))).bind
      (·.mul (tenPower e))).isSome = true := by decide +kernel

/-- And so has that of each power of ten from `10 ^ 291` on up to the largest number. -/
theorem products_largest : ∀ e < 309, 291 ≤ e →
    ((Number.Binary64.ofNat (min (2 ^ 64 - 1) (Number.largestDigits * 10 ^ 292 / 10 ^ e))).bind
      (·.mul (tenPower e))).isSome = true := by decide +kernel

theorem exists_scaled_of_le {negative : Bool} {significand most e : Nat} (small : e < 309)
    (below : significand ≤ most)
    (product : ((Number.Binary64.ofNat most).bind (·.mul (tenPower e))).isSome = true) :
    ∃ y, scaled negative significand (.ofNat e) = .ok y := by
  obtain ⟨z, product⟩ := Option.isSome_iff_exists.mp product
  obtain ⟨x', rounded, product⟩ := Option.bind_eq_some_iff.mp product
  obtain ⟨x, rounded', order⟩ := Number.Binary64.ofNat_below below rounded
  obtain ⟨y, product'⟩ := Number.Binary64.mul_below order product
  have start' : start significand = x := by rw [start, rounded', Option.getD_some]
  rw [scaled_ofNat (by omega), start', product']
  exact ⟨_, rfl⟩

/-- What has been absorbed of a decimal's digits is not above the decimal. -/
theorem significand_le {d : Number.Decimal} {significand unread k most : Nat}
    (part : significand * 10 ^ unread ≤ d.digits) (scale : (k : Int) = unread + d.exponent)
    (bound : d.value ≤ most) : significand * 10 ^ k ≤ most := by
  have part' : (significand : ℚ) * 10 ^ unread ≤ d.digits := by exact_mod_cast part
  have value : (significand : ℚ) * 10 ^ k ≤ most := by
    calc (significand : ℚ) * 10 ^ k = significand * 10 ^ unread * 10 ^ d.exponent := by
          rw [← zpow_natCast, scale, zpow_add₀ (by norm_num), zpow_natCast, mul_assoc]
      _ ≤ d.digits * 10 ^ d.exponent :=
        mul_le_mul_of_nonneg_right part' (zpow_pos (by norm_num) _).le
      _ ≤ most := bound
  exact_mod_cast value

/-- A decimal that has been printed can be scaled again. -/
theorem exists_scaled_shortest {x : Number.Binary64} (normal : x.Normal)
    (nonzero : x.significand ≠ 0) {significand unread k : Nat} (fits : significand < 2 ^ 64)
    (part : significand * 10 ^ unread ≤ (Number.shortest x).digits)
    (scale : (k : Int) = unread + (Number.shortest x).exponent) (small : k < 309)
    (negative : Bool) : ∃ y, scaled negative significand (.ofNat k) = .ok y := by
  have quotient {most : Nat} (bound : (Number.shortest x).value ≤ most) :
      significand ≤ min (2 ^ 64 - 1) (most / 10 ^ k) := by
    have least := significand_le part scale bound
    rw [le_min_iff, Nat.le_div_iff_mul_le (Nat.pow_pos (by decide))]
    exact ⟨by omega, least⟩
  rcases lt_or_eq_of_le normal.most with below | largest
  · have bound : (Number.shortest x).value ≤ (2 ^ 1023 : Nat) := by
      have := (Number.shortest_value_lt normal nonzero below).le
      rw [zpow_ofNat] at this
      exact_mod_cast this
    exact exists_scaled_of_le small (quotient bound) (products_below k small)
  · have bound : (Number.shortest x).value ≤ (Number.largestDigits * 10 ^ 292 : Nat) := by
      have := Number.shortest_value_le normal largest
      rw [zpow_ofNat] at this
      exact_mod_cast this
    have coarse := Number.shortest_exponent normal largest
    exact exists_scaled_of_le small (quotient bound) (products_largest k small (by omega))

/-- Numbers without exponent and with digits behind the point can always be read. -/
theorem exists_number_of_fraction {negative : Bool} {whole fraction : List Char}
    (digits : ∀ c ∈ whole, Text.isDigit c = true) (short : whole.length ≤ 16)
    (digits' : ∀ c ∈ fraction, Text.isDigit c = true) (filled : fraction ≠ []) :
    ∃ value, (Numeral.mk negative whole fraction none).number = .ok value := by
  have power : 10 ^ whole.length ≤ 10 ^ 16 := Nat.pow_le_pow_right (by decide) short
  have below : denoted 0 whole < 1 * 10 ^ whole.length := denoted_lt 0 digits
  have absorbed := absorb_of_fits (show denoted 0 whole < 2 ^ 64 by omega)
  generalize denoted 0 whole = value at below absorbed
  cases fraction with
  | nil => exact absurd rfl filled
  | cons c rest =>
    have first := digitValue_le (List.forall_mem_cons.mp digits').1
    have next : 10 * value + Text.digitValue c < 2 ^ 64 := by omega
    have step : absorb value (c :: rest) = absorb (10 * value + Text.digitValue c) rest := by
      rw [absorb, Nat.pow_eq, if_pos next]
    obtain ⟨-, shorter, -⟩ := absorb_bounds next rest
    rw [← step] at shorter
    obtain ⟨y, made⟩ := exists_scaled_neg negative (absorb value (c :: rest)).1
      (show ((absorb value (c :: rest)).2.length : Int) - (c :: rest).length < 0 by
        rw [List.length_cons]; omega)
    refine ⟨.real y, ?_⟩
    simp only [number, absorbed, reduceCtorEq, false_and, ↓reduceIte, List.length_nil,
      Nat.cast_zero, Int.zero_add, made]
    rfl

theorem absorb_digit {c : Char} (digit : Text.isDigit c = true) :
    absorb 0 [c] = (Text.digitValue c, []) := by
  have first := digitValue_le digit
  have value : denoted 0 [c] = Text.digitValue c := by simp [denoted]
  rw [absorb_of_fits (by omega), value]

/-- The value of a numeral of one digit, a fraction and a printed exponent. -/
theorem number_of_exponent {negative below : Bool} {c : Char} {fraction : List Char} {n : Nat}
    (digit : Text.isDigit c = true) (small : n < 2 ^ 31) :
    (Numeral.mk negative [c] fraction (some (below, Text.decimal n))).number =
      (scaled negative (absorb (Text.digitValue c) fraction).1
        (((absorb (Text.digitValue c) fraction).2.length : Int) - fraction.length +
          if below then -(n : Int) else n)).map .real := by
  simp only [number, absorb_digit digit, Text.ofDecimal_decimal, reduceCtorEq, false_and,
    and_false, ↓reduceIte, List.length_nil, Nat.cast_zero, Int.zero_add, Nat.pow_eq,
    if_neg (not_le.mpr small)]
  cases below <;> rfl

/-- A number with a negative exponent can always be read. -/
theorem exists_number_of_negative {negative : Bool} {c : Char} {fraction : List Char} {n : Nat}
    (digit : Text.isDigit c = true) (positive : 0 < n) :
    ∃ value,
      (Numeral.mk negative [c] fraction (some (true, Text.decimal n))).number = .ok value := by
  by_cases small : n < 2 ^ 31
  · have first := digitValue_le digit
    obtain ⟨-, shorter, -⟩ := absorb_bounds (show Text.digitValue c < 2 ^ 64 by omega) fraction
    obtain ⟨y, made⟩ := exists_scaled_neg negative (absorb (Text.digitValue c) fraction).1
      (show ((absorb (Text.digitValue c) fraction).2.length : Int) - fraction.length +
        -(n : Int) < 0 by omega)
    refine ⟨.real y, ?_⟩
    rw [number_of_exponent digit small, if_pos rfl, made]
    rfl
  · refine ⟨.real (Number.Binary64.zero negative), ?_⟩
    simp only [number, absorb_digit digit, Text.ofDecimal_decimal, reduceCtorEq, false_and,
      and_false, ↓reduceIte, Nat.pow_eq, if_pos (not_lt.mp small), Bool.not_true,
      Bool.false_eq_true]

/-- The leading power of ten of a number in range. -/
theorem shortest_power_lt {x : Number.Binary64} (normal : x.Normal) (nonzero : x.significand ≠ 0)
    {k : Nat}
    (scale : (k : Int) = (Text.decimal (Number.shortest x).digits).length +
      (Number.shortest x).exponent - 1) : k < 309 := by
  have filled := List.length_pos_of_ne_nil (Text.decimal_ne_nil (Number.shortest x).digits)
  have leading : (10 ^ ((Text.decimal (Number.shortest x).digits).length - 1) : ℚ) ≤
      (Number.shortest x).digits := by
    exact_mod_cast Text.pow_length_le (Nat.pos_of_ne_zero (Number.shortest_digits nonzero))
  have value : (10 : ℚ) ^ k < 10 ^ 309 := by
    calc (10 : ℚ) ^ k = 10 ^ ((Text.decimal (Number.shortest x).digits).length - 1) *
          10 ^ (Number.shortest x).exponent := by
          rw [← zpow_natCast, ← zpow_natCast, ← zpow_add₀ (by norm_num)]
          congr 1
          omega
      _ ≤ (Number.shortest x).value :=
        mul_le_mul_of_nonneg_right leading (zpow_pos (by norm_num) _).le
      _ < 10 ^ 309 := Number.shortest_value_lt_ten normal nonzero
  exact (pow_lt_pow_iff_right₀ (by norm_num)).mp value

theorem exists_number_of_positive {x : Number.Binary64} (normal : x.Normal)
    (nonzero : x.significand ≠ 0) {c : Char} {fraction : List Char} {n : Nat}
    (digits : Text.decimal (Number.shortest x).digits = c :: fraction)
    (scale : (n : Int) = (c :: fraction).length + (Number.shortest x).exponent - 1)
    (negative : Bool) :
    ∃ value,
      (Numeral.mk negative [c] fraction (some (false, Text.decimal n))).number = .ok value := by
  have digit : Text.isDigit c = true :=
    Text.isDigit_of_mem_decimal c (digits ▸ List.mem_cons_self)
  have first := digitValue_le digit
  have small : n < 309 := shortest_power_lt normal nonzero (by rw [digits, scale])
  obtain ⟨fits, shorter, part⟩ :=
    absorb_bounds (show Text.digitValue c < 2 ^ 64 by omega) fraction
  have whole : denoted (Text.digitValue c) fraction = (Number.shortest x).digits := by
    rw [← Text.ofDecimal_decimal (Number.shortest x).digits, digits]
    simp [denoted, Text.ofDecimal]
  rw [whole] at part
  rw [List.length_cons] at scale
  suffices made : ∃ y, scaled negative (absorb (Text.digitValue c) fraction).1
      (((absorb (Text.digitValue c) fraction).2.length : Int) - fraction.length + n) = .ok y by
    obtain ⟨y, made⟩ := made
    refine ⟨.real y, ?_⟩
    rw [number_of_exponent digit (by omega), if_neg Bool.false_ne_true, made]
    rfl
  cases exponent : ((absorb (Text.digitValue c) fraction).2.length : Int) - fraction.length + n with
  | negSucc k => exact exists_scaled_neg _ _ (Int.negSucc_lt_zero k)
  | ofNat k =>
    rw [Int.ofNat_eq_natCast] at exponent
    exact exists_scaled_shortest normal nonzero fits part (by omega) (by omega) negative

/-- A number in range can be read again. -/
theorem exists_number_real {x : Number.Binary64} (normal : x.Normal) :
    ∃ value, (realNumeral x).number = .ok value := by
  have all : ∀ c ∈ Text.decimal (Number.shortest x).digits, Text.isDigit c = true :=
    Text.isDigit_of_mem_decimal
  have zero : ∀ c ∈ ['0'], Text.isDigit c = true := List.forall_mem_singleton.mpr rfl
  have filled := Text.decimal_ne_nil (Number.shortest x).digits
  unfold realNumeral
  dsimp only
  split
  · exact exists_number_of_fraction zero (by decide) zero (by decide)
  · rename_i isZero
    have nonzero : x.significand ≠ 0 := mt beq_iff_eq.mpr isZero
    split
    · rename_i whole
      refine exists_number_of_fraction (List.forall_mem_append.mpr ⟨all, isDigit_of_mem_replicate⟩)
        ?_ zero (by decide)
      rw [List.length_append, List.length_replicate]
      omega
    · rename_i fractional
      split
      · rename_i inside
        refine exists_number_of_fraction (fun c member => all c (List.mem_of_mem_take member)) ?_
          (fun c member => all c (List.mem_of_mem_drop member)) ?_
        · rw [List.length_take]
          omega
        · rw [Ne, List.drop_eq_nil_iff]
          omega
      · split
        · exact exists_number_of_fraction zero (by decide)
            (List.forall_mem_append.mpr ⟨isDigit_of_mem_replicate, all⟩)
            (List.append_ne_nil_of_right_ne_nil _ filled)
        · cases digits : Text.decimal (Number.shortest x).digits with
          | nil => exact absurd digits filled
          | cons c fraction =>
            rw [List.take_succ_cons, List.take_zero, List.drop_succ_cons, List.drop_zero]
            by_cases below :
                ((c :: fraction).length : Int) + (Number.shortest x).exponent - 1 < 0
            · rw [decide_eq_true below]
              exact exists_number_of_negative (all c (digits ▸ List.mem_cons_self)) (by omega)
            · rw [decide_eq_false below]
              exact exists_number_of_positive normal nonzero digits (by omega) x.negative

/-- An integer that fits 64 bits is read as it was. -/
theorem number_integerNumeral {value : Int} (least : -2 ^ 63 ≤ value) (most : value < 2 ^ 64) :
    (integerNumeral value).number = .ok (.integer value) := by
  have digits : denoted 0 (Text.decimal value.natAbs) = value.natAbs :=
    Text.ofDecimal_decimal value.natAbs
  have absorbed := absorb_of_fits (show denoted 0 (Text.decimal value.natAbs) < 2 ^ 64 by omega)
  simp only [number, integerNumeral, absorbed, digits, and_self, ↓reduceIte, integer, Nat.pow_eq]
  by_cases negative : value < 0
  · have magnitude : 0 < value.natAbs ∧ value.natAbs ≤ 2 ^ 63 := by omega
    have same : -(value.natAbs : Int) = value := by omega
    rw [decide_eq_true negative, if_neg (by decide), if_pos magnitude, same]
  · have same : (value.natAbs : Int) = value := by omega
    rw [decide_eq_false negative, if_pos (by decide), same]

end Numeral

/-- What has been read can be read again, an integer as it was. -/
theorem Number.exists_number {n : Json.Number} (inRange : n.InRange) :
    ∃ value, n.numeral.number = .ok value ∧ ∀ i, n = .integer i → value = .integer i := by
  cases n with
  | integer i =>
    refine ⟨.integer i, Numeral.number_integerNumeral inRange.1 inRange.2, fun j same => ?_⟩
    rw [← same]
  | real x =>
    obtain ⟨value, made⟩ := Numeral.exists_number_real inRange
    exact ⟨value, made, nofun⟩

end PresenceSeal.Json
