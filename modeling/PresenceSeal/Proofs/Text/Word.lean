import Mathlib.Data.Nat.Digits.Defs
import PresenceSeal.Proofs.Text.Numeral

/-! Words of 32 bits as text. Their bits are written in eight hexadecimal digits, and their
value as a signed decimal number; either way the word is read back from its text. -/
namespace PresenceSeal.Text

/-- The digits of base sixteen, each at the place of its value. -/
def upperDigits : List Char := "0123456789ABCDEF".toList

/-- The number that hexadecimal digits denote, the last one for the ones. -/
def ofUpperHex (digits : List Char) : Nat :=
  Nat.ofDigits 16 (digits.map upperDigits.idxOf).reverse

/-- A number, written in so many upper-case hexadecimal digits. -/
structure Hexadecimal (count : Nat) (digits : List Char) (number : Nat) : Prop where
  length : digits.length = count
  known : ∀ c ∈ digits, c ∈ upperDigits
  value : ofUpperHex digits = number

theorem getElem?_upperDigits : ∀ n < 16, upperDigits[n]? = some (upperHexDigit n) := by decide

theorem idxOf_upperHexDigit : ∀ n < 16, upperDigits.idxOf (upperHexDigit n) = n := by decide

theorem ofUpperHex_append_singleton (digits : List Char) (c : Char) :
    ofUpperHex (digits ++ [c]) = upperDigits.idxOf c + 16 * ofUpperHex digits := by
  rw [ofUpperHex, List.map_append, List.reverse_append, List.map_singleton,
    List.reverse_singleton, List.singleton_append, Nat.ofDigits_cons, ofUpperHex]

/-- Digits are written from the right, so what does not fit is lost on the left. -/
theorem hexadecimal_upperHex (count n : Nat) :
    Hexadecimal count (upperHex count n) (n % 16 ^ count) := by
  refine ⟨length_upperHex count n, ?_, ?_⟩
  · induction count generalizing n with
    | zero => exact nofun
    | succ count ih =>
      have last : upperHexDigit (n % 16) ∈ upperDigits :=
        List.mem_of_getElem? (getElem?_upperDigits (n % 16) (Nat.mod_lt n (by decide)))
      intro c member
      rcases List.mem_append.mp member with front | here
      · exact ih (n / 16) c front
      · rwa [List.mem_singleton.mp here]
  · induction count generalizing n with
    | zero => simp [upperHex, ofUpperHex, Nat.mod_one]
    | succ count ih =>
      rw [upperHex, ofUpperHex_append_singleton, ih,
        idxOf_upperHexDigit (n % 16) (Nat.mod_lt n (by decide)), Nat.pow_succ', Nat.mod_mul]

/-- The unsigned reading of a word is its value modulo the number of words. -/
theorem toNat_toUInt32 (word : Int32) : (word.toUInt32.toNat : Int) = word.toInt % 2 ^ 32 := by
  have signed : word.toInt = (word.toUInt32.toNat : Int).bmod (2 ^ 32) :=
    word.toBitVec.toInt_eq_toNat_bmod
  have small : (word.toUInt32.toNat : Int) < 2 ^ 32 := by exact_mod_cast word.toUInt32.toNat_lt
  have folded := Int.bmod_emod (x := word.toUInt32.toNat) (m := 2 ^ 32)
  rw [signed]
  exact (folded.trans (Int.emod_eq_of_lt (Int.natCast_nonneg _) small)).symm

theorem hexadecimal_word (word : Int32) :
    Hexadecimal 8 (upperHex 8 word.toUInt32.toNat) (word.toInt % 2 ^ 32).toNat := by
  have whole := hexadecimal_upperHex 8 word.toUInt32.toNat
  have small : word.toUInt32.toNat < 16 ^ 8 := word.toUInt32.toNat_lt
  rw [Nat.mod_eq_of_lt small] at whole
  rwa [← toNat_toUInt32, Int.toNat_natCast]

example : upperHex 8 (-2147024891 : Int32).toUInt32.toNat = "80070005".toList := by decide

/-- The word whose bits are written in these digits. -/
theorem Hexadecimal.word {digits : List Char} {word : Int32}
    (written : Hexadecimal 8 digits (word.toInt % 2 ^ 32).toNat) :
    Int32.ofInt (ofUpperHex digits) = word := by
  have value : (ofUpperHex digits : Int) = word.toInt % 2 ^ 32 := by
    rw [written.value]
    exact Int.toNat_of_nonneg (Int.emod_nonneg _ (by decide))
  have wraps : word.toInt.bmod (2 ^ 32) = word.toInt :=
    (Int32.ofInt_eq_iff_bmod_eq_toInt _ _).mp (Int32.ofInt_toInt word)
  rw [value, Int32.ofInt_eq_iff_bmod_eq_toInt]
  exact (Int.emod_bmod word.toInt (2 ^ 32)).trans wraps

/-- The number that a signed decimal denotes. -/
def ofSignedDecimal : List Char → Int
  | '-' :: digits => -ofDecimal digits
  | digits => ofDecimal digits

theorem ofSignedDecimal_signedDecimal (number : Int) :
    ofSignedDecimal (signedDecimal number) = number := by
  cases number with
  | ofNat n =>
    rw [signedDecimal, ofSignedDecimal.eq_2, ofDecimal_decimal]
    · rfl
    · intro digits minus
      have digit : isDigit '-' = true := isDigit_of_mem_decimal '-' (minus ▸ List.mem_cons_self)
      cases digit
  | negSucc n =>
    rw [signedDecimal, ofSignedDecimal, ofDecimal_decimal]
    rfl

theorem ofList_signedDecimal (number : Int) :
    String.ofList (signedDecimal number) = toString number := by
  cases number with
  | ofNat n => rfl
  | negSucc n =>
    have split : signedDecimal (.negSucc n) = ['-'] ++ decimal (n + 1) := rfl
    rw [split, String.ofList_append]
    rfl

theorem space_notMem_signedDecimal (number : Int) : ' ' ∉ signedDecimal number := by
  have solid (n : Nat) : ' ' ∉ decimal n := fun member => by
    cases isDigit_of_mem_decimal ' ' member
  cases number with
  | ofNat n => exact solid n
  | negSucc n => simpa [signedDecimal] using solid (n + 1)

/-- What is written behind the last space. -/
def lastWord (text : List Char) : List Char :=
  (text.reverse.takeWhile (· != ' ')).reverse

theorem lastWord_append (front : List Char) {word : List Char} (solid : ' ' ∉ word) :
    lastWord (front ++ ' ' :: word) = word := by
  have all : ∀ c ∈ word.reverse, (c != ' ') = true := fun c member =>
    bne_iff_ne.mpr fun same => solid (same ▸ List.mem_reverse.mp member)
  rw [lastWord, List.reverse_append, List.reverse_cons, List.append_assoc,
    List.takeWhile_append_of_pos all]
  simp

theorem lastWord_toString (front : String) (number : Int) :
    lastWord (front ++ " " ++ toString number).toList = signedDecimal number := by
  have spelled : (toString number).toList = signedDecimal number := by
    rw [← ofList_signedDecimal, String.toList_ofList]
  have space : " ".toList = [' '] := rfl
  rw [String.toList_append, String.toList_append, spelled, space, List.append_assoc]
  exact lastWord_append front.toList (space_notMem_signedDecimal number)

end PresenceSeal.Text
