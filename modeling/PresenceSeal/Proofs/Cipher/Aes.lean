import Mathlib.Data.List.Nodup
import Mathlib.Data.List.Perm.Subperm
import Mathlib.Logic.Function.Basic
import PresenceSeal.Cipher.Aes

/-! Block encryption never sends two blocks to one. Each step of a round can be undone:
every byte stands at one place of the substitution, and mixing a column four times
gives the column back. -/
namespace PresenceSeal.Cipher.Aes

theorem xor_left_comm (a b c : UInt8) : a ^^^ (b ^^^ c) = b ^^^ (a ^^^ c) := by
  rw [← UInt8.xor_assoc, UInt8.xor_comm a, UInt8.xor_assoc]

theorem xor_cancel_left (a b : UInt8) : a ^^^ (a ^^^ b) = b := by
  rw [← UInt8.xor_assoc, UInt8.xor_self, UInt8.zero_xor]

/-- The set of some bytes as a number, a bit for each. -/
def present (bytes : List UInt8) : Nat := bytes.foldr (fun b seen => seen ||| 1 <<< b.toNat) 0

theorem testBit_present (bytes : List UInt8) (n : Nat) :
    (present bytes).testBit n = true ↔ n ∈ bytes.map UInt8.toNat := by
  induction bytes with
  | nil => simp [present]
  | cons b rest ih =>
    rw [present, List.foldr_cons, ← present, Nat.testBit_or, Bool.or_eq_true, ih, List.map_cons,
      List.mem_cons, or_comm, Nat.one_shiftLeft, Nat.testBit_two_pow, decide_eq_true_eq, eq_comm]

theorem substitution_nodup : (substitution.toList.map UInt8.toNat).Nodup := by
  -- Comparing the bytes pairwise takes long; that all 256 occur is one number.
  have all : present substitution.toList = 2 ^ 256 - 1 := by decide +kernel
  have covers : List.range 256 ⊆ substitution.toList.map UInt8.toNat := by
    intro n member
    rw [← testBit_present, all, Nat.testBit_two_pow_sub_one, decide_eq_true_eq]
    exact List.mem_range.mp member
  have size : (substitution.toList.map UInt8.toNat).length = (List.range 256).length := by
    decide +kernel
  have permuted := (List.nodup_range.subperm covers).perm_of_length_le (Nat.le_of_eq size)
  exact permuted.nodup_iff.mp List.nodup_range

theorem substitute_injective : Function.Injective substitute := by
  have size : substitution.size = 256 := by decide +kernel
  have read (c : UInt8) : substitution.toList[c.toNat]? = some (substitute c) := by
    have inside : c.toNat < substitution.size := size ▸ c.toNat_lt
    simp only [substitute, Array.getD, inside, ↓reduceDIte, Array.getElem?_toList,
      Array.getElem?_eq_getElem inside]
    rfl
  intro a b same
  have distinct : substitution.toList.Nodup := List.Nodup.of_map _ substitution_nodup
  have inside : a.toNat < substitution.toList.length := by
    rw [Array.length_toList, size]
    exact a.toNat_lt
  have places : substitution.toList[a.toNat]? = substitution.toList[b.toNat]? := by
    rw [read, read, same]
  exact UInt8.toNat_inj.mp ((List.getElem?_inj inside distinct).mp places)

/-- The bit that is shifted out of a sum is the sum of those shifted out of its parts. -/
theorem double_xor (a b : UInt8) : double (a ^^^ b) = double a ^^^ double b := by
  have low (c : UInt8) : c < 0x80 ↔ c.toBitVec.msb = false := by
    rw [BitVec.msb_eq_decide, UInt8.lt_iff_toBitVec_lt, BitVec.lt_def]
    simp
  simp only [double, low, UInt8.toBitVec_xor, BitVec.msb_xor, UInt8.shiftLeft_xor]
  cases a.toBitVec.msb <;> cases b.toBitVec.msb <;>
    simp [UInt8.xor_assoc, UInt8.xor_comm, xor_left_comm]

/-- Mixing is additive, so what it does twice is computed from `double` alone. -/
theorem mixColumn_mixColumn (x : Column) :
    mixColumn (mixColumn x) =
      ⟨double (double x.top) ^^^ x.top ^^^ double (double x.lower),
        double (double x.upper) ^^^ x.upper ^^^ double (double x.bottom),
        double (double x.lower) ^^^ x.lower ^^^ double (double x.top),
        double (double x.bottom) ^^^ x.bottom ^^^ double (double x.upper)⟩ := by
  simp only [mixColumn, double_xor, Column.mk.injEq]
  refine ⟨?_, ?_, ?_, ?_⟩ <;>
    simp only [UInt8.xor_assoc, UInt8.xor_comm, xor_left_comm, xor_cancel_left, UInt8.xor_self,
      UInt8.zero_xor]

theorem mixColumn_four (x : Column) :
    mixColumn (mixColumn (mixColumn (mixColumn x))) = x := by
  rw [mixColumn_mixColumn (mixColumn (mixColumn x)), mixColumn_mixColumn x]
  simp only [double_xor]
  obtain ⟨top, upper, lower, bottom⟩ := x
  simp only [Column.mk.injEq]
  refine ⟨?_, ?_, ?_, ?_⟩ <;>
    simp only [UInt8.xor_assoc, UInt8.xor_comm, xor_left_comm, xor_cancel_left, UInt8.xor_self,
      UInt8.xor_zero]

theorem mixColumn_injective : Function.Injective mixColumn :=
  Function.LeftInverse.injective (g := fun x => mixColumn (mixColumn (mixColumn x))) mixColumn_four

theorem shiftRows_injective : Function.Injective shiftRows := by
  apply Function.LeftInverse.injective (g := fun x => shiftRows (shiftRows (shiftRows x)))
  intro x
  rfl

namespace Column

theorem map_injective {f : UInt8 → UInt8} (injective : Function.Injective f) :
    Function.Injective (map f) := by
  intro x y same
  cases x
  cases y
  simp only [map, mk.injEq] at same ⊢
  obtain ⟨top, upper, lower, bottom⟩ := same
  exact ⟨injective top, injective upper, injective lower, injective bottom⟩

theorem xor_xor (x key : Column) : (x.xor key).xor key = x := by
  simp only [xor, UInt8.xor_assoc, UInt8.xor_self, UInt8.xor_zero]

end Column

namespace Block

theorem map_injective {f : Column → Column} (injective : Function.Injective f) :
    Function.Injective (map f) := by
  intro x y same
  cases x
  cases y
  simp only [map, mk.injEq] at same ⊢
  obtain ⟨first, second, third, fourth⟩ := same
  exact ⟨injective first, injective second, injective third, injective fourth⟩

theorem xor_injective (key : Block) : Function.Injective fun x : Block => x.xor key := by
  intro x y same
  have masked := congrArg (fun z : Block => z.xor key) same
  simpa only [xor, Column.xor_xor] using masked

theorem toList_injective : Function.Injective toList :=
  Function.LeftInverse.injective ofList_toList

/-- Sixteen bytes are the bytes of their block. -/
theorem toList_ofList {bytes : List UInt8} (length : bytes.length = 16) :
    (ofList bytes).toList = bytes := by
  match bytes, length with
  | [_, _, _, _, _, _, _, _, _, _, _, _, _, _, _, _], _ => rfl

end Block

theorem substituteBytes_injective : Function.Injective substituteBytes :=
  Block.map_injective (Column.map_injective substitute_injective)

/-- Whatever the round keys are, and however many. -/
theorem rounds_injective (keys : List Block) : Function.Injective (rounds keys) := by
  have step : Function.Injective fun x => shiftRows (substituteBytes x) :=
    shiftRows_injective.comp substituteBytes_injective
  induction keys with
  | nil => exact Function.injective_id
  | cons key rest ih =>
    cases rest with
    | nil => exact (Block.xor_injective key).comp step
    | cons next rest =>
      have mixed := (Block.map_injective mixColumn_injective).comp step
      exact ih.comp ((Block.xor_injective key).comp mixed)

theorem encryptWith_injective (keys : List Block) : Function.Injective (encryptWith keys) := by
  cases keys with
  | nil => exact Function.injective_id
  | cons first rest => exact (rounds_injective rest).comp (Block.xor_injective first)

end PresenceSeal.Cipher.Aes
