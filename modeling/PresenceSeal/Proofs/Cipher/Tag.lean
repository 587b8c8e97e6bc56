import Mathlib.Tactic.Ring
import PresenceSeal.Proofs.Cipher.Aes
import PresenceSeal.Proofs.Cipher.Residue

/-! What a tag depends on. Under one key the nonce decides the tag's cover, and no two
nonces have the same one; a single bit of the ciphertext decides the hash, as long as
the subkey is not zero. -/
namespace PresenceSeal

/-- The bits of a number are those of its bytes, eight to a byte. -/
theorem testBit_ofLittleEndian (bytes : List UInt8) (n : Nat) :
    (ofLittleEndian bytes).testBit n = (bytes.getD (n / 8) 0).toNat.testBit (n % 8) := by
  induction bytes generalizing n with
  | nil => simp [ofLittleEndian]
  | cons b rest ih =>
    have low : b.toNat < 2 ^ 8 := b.toNat_lt
    rw [ofLittleEndian, Nat.add_comm, show 256 = 2 ^ 8 from rfl, Nat.testBit_two_pow_mul_add _ low]
    by_cases first : n < 8
    · simp [first, Nat.div_eq_of_lt first, Nat.mod_eq_of_lt first]
    · obtain ⟨m, rfl⟩ := Nat.exists_eq_add_of_le' (Nat.not_lt.mp first)
      simp [ih, Nat.add_div_right]

theorem ofLittleEndian_lt (bytes : List UInt8) :
    ofLittleEndian bytes < Nat.pow 256 bytes.length := by
  rw [← littleEndian_ofLittleEndian bytes, ofLittleEndian_littleEndian, length_littleEndian]
  exact Nat.mod_lt _ (Nat.pow_pos (by decide))

theorem getElem_groups (size : Nat) {count : Nat} (xs : List α) {i : Nat}
    (inside : i < (groups size count xs).length) :
    (groups size count xs)[i] = (xs.drop (size * i)).take size := by
  induction count generalizing xs i with
  | zero => simp [groups] at inside
  | succ count ih =>
    cases i with
    | zero => rfl
    | succ i =>
      have shorter : i < (groups size count (xs.drop size)).length := by simpa [groups] using inside
      have rest := ih (xs.drop size) shorter
      rw [List.drop_drop, Nat.add_comm, ← Nat.mul_succ] at rest
      exact rest

/-- A change at one place changes one group. -/
theorem groups_modify {size : Nat} (positive : 0 < size) (count : Nat) (xs : List α)
    (position : Nat) (f : α → α) :
    groups size count (xs.modify position f) =
      (groups size count xs).modify (position / size) (List.modify · (position % size) f) := by
  induction count generalizing xs position with
  | zero => simp [groups]
  | succ count ih =>
    rw [groups, groups, List.take_modify]
    by_cases first : position < size
    · rw [List.drop_modify_of_lt f _ _ _ first, Nat.div_eq_of_lt first, Nat.mod_eq_of_lt first]
      rfl
    · obtain ⟨later, rfl⟩ := Nat.exists_eq_add_of_le' (Nat.not_lt.mp first)
      have untouched : (xs.take size).modify (later + size) f = xs.take size := by
        apply List.modify_eq_self
        rw [List.length_take]
        omega
      rw [untouched, List.drop_modify_of_ge f _ _ _ (Nat.le_add_left _ _), ih,
        Nat.add_sub_cancel, Nat.add_div_right _ positive, Nat.add_mod_right]
      rfl

/-- The bytes with one bit of one byte flipped; bit 0 is the lowest. -/
def flipBit (position bit : Nat) (bytes : List UInt8) : List UInt8 :=
  bytes.modify position (· ^^^ 1 <<< UInt8.ofNat bit)

theorem length_flipBit (position bit : Nat) (bytes : List UInt8) :
    (flipBit position bit bytes).length = bytes.length := List.length_modify ..

theorem testBit_flipped (b : UInt8) {bit : Nat} (small : bit < 8) (n : Nat) :
    (b ^^^ 1 <<< UInt8.ofNat bit).toNat.testBit n = (b.toNat.testBit n ^^ decide (bit = n)) := by
  have power : ∀ k : Fin 8, ((1 : UInt8) <<< UInt8.ofNat k).toNat = 2 ^ k.val := by decide
  rw [UInt8.toNat_xor, power ⟨bit, small⟩, Nat.testBit_xor, Nat.testBit_two_pow]

theorem getD_flipBit {position : Nat} {bytes : List UInt8} (inside : position < bytes.length)
    (bit i : Nat) :
    (flipBit position bit bytes).getD i 0 =
      if position = i then bytes.getD i 0 ^^^ 1 <<< UInt8.ofNat bit else bytes.getD i 0 := by
  rw [flipBit, List.getD_eq_getElem?_getD, List.getElem?_modify, List.getD_eq_getElem?_getD]
  by_cases here : position = i
  · subst here
    simp [inside]
  · cases bytes[i]? <;> simp [here]

theorem flipBit_ne {position bit : Nat} {bytes : List UInt8} (inside : position < bytes.length)
    (small : bit < 8) : flipBit position bit bytes ≠ bytes := by
  intro same
  have read := getD_flipBit inside bit position
  have flipped := testBit_flipped (bytes.getD position 0) small bit
  rw [if_pos rfl, same] at read
  rw [← read] at flipped
  simp at flipped

namespace Cipher.Gcm

theorem getMsbD_elementOfBytes {bytes : List UInt8} (short : bytes.length ≤ 16) {n : Nat}
    (inside : n < 128) :
    (elementOfBytes bytes).getMsbD n = (bytes.getD (n / 8) 0).toNat.testBit (7 - n % 8) := by
  let padded := bytes ++ List.replicate (16 - bytes.length) 0
  have length : padded.length = 16 := by
    simp only [padded, List.length_append, List.length_replicate]
    omega
  have place : padded.reverse.getD ((127 - n) / 8) 0 = bytes.getD (n / 8) 0 := by
    have mirrored : padded.length - 1 - (127 - n) / 8 = n / 8 := by omega
    rw [List.getD_eq_getElem?_getD, List.getElem?_reverse (by omega), mirrored,
      List.getElem?_append, List.getElem?_replicate, List.getD_eq_getElem?_getD]
    split
    · rfl
    · rename_i outside
      rw [List.getElem?_eq_none (Nat.not_lt.mp outside)]
      split <;> rfl
  have offset : (127 - n) % 8 = 7 - n % 8 := by omega
  rw [BitVec.getMsbD, decide_eq_true inside, Bool.true_and, elementOfBytes, BitVec.getLsbD_ofNat,
    ofBigEndian, testBit_ofLittleEndian]
  simp only [show 128 - 1 - n = 127 - n by omega]
  rw [decide_eq_true (by omega : 127 - n < 128), Bool.true_and, offset]
  exact congrArg (fun b : UInt8 => b.toNat.testBit (7 - n % 8)) place

/-- Flipping a bit adds one power of two. -/
theorem elementOfBytes_flipBit {bytes : List UInt8} (short : bytes.length ≤ 16)
    {position bit : Nat} (inside : position < bytes.length) (small : bit < 8) :
    elementOfBytes bytes ^^^ elementOfBytes (flipBit position bit bytes) =
      BitVec.twoPow 128 (8 * (15 - position) + bit) := by
  have shortFlipped : (flipBit position bit bytes).length ≤ 16 := by
    rw [length_flipBit]
    exact short
  apply BitVec.eq_of_getMsbD_eq
  intro n bound
  rw [BitVec.getMsbD_xor, getMsbD_elementOfBytes short bound,
    getMsbD_elementOfBytes shortFlipped bound, getD_flipBit inside, BitVec.getMsbD_twoPow]
  by_cases here : position = n / 8
  · rw [if_pos here, testBit_flipped _ small]
    have same : decide (bit = 7 - n % 8) =
        (decide (8 * (15 - position) + bit < 128) &&
          decide (n = 128 - (8 * (15 - position) + bit) - 1)) := by
      rw [← Bool.decide_and, decide_eq_decide]
      omega
    rw [← same]
    cases (bytes.getD (n / 8) 0).toNat.testBit (7 - n % 8) <;> simp
  · have other : n ≠ 128 - (8 * (15 - position) + bit) - 1 := by omega
    rw [if_neg here, decide_eq_false other, Bool.and_false]
    exact Bool.xor_self _

/-- A flipped bit is a unit's difference in the block that holds it, and none elsewhere. -/
theorem elements_flipBit {data : List UInt8} {position bit : Nat} (inside : position < data.length)
    (small : bit < 8) :
    ∃ front a b back, elements data = front ++ a :: back ∧
      elements (flipBit position bit data) = front ++ b :: back ∧ IsUnit (residue (a ^^^ b)) := by
  let blocks := groups 16 (blockCount data) data
  have place : position / 16 < blocks.length := by
    rw [length_groups, blockCount]
    omega
  have block : blocks[position / 16] = (data.drop (16 * (position / 16))).take 16 :=
    getElem_groups 16 data place
  have short : blocks[position / 16].length ≤ 16 := by
    rw [block, List.length_take]
    exact Nat.min_le_left _ _
  have within : position % 16 < blocks[position / 16].length := by
    rw [block, List.length_take, List.length_drop]
    omega
  refine ⟨(blocks.take (position / 16)).map elementOfBytes, elementOfBytes blocks[position / 16],
    elementOfBytes (flipBit (position % 16) bit blocks[position / 16]),
    (blocks.drop (position / 16 + 1)).map elementOfBytes, ?_, ?_, ?_⟩
  · have split := List.take_append_drop (position / 16) blocks
    rw [← List.getElem_cons_drop place] at split
    rw [← List.map_cons, ← List.map_append, split]
    rfl
  · have count : blockCount (flipBit position bit data) = blockCount data := by
      rw [blockCount, blockCount, length_flipBit]
    rw [elements, count, flipBit, groups_modify (by decide), List.modify_eq_take_cons_drop place,
      List.map_append, List.map_cons]
    rfl
  · rw [elementOfBytes_flipBit short within small, residue_twoPow (by omega)]
    exact isUnit_root.pow _

theorem elementOfBytes_injective {a b : List UInt8} (lengthA : a.length = 16)
    (lengthB : b.length = 16) (same : elementOfBytes a = elementOfBytes b) : a = b := by
  have whole {bytes : List UInt8} (length : bytes.length = 16) :
      (elementOfBytes bytes).toNat = ofBigEndian bytes := by
    have bound := ofLittleEndian_lt bytes.reverse
    rw [List.length_reverse, length] at bound
    rw [elementOfBytes, length, Nat.sub_self, List.replicate_zero, List.append_nil,
      BitVec.toNat_ofNat]
    exact Nat.mod_eq_of_lt bound
  have numbers := congrArg BitVec.toNat same
  rw [whole lengthA, whole lengthB] at numbers
  rw [← bigEndian_ofBigEndian a, ← bigEndian_ofBigEndian b, lengthA, lengthB, numbers]

/-- The block that covers the hash of a nonce's tag. -/
def cover (keys : List Aes.Block) (nonce : Bytes 12) : Element :=
  elementOfBytes (Aes.encryptWith keys (counterBlock nonce 1)).toList

theorem tag_eq_iff {keys : List Aes.Block} {nonce other : Bytes 12}
    {ciphertext altered : List UInt8} :
    tag keys nonce ciphertext = tag keys other altered ↔
      ghash (subkey keys) (elements ciphertext ++ [lengthElement ciphertext]) ^^^ cover keys nonce =
        ghash (subkey keys) (elements altered ++ [lengthElement altered]) ^^^ cover keys other := by
  constructor
  · intro same
    have numbers := congrArg ofBigEndian (congrArg Subtype.val same)
    simp only [tag, ofBigEndian_bigEndian] at numbers
    apply BitVec.eq_of_toNat_eq
    have bound (v : Element) : v.toNat % Nat.pow 256 16 = v.toNat := Nat.mod_eq_of_lt v.isLt
    rw [bound, bound] at numbers
    exact numbers
  · intro same
    apply Subtype.ext
    exact congrArg (fun v : Element => bigEndian 16 v.toNat) same

theorem tag_flipBit_ne {keys : List Aes.Block} (nonzero : subkey keys ≠ 0) (nonce : Bytes 12)
    {ciphertext : List UInt8} {position bit : Nat} (inside : position < ciphertext.length)
    (small : bit < 8) :
    tag keys nonce (flipBit position bit ciphertext) ≠ tag keys nonce ciphertext := by
  obtain ⟨front, a, b, back, blocks, flipped, unit⟩ := elements_flipBit inside small
  have length : lengthElement (flipBit position bit ciphertext) = lengthElement ciphertext := by
    rw [lengthElement, lengthElement, length_flipBit]
  intro same
  have hashes := (BitVec.xor_left_inj _).mp (tag_eq_iff.mp same)
  rw [blocks, flipped, length, List.append_assoc, List.append_assoc] at hashes
  exact ghash_ne nonzero unit front (back ++ [lengthElement ciphertext]) hashes.symm

theorem cover_injective (keys : List Aes.Block) : Function.Injective (cover keys) := by
  intro nonce other same
  have bytes :=
    elementOfBytes_injective (Aes.Block.length_toList _) (Aes.Block.length_toList _) same
  have blocks := Aes.encryptWith_injective keys (Aes.Block.toList_injective bytes)
  have counted (n : Bytes 12) : (counterBlock n 1).toList = n.val ++ bigEndian 4 1 := by
    apply Aes.Block.toList_ofList
    rw [List.length_append, n.property, length_bigEndian]
  have lists := congrArg Aes.Block.toList blocks
  rw [counted, counted] at lists
  exact Subtype.ext (List.append_cancel_right lists)

theorem tag_injective_nonce (keys : List Aes.Block) (ciphertext : List UInt8) :
    Function.Injective fun nonce => tag keys nonce ciphertext := by
  intro nonce other same
  have covers := (BitVec.xor_right_inj _).mp (tag_eq_iff.mp same)
  exact cover_injective keys covers

end Cipher.Gcm

end PresenceSeal
