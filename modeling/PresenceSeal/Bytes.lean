/-! Byte strings of a fixed length, and words written into bytes. Lengths that
a format fixes (nonces, tags, keys, seeds) are carried by the type, so that
splitting and joining never needs a length check of its own. -/
namespace PresenceSeal

abbrev Bytes (n : Nat) := { bytes : List UInt8 // bytes.length = n }

namespace Bytes

def zero (n : Nat) : Bytes n := ⟨List.replicate n 0, List.length_replicate⟩

/-- The byte string, if it has the length asked for. -/
def ofList? (n : Nat) (bytes : List UInt8) : Option (Bytes n) :=
  if h : bytes.length = n then some ⟨bytes, h⟩ else none

theorem ofList?_eq_some_iff {n : Nat} {bytes : List UInt8} {b : Bytes n} :
    ofList? n bytes = some b ↔ bytes = b.val := by
  unfold ofList?
  split
  · simp [Subtype.ext_iff]
  · rename_i short
    simp only [reduceCtorEq, false_iff]
    rintro rfl
    exact short b.property

end Bytes

/-- The low `count` bytes of a number, least significant first. -/
def littleEndian : (count : Nat) → Nat → List UInt8
  | 0, _ => []
  | count + 1, value => UInt8.ofNat value :: littleEndian count (value / 256)

def bigEndian (count value : Nat) : List UInt8 := (littleEndian count value).reverse

def ofLittleEndian : List UInt8 → Nat
  | [] => 0
  | b :: rest => b.toNat + 256 * ofLittleEndian rest

def ofBigEndian (bytes : List UInt8) : Nat := ofLittleEndian bytes.reverse

@[simp] theorem length_littleEndian (count value : Nat) :
    (littleEndian count value).length = count := by
  induction count generalizing value with
  | zero => rfl
  | succ count ih => simp [littleEndian, ih]

@[simp] theorem length_bigEndian (count value : Nat) :
    (bigEndian count value).length = count := by
  simp [bigEndian]

theorem ofLittleEndian_littleEndian (count value : Nat) :
    ofLittleEndian (littleEndian count value) = value % Nat.pow 256 count := by
  induction count generalizing value with
  | zero => simp [littleEndian, ofLittleEndian, Nat.mod_one]
  | succ count ih =>
    have power : Nat.pow 256 (count + 1) = 256 * Nat.pow 256 count := Nat.mul_comm ..
    rw [littleEndian, ofLittleEndian, ih, UInt8.toNat_ofNat', power, Nat.mod_mul]

theorem littleEndian_ofLittleEndian (bytes : List UInt8) :
    littleEndian bytes.length (ofLittleEndian bytes) = bytes := by
  induction bytes with
  | nil => rfl
  | cons b rest ih =>
    have bound := b.toNat_lt
    have low : UInt8.ofNat (b.toNat + 256 * ofLittleEndian rest) = b := by
      apply UInt8.toNat_inj.mp
      rw [UInt8.toNat_ofNat']
      omega
    have high : (b.toNat + 256 * ofLittleEndian rest) / 256 = ofLittleEndian rest := by omega
    simp only [List.length_cons, littleEndian, ofLittleEndian, low, high, ih]

theorem ofBigEndian_bigEndian (count value : Nat) :
    ofBigEndian (bigEndian count value) = value % Nat.pow 256 count := by
  rw [ofBigEndian, bigEndian, List.reverse_reverse, ofLittleEndian_littleEndian]

theorem bigEndian_ofBigEndian (bytes : List UInt8) :
    bigEndian bytes.length (ofBigEndian bytes) = bytes := by
  rw [ofBigEndian, bigEndian, ← List.length_reverse, littleEndian_ofLittleEndian,
    List.reverse_reverse]

/-- Bytewise exclusive or, as long as the shorter operand. -/
def xorBytes (a b : List UInt8) : List UInt8 := List.zipWith (· ^^^ ·) a b

@[simp] theorem length_xorBytes (a b : List UInt8) :
    (xorBytes a b).length = min a.length b.length := by
  simp [xorBytes]

/-- Masking twice with bytes that reach far enough gives the data back. -/
theorem xorBytes_xorBytes {data mask : List UInt8} (reach : data.length ≤ mask.length) :
    xorBytes (xorBytes data mask) mask = data := by
  induction data generalizing mask with
  | nil => rfl
  | cons d rest ih =>
    cases mask with
    | nil => simp at reach
    | cons m mask =>
      have shorter : rest.length ≤ mask.length := by simpa using reach
      have tail := ih shorter
      simp only [xorBytes, List.zipWith_cons_cons] at tail ⊢
      rw [tail, UInt8.xor_assoc, UInt8.xor_self, UInt8.xor_zero]

/-- The first `count` groups of `size` elements. -/
def groups (size : Nat) : (count : Nat) → List α → List (List α)
  | 0, _ => []
  | count + 1, xs => xs.take size :: groups size count (xs.drop size)

@[simp] theorem length_groups (size count : Nat) (xs : List α) :
    (groups size count xs).length = count := by
  induction count generalizing xs with
  | zero => rfl
  | succ count ih => simp [groups, ih]

end PresenceSeal
