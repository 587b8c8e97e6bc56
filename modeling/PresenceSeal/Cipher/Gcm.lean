import PresenceSeal.Cipher.Aes

/-! Galois/counter mode over AES with a nonce of 96 bits, a tag of 128 bits and no
additional data. The keystream is the encryption of successive counter blocks; the
tag is a polynomial of the ciphertext blocks evaluated at the hash subkey, masked
by one more encrypted counter block. -/
namespace PresenceSeal.Cipher.Gcm

/-- An element of the field of `2 ^ 128` elements: the coefficients of a polynomial,
from the most significant bit on in ascending order. -/
abbrev Element := BitVec 128

/-- What a coefficient shifted past the end stands for: `1 + x + x^2 + x^7`. -/
def reduction : Element := 0xE1 <<< 120

def timesX (v : Element) : Element :=
  if v.getLsbD 0 then (v >>> 1) ^^^ reduction else v >>> 1

/-- The sum of the multiples `v`, `x * v`, … that the first `count` coefficients from
`index` on select. -/
def select (a : Element) : (count : Nat) → (index : Nat) → Element → Element
  | 0, _, _ => 0
  | count + 1, index, v =>
    (if a.getMsbD index then v else 0) ^^^ select a count (index + 1) (timesX v)

def mul (a b : Element) : Element := select a 128 0 b

/-- The element of up to sixteen bytes, zeros behind them. -/
def elementOfBytes (bytes : List UInt8) : Element :=
  BitVec.ofNat 128 (ofBigEndian (bytes ++ List.replicate (16 - bytes.length) 0))

/-- The groups of sixteen that data fills, the last one perhaps in part. -/
def blockCount (data : List UInt8) : Nat := (data.length + 15) / 16

def elements (data : List UInt8) : List Element :=
  (groups 16 (blockCount data) data).map elementOfBytes

/-- The element that holds the bit lengths of the additional data and of the data. -/
def lengthElement (data : List UInt8) : Element := BitVec.ofNat 128 (8 * data.length % Nat.pow 2 64)

/-- The polynomial with these coefficients at the subkey, by Horner's rule. -/
def ghash (subkey : Element) (blocks : List Element) : Element :=
  blocks.foldl (fun sum block => mul (sum ^^^ block) subkey) 0

/-- The counter block of a nonce and a counter, which counts modulo `2 ^ 32`. -/
def counterBlock (nonce : Bytes 12) (counter : Nat) : Aes.Block :=
  .ofList (nonce.val ++ bigEndian 4 counter)

/-- The encrypted counter blocks from the second counter on. -/
def keystream (keys : List Aes.Block) (nonce : Bytes 12) (count : Nat) : List UInt8 :=
  (List.range count).flatMap fun i => (Aes.encryptWith keys (counterBlock nonce (i + 2))).toList

/-- The data under the keystream; the same operation takes it off again. -/
def mask (keys : List Aes.Block) (nonce : Bytes 12) (data : List UInt8) : List UInt8 :=
  xorBytes data (keystream keys nonce (blockCount data))

def subkey (keys : List Aes.Block) : Element :=
  elementOfBytes (Aes.encryptWith keys (.ofList [])).toList

def tag (keys : List Aes.Block) (nonce : Bytes 12) (ciphertext : List UInt8) : Bytes 16 :=
  let hash := ghash (subkey keys) (elements ciphertext ++ [lengthElement ciphertext])
  let cover := elementOfBytes (Aes.encryptWith keys (counterBlock nonce 1)).toList
  ⟨bigEndian 16 (hash ^^^ cover).toNat, length_bigEndian _ _⟩

/-- The length of the longest data: sixteen bytes for each counter but two. -/
def maxLength : Nat := 16 * (Nat.pow 2 32 - 2)

/-- Data that is short enough for the counter: it has 32 bits, and of its values the first is
not used and the second covers the tag. -/
def Fits (data : List UInt8) : Prop := data.length ≤ maxLength

instance (data : List UInt8) : Decidable (Fits data) := inferInstanceAs (Decidable (_ ≤ _))

/-- The ciphertext and the tag of a plaintext, if it is short enough. -/
def encrypt? (key : Bytes 32) (nonce : Bytes 12) (plaintext : List UInt8) :
    Option (List UInt8 × Bytes 16) :=
  if Fits plaintext then
    let keys := Aes.roundKeys key
    let ciphertext := mask keys nonce plaintext
    some (ciphertext, tag keys nonce ciphertext)
  else none

/-- The plaintext of a ciphertext that is short enough, if its tag is the given one. -/
def decrypt? (key : Bytes 32) (nonce : Bytes 12) (ciphertext : List UInt8) (given : Bytes 16) :
    Option (List UInt8) :=
  let keys := Aes.roundKeys key
  if Fits ciphertext ∧ tag keys nonce ciphertext = given then some (mask keys nonce ciphertext)
  else none

theorem length_keystream (keys : List Aes.Block) (nonce : Bytes 12) (count : Nat) :
    (keystream keys nonce count).length = 16 * count := by
  induction count with
  | zero => rfl
  | succ count ih =>
    rw [keystream] at ih
    simp only [keystream, List.range_succ, List.flatMap_append, List.length_append, ih,
      List.flatMap_cons, List.flatMap_nil, List.append_nil, Aes.Block.length_toList]
    omega

@[simp] theorem length_mask (keys : List Aes.Block) (nonce : Bytes 12) (data : List UInt8) :
    (mask keys nonce data).length = data.length := by
  simp only [mask, length_xorBytes, length_keystream, blockCount]
  omega

/-- The keystream depends on the length alone, so masking twice changes nothing. -/
theorem mask_mask (keys : List Aes.Block) (nonce : Bytes 12) (data : List UInt8) :
    mask keys nonce (mask keys nonce data) = data := by
  have count : blockCount (mask keys nonce data) = blockCount data := by
    simp only [blockCount, length_mask]
  have reach : data.length ≤ (keystream keys nonce (blockCount data)).length := by
    rw [length_keystream, blockCount]
    omega
  rw [mask, count, mask]
  exact xorBytes_xorBytes reach

theorem fits_iff {data : List UInt8} : Fits data ↔ data.length ≤ Nat.pow 2 36 - 32 := Iff.rfl

theorem fits_mask {keys : List Aes.Block} {nonce : Bytes 12} {data : List UInt8} :
    Fits (mask keys nonce data) ↔ Fits data := by
  simp only [Fits, length_mask]

/-- What decrypts is what encryption makes of the plaintext, and it is all that decrypts. -/
theorem decrypt?_eq_some_iff {key : Bytes 32} {nonce : Bytes 12}
    {ciphertext plaintext : List UInt8} {given : Bytes 16} :
    decrypt? key nonce ciphertext given = some plaintext ↔
      encrypt? key nonce plaintext = some (ciphertext, given) := by
  simp only [decrypt?, encrypt?, Option.ite_none_right_eq_some, Option.some.injEq, Prod.mk.injEq]
  constructor
  · rintro ⟨⟨fits, same⟩, rfl⟩
    rw [mask_mask]
    exact ⟨fits_mask.mpr fits, rfl, same⟩
  · rintro ⟨fits, rfl, same⟩
    exact ⟨⟨fits_mask.mpr fits, same⟩, mask_mask ..⟩

end PresenceSeal.Cipher.Gcm
