import PresenceSeal.Hash.Sha2

/-! Ed25519 signatures. Signing is a function of the seed and the message alone:
the same key pair and challenge always yield the same signature, and with it the
same session key. -/
namespace PresenceSeal.Signature.Ed25519

def prime : Nat := Nat.pow 2 255 - 19

def order : Nat := Nat.pow 2 252 + 27742317777372353535851937790883648493

def sub (a b : Nat) : Nat := (a + (prime - b % prime)) % prime

def mul (a b : Nat) : Nat := a * b % prime

/-- A power in the coordinate field, for exponents of at most `bits` bits. -/
def power (base : Nat) : (bits : Nat) → (exponent : Nat) → Nat
  | 0, _ => 1
  | bits + 1, exponent =>
    let half := power base bits (exponent / 2)
    let square := mul half half
    if exponent % 2 = 1 then mul square base else square

def inverse (a : Nat) : Nat := power a 255 (prime - 2)

/-- A point of the curve: `x = X / Z`, `y = Y / Z` and `x * y = T / Z`. -/
structure Point where
  x : Nat
  y : Nat
  z : Nat
  t : Nat
  deriving DecidableEq, Repr

namespace Point

/-- The curve's constant `-121665 / 121666`. -/
def curveConstant : Nat :=
  37095705934669439343138083508754565189542113879843219016388785533085940283555

def zero : Point := ⟨0, 1, 1, 0⟩

def base : Point where
  x := 15112221349535400772501151409588531511454012693041857206046113283949847762202
  y := 46316835694926478169428394003475163141307993866256225615783033603165251855960
  z := 1
  t := mul 15112221349535400772501151409588531511454012693041857206046113283949847762202
    46316835694926478169428394003475163141307993866256225615783033603165251855960

def add (p q : Point) : Point :=
  let a := mul (sub p.y p.x) (sub q.y q.x)
  let b := mul (p.y + p.x) (q.y + q.x)
  let c := mul (mul p.t (2 * curveConstant)) q.t
  let d := mul p.z (2 * q.z)
  let e := sub b a
  let f := sub d c
  let g := d + c
  let h := b + a
  ⟨mul e f, mul g h, mul f g, mul e h⟩

/-- A multiple, for factors of at most `bits` bits. -/
def scale (p : Point) : (bits : Nat) → (factor : Nat) → Point
  | 0, _ => zero
  | bits + 1, factor =>
    let half := scale p bits (factor / 2)
    let twice := half.add half
    if factor % 2 = 1 then twice.add p else twice

/-- The point in 32 bytes: `y`, and the parity of `x` in the top bit. -/
def encode (p : Point) : List UInt8 :=
  let inverseZ := inverse p.z
  let x := mul p.x inverseZ
  let y := mul p.y inverseZ
  littleEndian 32 (y + x % 2 * Nat.pow 2 255)

@[simp] theorem length_encode (p : Point) : p.encode.length = 32 := length_littleEndian _ _

end Point

/-- A key pair is determined by its seed. -/
structure KeyPair where
  seed : Bytes 32
  deriving DecidableEq

namespace KeyPair

/-- The secret factor: the lower half of the seed's digest, with the top bits fixed
and the low three bits cleared. -/
def factor (pair : KeyPair) : Nat :=
  let n := ofLittleEndian ((Hash.sha512 pair.seed.val).val.take 32)
  Nat.pow 2 254 + n % Nat.pow 2 254 / 8 * 8

/-- The upper half of the seed's digest, which makes the signature's own factor secret. -/
def blind (pair : KeyPair) : List UInt8 := (Hash.sha512 pair.seed.val).val.drop 32

def publicKey (pair : KeyPair) : List UInt8 := (Point.base.scale 255 pair.factor).encode

/-- A digest of the parts as a factor of the base point. -/
def reduced (parts : List UInt8) : Nat := ofLittleEndian (Hash.sha512 parts).val % order

def sign (pair : KeyPair) (message : List UInt8) : Bytes 64 :=
  let r := reduced (pair.blind ++ message)
  let commitment := (Point.base.scale 255 r).encode
  let k := reduced (commitment ++ pair.publicKey ++ message)
  let s := (r + k * pair.factor) % order
  ⟨commitment ++ littleEndian 32 s, by
    simp only [List.length_append, length_littleEndian]
    rw [show commitment.length = 32 from Point.length_encode _]⟩

end KeyPair

end PresenceSeal.Signature.Ed25519
