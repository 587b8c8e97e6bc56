import PresenceSeal.Bytes

/-! AES with a key of 256 bits, in the direction that counter mode needs. A block
is four columns of four bytes; every step of a round is a bijection on blocks, so
two different blocks are never encrypted to the same one. -/
namespace PresenceSeal.Cipher.Aes

structure Column where
  top : UInt8
  upper : UInt8
  lower : UInt8
  bottom : UInt8
  deriving DecidableEq, Repr

structure Block where
  first : Column
  second : Column
  third : Column
  fourth : Column
  deriving DecidableEq, Repr

namespace Column

def xor (x y : Column) : Column :=
  ⟨x.top ^^^ y.top, x.upper ^^^ y.upper, x.lower ^^^ y.lower, x.bottom ^^^ y.bottom⟩

def map (f : UInt8 → UInt8) (x : Column) : Column := ⟨f x.top, f x.upper, f x.lower, f x.bottom⟩

/-- The bytes moved up by one, the top one to the bottom. -/
def rotate (x : Column) : Column := ⟨x.upper, x.lower, x.bottom, x.top⟩

def toList (x : Column) : List UInt8 := [x.top, x.upper, x.lower, x.bottom]

end Column

namespace Block

def xor (x y : Block) : Block :=
  ⟨x.first.xor y.first, x.second.xor y.second, x.third.xor y.third, x.fourth.xor y.fourth⟩

def map (f : Column → Column) (x : Block) : Block :=
  ⟨f x.first, f x.second, f x.third, f x.fourth⟩

def toList (x : Block) : List UInt8 :=
  x.first.toList ++ x.second.toList ++ x.third.toList ++ x.fourth.toList

/-- The block of sixteen bytes; missing ones count as zero. -/
def ofList (bytes : List UInt8) : Block :=
  let column (i : Nat) : Column :=
    ⟨bytes.getD i 0, bytes.getD (i + 1) 0, bytes.getD (i + 2) 0, bytes.getD (i + 3) 0⟩
  ⟨column 0, column 4, column 8, column 12⟩

@[simp] theorem length_toList (x : Block) : x.toList.length = 16 := rfl

theorem ofList_toList (x : Block) : ofList x.toList = x := rfl

end Block

/-- The substitution of bytes: the inverse in the field of 256 elements, then an affine map. -/
def substitution : Array UInt8 := #[
  0x63, 0x7C, 0x77, 0x7B, 0xF2, 0x6B, 0x6F, 0xC5, 0x30, 0x01, 0x67, 0x2B,
  0xFE, 0xD7, 0xAB, 0x76, 0xCA, 0x82, 0xC9, 0x7D, 0xFA, 0x59, 0x47, 0xF0,
  0xAD, 0xD4, 0xA2, 0xAF, 0x9C, 0xA4, 0x72, 0xC0, 0xB7, 0xFD, 0x93, 0x26,
  0x36, 0x3F, 0xF7, 0xCC, 0x34, 0xA5, 0xE5, 0xF1, 0x71, 0xD8, 0x31, 0x15,
  0x04, 0xC7, 0x23, 0xC3, 0x18, 0x96, 0x05, 0x9A, 0x07, 0x12, 0x80, 0xE2,
  0xEB, 0x27, 0xB2, 0x75, 0x09, 0x83, 0x2C, 0x1A, 0x1B, 0x6E, 0x5A, 0xA0,
  0x52, 0x3B, 0xD6, 0xB3, 0x29, 0xE3, 0x2F, 0x84, 0x53, 0xD1, 0x00, 0xED,
  0x20, 0xFC, 0xB1, 0x5B, 0x6A, 0xCB, 0xBE, 0x39, 0x4A, 0x4C, 0x58, 0xCF,
  0xD0, 0xEF, 0xAA, 0xFB, 0x43, 0x4D, 0x33, 0x85, 0x45, 0xF9, 0x02, 0x7F,
  0x50, 0x3C, 0x9F, 0xA8, 0x51, 0xA3, 0x40, 0x8F, 0x92, 0x9D, 0x38, 0xF5,
  0xBC, 0xB6, 0xDA, 0x21, 0x10, 0xFF, 0xF3, 0xD2, 0xCD, 0x0C, 0x13, 0xEC,
  0x5F, 0x97, 0x44, 0x17, 0xC4, 0xA7, 0x7E, 0x3D, 0x64, 0x5D, 0x19, 0x73,
  0x60, 0x81, 0x4F, 0xDC, 0x22, 0x2A, 0x90, 0x88, 0x46, 0xEE, 0xB8, 0x14,
  0xDE, 0x5E, 0x0B, 0xDB, 0xE0, 0x32, 0x3A, 0x0A, 0x49, 0x06, 0x24, 0x5C,
  0xC2, 0xD3, 0xAC, 0x62, 0x91, 0x95, 0xE4, 0x79, 0xE7, 0xC8, 0x37, 0x6D,
  0x8D, 0xD5, 0x4E, 0xA9, 0x6C, 0x56, 0xF4, 0xEA, 0x65, 0x7A, 0xAE, 0x08,
  0xBA, 0x78, 0x25, 0x2E, 0x1C, 0xA6, 0xB4, 0xC6, 0xE8, 0xDD, 0x74, 0x1F,
  0x4B, 0xBD, 0x8B, 0x8A, 0x70, 0x3E, 0xB5, 0x66, 0x48, 0x03, 0xF6, 0x0E,
  0x61, 0x35, 0x57, 0xB9, 0x86, 0xC1, 0x1D, 0x9E, 0xE1, 0xF8, 0x98, 0x11,
  0x69, 0xD9, 0x8E, 0x94, 0x9B, 0x1E, 0x87, 0xE9, 0xCE, 0x55, 0x28, 0xDF,
  0x8C, 0xA1, 0x89, 0x0D, 0xBF, 0xE6, 0x42, 0x68, 0x41, 0x99, 0x2D, 0x0F,
  0xB0, 0x54, 0xBB, 0x16]

def substitute (b : UInt8) : UInt8 := substitution.getD b.toNat 0

def substituteBytes (x : Block) : Block := x.map (·.map substitute)

/-- The rows moved left by their number, from the top row on. -/
def shiftRows (x : Block) : Block :=
  ⟨⟨x.first.top, x.second.upper, x.third.lower, x.fourth.bottom⟩,
    ⟨x.second.top, x.third.upper, x.fourth.lower, x.first.bottom⟩,
    ⟨x.third.top, x.fourth.upper, x.first.lower, x.second.bottom⟩,
    ⟨x.fourth.top, x.first.upper, x.second.lower, x.third.bottom⟩⟩

def double (b : UInt8) : UInt8 := (b <<< 1) ^^^ (if b < 0x80 then 0 else 0x1B)

/-- A column times the circulant matrix of 2, 3, 1, 1. -/
def mixColumn (x : Column) : Column :=
  let triple (b : UInt8) := double b ^^^ b
  ⟨double x.top ^^^ triple x.upper ^^^ x.lower ^^^ x.bottom,
    x.top ^^^ double x.upper ^^^ triple x.lower ^^^ x.bottom,
    x.top ^^^ x.upper ^^^ double x.lower ^^^ triple x.bottom,
    triple x.top ^^^ x.upper ^^^ x.lower ^^^ double x.bottom⟩

/-- The next two round keys, from the two before them and the round constant. -/
def nextKeys (a b : Block) (constant : UInt8) : Block × Block :=
  let turned := (b.fourth.rotate.map substitute).xor ⟨constant, 0, 0, 0⟩
  let first := a.first.xor turned
  let second := a.second.xor first
  let third := a.third.xor second
  let fourth := a.fourth.xor third
  let fifth := b.first.xor (fourth.map substitute)
  let sixth := b.second.xor fifth
  let seventh := b.third.xor sixth
  (⟨first, second, third, fourth⟩, ⟨fifth, sixth, seventh, b.fourth.xor seventh⟩)

/-- The round keys from two on, one pair for each constant. -/
def expand (a b : Block) : List UInt8 → List Block
  | [] => [a, b]
  | constant :: rest =>
    let (c, d) := nextKeys a b constant
    a :: b :: expand c d rest

/-- The constants of the key expansion: the powers of two in the field. -/
def constants : List UInt8 := [0x01, 0x02, 0x04, 0x08, 0x10, 0x20, 0x40]

def roundKeys (key : Bytes 32) : List Block :=
  (expand (.ofList (key.val.take 16)) (.ofList (key.val.drop 16)) constants).take 15

/-- The rounds with these keys; the last one does not mix columns. -/
def rounds : List Block → Block → Block
  | [], x => x
  | [last], x => (shiftRows (substituteBytes x)).xor last
  | key :: rest, x => rounds rest (((shiftRows (substituteBytes x)).map mixColumn).xor key)

/-- A block encrypted under round keys, of which the first is added before the rounds. -/
def encryptWith : List Block → Block → Block
  | [], x => x
  | first :: rest, x => rounds rest (x.xor first)

def encrypt (key : Bytes 32) (x : Block) : Block := encryptWith (roundKeys key) x

end PresenceSeal.Cipher.Aes
