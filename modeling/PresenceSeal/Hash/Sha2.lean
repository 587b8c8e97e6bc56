import PresenceSeal.Bytes

/-! The SHA-2 family over words of either width. A message is padded to whole
blocks, and each block's sixteen words are a window that slides along the message
schedule while the rounds consume it. Session keys come from SHA-256; SHA-512 is
the hash inside the credentials' signatures. -/
namespace PresenceSeal.Hash

/-- The eight chaining words. -/
structure State (ω : Type) where
  a : ω
  b : ω
  c : ω
  d : ω
  e : ω
  f : ω
  g : ω
  h : ω
  deriving DecidableEq, Repr

/-- What distinguishes the members of the family. -/
structure Variant (ω : Type) where
  wordBytes : Nat
  ofNat : Nat → ω
  toNat : ω → Nat
  rotate : ω → Nat → ω
  shift : ω → Nat → ω
  /-- Rotations of the two sums over a chaining word. -/
  sum0 : Nat × Nat × Nat
  sum1 : Nat × Nat × Nat
  /-- Two rotations and a shift for the two sums over a schedule word. -/
  schedule0 : Nat × Nat × Nat
  schedule1 : Nat × Nat × Nat
  constants : List ω
  initial : State ω

def Variant.output (v : Variant ω) (s : State ω) : List UInt8 :=
  [s.a, s.b, s.c, s.d, s.e, s.f, s.g, s.h].flatMap fun word =>
    bigEndian v.wordBytes (v.toNat word)

theorem Variant.length_output (v : Variant ω) (s : State ω) :
    (v.output s).length = 8 * v.wordBytes := by
  simp only [output, List.flatMap_cons, List.flatMap_nil, List.length_append, length_bigEndian,
    List.length_nil]
  omega

section

variable {ω : Type} [Inhabited ω] [Add ω] [XorOp ω] [AndOp ω] [Complement ω]

/-- Three rotations of a word, summed. -/
def Variant.sum (v : Variant ω) (r : Nat × Nat × Nat) (x : ω) : ω :=
  v.rotate x r.1 ^^^ v.rotate x r.2.1 ^^^ v.rotate x r.2.2

/-- Two rotations and a shift of a word, summed. -/
def Variant.scheduleSum (v : Variant ω) (r : Nat × Nat × Nat) (x : ω) : ω :=
  v.rotate x r.1 ^^^ v.rotate x r.2.1 ^^^ v.shift x r.2.2

/-- The schedule word sixteen places behind the window's first. -/
def Variant.nextWord (v : Variant ω) (window : List ω) : ω :=
  v.scheduleSum v.schedule1 (window.getD 14 default) + window.getD 9 default +
    v.scheduleSum v.schedule0 (window.getD 1 default) + window.getD 0 default

def Variant.round (v : Variant ω) (s : State ω) (constant word : ω) : State ω :=
  let choice := (s.e &&& s.f) ^^^ (~~~s.e &&& s.g)
  let majority := (s.a &&& s.b) ^^^ (s.a &&& s.c) ^^^ (s.b &&& s.c)
  let t1 := s.h + v.sum v.sum1 s.e + choice + constant + word
  let t2 := v.sum v.sum0 s.a + majority
  ⟨t1 + t2, s.a, s.b, s.c, s.d + t1, s.e, s.f, s.g⟩

def Variant.rounds (v : Variant ω) (s : State ω) (window : List ω) : List ω → State ω
  | [] => s
  | constant :: rest =>
    v.rounds (v.round s constant (window.getD 0 default))
      (window.drop 1 ++ [v.nextWord window]) rest

def Variant.words (v : Variant ω) (count : Nat) (bytes : List UInt8) : List ω :=
  (groups v.wordBytes count bytes).map fun group => v.ofNat (ofBigEndian group)

/-- One block into the chaining words. -/
def Variant.compress (v : Variant ω) (s : State ω) (block : List UInt8) : State ω :=
  let t := v.rounds s (v.words 16 block) v.constants
  ⟨s.a + t.a, s.b + t.b, s.c + t.c, s.d + t.d, s.e + t.e, s.f + t.f, s.g + t.g, s.h + t.h⟩

/-- The bytes of a block: sixteen words. -/
def Variant.blockBytes (v : Variant ω) : Nat := 16 * v.wordBytes

/-- A one bit, zeros, and the bit length in two words, up to whole blocks. -/
def Variant.padding (v : Variant ω) (length : Nat) : List UInt8 :=
  let used := (length + 1 + 2 * v.wordBytes) % v.blockBytes
  0x80 :: List.replicate ((v.blockBytes - used) % v.blockBytes) 0 ++
    bigEndian (2 * v.wordBytes) (8 * length)

def Variant.digest (v : Variant ω) (message : List UInt8) : List UInt8 :=
  let padded := message ++ v.padding message.length
  v.output ((groups v.blockBytes (padded.length / v.blockBytes) padded).foldl v.compress v.initial)

@[simp] theorem Variant.length_digest (v : Variant ω) (message : List UInt8) :
    (v.digest message).length = 8 * v.wordBytes :=
  v.length_output _

end

/-- SHA-256: words of 32 bits, 64 rounds. -/
def sha256Variant : Variant UInt32 where
  wordBytes := 4
  ofNat := UInt32.ofNat
  toNat := UInt32.toNat
  rotate x n := (x >>> UInt32.ofNat n) ||| (x <<< UInt32.ofNat (32 - n))
  shift x n := x >>> UInt32.ofNat n
  sum0 := (2, 13, 22)
  sum1 := (6, 11, 25)
  schedule0 := (7, 18, 3)
  schedule1 := (17, 19, 10)
  constants := [
    0x428A2F98, 0x71374491, 0xB5C0FBCF, 0xE9B5DBA5, 0x3956C25B, 0x59F111F1, 0x923F82A4,
    0xAB1C5ED5, 0xD807AA98, 0x12835B01, 0x243185BE, 0x550C7DC3, 0x72BE5D74, 0x80DEB1FE,
    0x9BDC06A7, 0xC19BF174, 0xE49B69C1, 0xEFBE4786, 0x0FC19DC6, 0x240CA1CC, 0x2DE92C6F,
    0x4A7484AA, 0x5CB0A9DC, 0x76F988DA, 0x983E5152, 0xA831C66D, 0xB00327C8, 0xBF597FC7,
    0xC6E00BF3, 0xD5A79147, 0x06CA6351, 0x14292967, 0x27B70A85, 0x2E1B2138, 0x4D2C6DFC,
    0x53380D13, 0x650A7354, 0x766A0ABB, 0x81C2C92E, 0x92722C85, 0xA2BFE8A1, 0xA81A664B,
    0xC24B8B70, 0xC76C51A3, 0xD192E819, 0xD6990624, 0xF40E3585, 0x106AA070, 0x19A4C116,
    0x1E376C08, 0x2748774C, 0x34B0BCB5, 0x391C0CB3, 0x4ED8AA4A, 0x5B9CCA4F, 0x682E6FF3,
    0x748F82EE, 0x78A5636F, 0x84C87814, 0x8CC70208, 0x90BEFFFA, 0xA4506CEB, 0xBEF9A3F7,
    0xC67178F2]
  initial := ⟨
    0x6A09E667, 0xBB67AE85, 0x3C6EF372, 0xA54FF53A,
    0x510E527F, 0x9B05688C, 0x1F83D9AB, 0x5BE0CD19⟩

/-- SHA-512: words of 64 bits, 80 rounds. -/
def sha512Variant : Variant UInt64 where
  wordBytes := 8
  ofNat := UInt64.ofNat
  toNat := UInt64.toNat
  rotate x n := (x >>> UInt64.ofNat n) ||| (x <<< UInt64.ofNat (64 - n))
  shift x n := x >>> UInt64.ofNat n
  sum0 := (28, 34, 39)
  sum1 := (14, 18, 41)
  schedule0 := (1, 8, 7)
  schedule1 := (19, 61, 6)
  constants := [
    0x428A2F98D728AE22, 0x7137449123EF65CD, 0xB5C0FBCFEC4D3B2F, 0xE9B5DBA58189DBBC,
    0x3956C25BF348B538, 0x59F111F1B605D019, 0x923F82A4AF194F9B, 0xAB1C5ED5DA6D8118,
    0xD807AA98A3030242, 0x12835B0145706FBE, 0x243185BE4EE4B28C, 0x550C7DC3D5FFB4E2,
    0x72BE5D74F27B896F, 0x80DEB1FE3B1696B1, 0x9BDC06A725C71235, 0xC19BF174CF692694,
    0xE49B69C19EF14AD2, 0xEFBE4786384F25E3, 0x0FC19DC68B8CD5B5, 0x240CA1CC77AC9C65,
    0x2DE92C6F592B0275, 0x4A7484AA6EA6E483, 0x5CB0A9DCBD41FBD4, 0x76F988DA831153B5,
    0x983E5152EE66DFAB, 0xA831C66D2DB43210, 0xB00327C898FB213F, 0xBF597FC7BEEF0EE4,
    0xC6E00BF33DA88FC2, 0xD5A79147930AA725, 0x06CA6351E003826F, 0x142929670A0E6E70,
    0x27B70A8546D22FFC, 0x2E1B21385C26C926, 0x4D2C6DFC5AC42AED, 0x53380D139D95B3DF,
    0x650A73548BAF63DE, 0x766A0ABB3C77B2A8, 0x81C2C92E47EDAEE6, 0x92722C851482353B,
    0xA2BFE8A14CF10364, 0xA81A664BBC423001, 0xC24B8B70D0F89791, 0xC76C51A30654BE30,
    0xD192E819D6EF5218, 0xD69906245565A910, 0xF40E35855771202A, 0x106AA07032BBD1B8,
    0x19A4C116B8D2D0C8, 0x1E376C085141AB53, 0x2748774CDF8EEB99, 0x34B0BCB5E19B48A8,
    0x391C0CB3C5C95A63, 0x4ED8AA4AE3418ACB, 0x5B9CCA4F7763E373, 0x682E6FF3D6B2B8A3,
    0x748F82EE5DEFB2FC, 0x78A5636F43172F60, 0x84C87814A1F0AB72, 0x8CC702081A6439EC,
    0x90BEFFFA23631E28, 0xA4506CEBDE82BDE9, 0xBEF9A3F7B2C67915, 0xC67178F2E372532B,
    0xCA273ECEEA26619C, 0xD186B8C721C0C207, 0xEADA7DD6CDE0EB1E, 0xF57D4F7FEE6ED178,
    0x06F067AA72176FBA, 0x0A637DC5A2C898A6, 0x113F9804BEF90DAE, 0x1B710B35131C471B,
    0x28DB77F523047D84, 0x32CAAB7B40C72493, 0x3C9EBE0A15C9BEBC, 0x431D67C49C100D4C,
    0x4CC5D4BECB3E42B6, 0x597F299CFC657E2A, 0x5FCB6FAB3AD6FAEC, 0x6C44198C4A475817]
  initial := ⟨
    0x6A09E667F3BCC908, 0xBB67AE8584CAA73B, 0x3C6EF372FE94F82B, 0xA54FF53A5F1D36F1,
    0x510E527FADE682D1, 0x9B05688C2B3E6C1F, 0x1F83D9ABFB41BD6B, 0x5BE0CD19137E2179⟩

def sha256 (message : List UInt8) : Bytes 32 :=
  ⟨sha256Variant.digest message, sha256Variant.length_digest message⟩

def sha512 (message : List UInt8) : Bytes 64 :=
  ⟨sha512Variant.digest message, sha512Variant.length_digest message⟩

end PresenceSeal.Hash
