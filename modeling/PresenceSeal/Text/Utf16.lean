/-! Text as little-endian UTF-16 bytes, without mark and without terminator.
Both the challenge and the sealed payload travel in this form. Decoding accepts
exactly the images of encoding: an odd number of bytes and an unpaired surrogate
are the two ways to be refused. -/
namespace PresenceSeal.Text.Utf16

inductive Defect where
  /-- The byte string has an odd length, which is given. -/
  | oddLength (length : Nat)
  /-- A surrogate stands alone. -/
  | unpaired
  deriving DecidableEq, Repr

def Defect.message : Defect → String
  | .oddLength length => s!"odd UTF-16 byte length: {length}"
  | .unpaired => "ill-formed UTF-16 sequence"

/-- The code units of a character: one up to U+FFFF, a surrogate pair above. -/
def unitsOfChar (c : Char) : List UInt16 :=
  if c.toNat < 0x10000 then
    [UInt16.ofNat c.toNat]
  else
    let n := c.toNat - 0x10000
    [UInt16.ofNat (0xD800 + n / 0x400), UInt16.ofNat (0xDC00 + n % 0x400)]

def units (text : List Char) : List UInt16 := text.flatMap unitsOfChar

def isHighSurrogate (u : UInt16) : Bool := 0xD800 ≤ u && u < 0xDC00

def isLowSurrogate (u : UInt16) : Bool := 0xDC00 ≤ u && u < 0xE000

/-- The character that a surrogate pair stands for. -/
def joined (high low : UInt16) : Char :=
  Char.ofNat (0x10000 + (high.toNat - 0xD800) * 0x400 + (low.toNat - 0xDC00))

/-- The text whose code units these are. A high surrogate must be followed by a
low one, and a low one may stand nowhere else. -/
def ofUnits? : List UInt16 → Option (List Char)
  | [] => some []
  | u :: rest =>
    if isHighSurrogate u then
      match rest with
      | v :: rest => if isLowSurrogate v then (ofUnits? rest).map (joined u v :: ·) else none
      | [] => none
    else if isLowSurrogate u then none
    else (ofUnits? rest).map (Char.ofNat u.toNat :: ·)

/-- A code unit as two bytes, the low one first. -/
def bytesOfUnit (u : UInt16) : List UInt8 := [u.toUInt8, (u >>> 8).toUInt8]

def unitOfBytes (low high : UInt8) : UInt16 := low.toUInt16 ||| (high.toUInt16 <<< 8)

theorem unitOfBytes_bytesOfUnit (u : UInt16) :
    unitOfBytes u.toUInt8 (u >>> 8).toUInt8 = u := by
  apply UInt16.toNat_inj.mp
  have bound := u.toNat_lt
  have low : u.toNat % 256 < 2 ^ 8 := Nat.mod_lt _ (by decide)
  have parts := Nat.two_pow_add_eq_or_of_lt low (u.toNat / 256)
  have high : u.toNat / 2 ^ 8 % 2 ^ 8 * 2 ^ 8 % 2 ^ 16 = 2 ^ 8 * (u.toNat / 256) := by omega
  simp only [unitOfBytes, UInt16.toNat_or, UInt8.toNat_toUInt16, UInt16.toNat_toUInt8,
    UInt16.toNat_shiftRight, UInt16.toNat_shiftLeft, UInt16.reduceToNat, Nat.reduceMod,
    Nat.shiftRight_eq_div_pow, Nat.shiftLeft_eq, high]
  rw [Nat.or_comm, ← parts]
  omega

/-- The code units of a byte string of even length. -/
def unitsOfBytes? : List UInt8 → Option (List UInt16)
  | [] => some []
  | [_] => none
  | low :: high :: rest => (unitsOfBytes? rest).map (unitOfBytes low high :: ·)

theorem unitsOfBytes?_flatMap (us : List UInt16) :
    unitsOfBytes? (us.flatMap bytesOfUnit) = some us := by
  induction us with
  | nil => rfl
  | cons u rest ih => simp [bytesOfUnit, unitsOfBytes?, unitOfBytes_bytesOfUnit, ih]

def encode (text : List Char) : List UInt8 := (units text).flatMap bytesOfUnit

/-- The text of some bytes. The length is looked at before the units. -/
def decode (bytes : List UInt8) : Except Defect (List Char) :=
  match unitsOfBytes? bytes with
  | none => .error (.oddLength bytes.length)
  | some us =>
    match ofUnits? us with
    | none => .error .unpaired
    | some text => .ok text

end PresenceSeal.Text.Utf16
