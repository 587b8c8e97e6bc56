/-! Base64 with the standard alphabet and `=` padding. Decoding is strict about
padding and left-over bits but works group by group, so that concatenated padded
texts decode to the concatenation of what they stand for. The first group that
cannot be read decides the defect; positions count bytes. -/
namespace PresenceSeal.Text.Base64

inductive Defect where
  /-- The length is no multiple of four. -/
  | length
  /-- A group holds fewer than two symbols before its padding. -/
  | padding
  /-- A byte is not in the alphabet. -/
  | symbol
  /-- Bits that stand for no byte are not zero. -/
  | trailing
  deriving DecidableEq, Repr

def Defect.name : Defect → String
  | .length => "invalid length"
  | .padding => "invalid padding length"
  | .symbol => "invalid symbol"
  | .trailing => "non-zero trailing bits"

/-- A defect and the byte position it is reported at. -/
structure Fault where
  defect : Defect
  position : Nat
  deriving DecidableEq, Repr

def Fault.message (fault : Fault) : String := s!"{fault.defect.name} at {fault.position}"

def symbol (value : Nat) : Char :=
  if value < 26 then Char.ofNat ('A'.toNat + value)
  else if value < 52 then Char.ofNat ('a'.toNat + (value - 26))
  else if value < 62 then Char.ofNat ('0'.toNat + (value - 52))
  else if value = 62 then '+'
  else '/'

def value? (byte : UInt8) : Option Nat :=
  let n := byte.toNat
  if 'A'.toNat ≤ n ∧ n ≤ 'Z'.toNat then some (n - 'A'.toNat)
  else if 'a'.toNat ≤ n ∧ n ≤ 'z'.toNat then some (n - 'a'.toNat + 26)
  else if '0'.toNat ≤ n ∧ n ≤ '9'.toNat then some (n - '0'.toNat + 52)
  else if n = '+'.toNat then some 62
  else if n = '/'.toNat then some 63
  else none

/-- Every symbol is read as the value it stands for. -/
theorem value?_symbol {value : Nat} (small : value < 64) :
    value? (UInt8.ofNat (symbol value).toNat) = some value := by
  have all : ∀ n : Fin 64, value? (UInt8.ofNat (symbol n.val).toNat) = some n.val := by decide
  exact all ⟨value, small⟩

/-- The text of some bytes, three bytes to a group of four symbols. -/
def encode : List UInt8 → List Char
  | [] => []
  | [a] =>
    [symbol (a.toNat / 4), symbol (a.toNat % 4 * 16), '=', '=']
  | [a, b] =>
    [symbol (a.toNat / 4), symbol (a.toNat % 4 * 16 + b.toNat / 16),
      symbol (b.toNat % 16 * 4), '=']
  | a :: b :: c :: rest =>
    symbol (a.toNat / 4) :: symbol (a.toNat % 4 * 16 + b.toNat / 16) ::
      symbol (b.toNat % 16 * 4 + c.toNat / 64) :: symbol (c.toNat % 64) :: encode rest

def pad : UInt8 := UInt8.ofNat '='.toNat

/-- The values of the symbols of one group, from its position on. -/
def values (position : Nat) : List UInt8 → Except Fault (List Nat)
  | [] => .ok []
  | byte :: rest =>
    match value? byte with
    | none => .error ⟨.symbol, position⟩
    | some value => (values (position + 1) rest).map (value :: ·)

/-- The bytes of one group, whose trailing padding has been taken away. -/
def decodeSymbols (position : Nat) (group : List UInt8) : Except Fault (List UInt8) :=
  if group.length < 2 then .error ⟨.padding, position + group.length⟩
  else
    match values position group with
    | .error fault => .error fault
    | .ok [x, y] =>
      if y % 16 = 0 then .ok [UInt8.ofNat (x * 4 + y / 16)]
      else .error ⟨.trailing, position + 1⟩
    | .ok [x, y, z] =>
      if z % 4 = 0 then
        .ok [UInt8.ofNat (x * 4 + y / 16), UInt8.ofNat (y % 16 * 16 + z / 4)]
      else .error ⟨.trailing, position + 2⟩
    | .ok [x, y, z, w] =>
      .ok [UInt8.ofNat (x * 4 + y / 16), UInt8.ofNat (y % 16 * 16 + z / 4),
        UInt8.ofNat (z % 4 * 64 + w)]
    | .ok _ => .error ⟨.padding, position + group.length⟩

/-- The group without the padding at its end. -/
def unpadded (group : List UInt8) : List UInt8 :=
  (group.reverse.dropWhile (· == pad)).reverse

/-- The bytes of groups of four from a position on. -/
def decodeGroups (position : Nat) : List UInt8 → Except Fault (List UInt8)
  | a :: b :: c :: d :: rest =>
    match decodeSymbols position (unpadded [a, b, c, d]) with
    | .error fault => .error fault
    | .ok bytes => (decodeGroups (position + 4) rest).map (bytes ++ ·)
  | _ => .ok []

/-- The bytes that a text stands for. The length is looked at first. -/
def decode (text : List UInt8) : Except Fault (List UInt8) :=
  if text.length % 4 = 0 then decodeGroups 0 text
  else .error ⟨.length, text.length - text.length % 4⟩

end PresenceSeal.Text.Base64
