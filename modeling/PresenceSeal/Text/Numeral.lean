/-! Numbers as text: decimal digits, a signed decimal, and the eight upper-case
hexadecimal digits in which platform statuses are reported. -/
namespace PresenceSeal.Text

def decimal (n : Nat) : List Char := Nat.toDigits 10 n

/-- Decimal digits, with a minus sign in front of a negative number. -/
def signedDecimal : Int → List Char
  | .ofNat n => decimal n
  | .negSucc n => '-' :: decimal (n + 1)

/-- The decimal digits `0` to `9`, and no other script's. -/
def isDigit (c : Char) : Bool := '0' ≤ c && c ≤ '9'

/-- The number a digit stands for. -/
def digitValue (c : Char) : Nat := c.toNat - '0'.toNat

/-- The number that decimal digits denote, leading zeros allowed. -/
def ofDecimal (digits : List Char) : Nat :=
  digits.foldl (fun value c => 10 * value + digitValue c) 0

def upperHexDigit (n : Nat) : Char :=
  if n < 10 then Char.ofNat ('0'.toNat + n) else Char.ofNat ('A'.toNat + (n - 10))

/-- The low `count` hexadecimal digits of a number, upper case, zeros kept. -/
def upperHex : (count : Nat) → Nat → List Char
  | 0, _ => []
  | count + 1, n => upperHex count (n / 16) ++ [upperHexDigit (n % 16)]

@[simp] theorem length_upperHex (count n : Nat) : (upperHex count n).length = count := by
  induction count generalizing n with
  | zero => rfl
  | succ count ih => simp [upperHex, ih]

end PresenceSeal.Text
