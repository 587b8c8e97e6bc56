import PresenceSeal.Json.Error
import PresenceSeal.Text.Utf16

/-! The leaves of a JSON text: blanks, words, strings and numerals. Each scanner
takes the characters still to be read and returns what it took and what is left,
or the first problem it meets. -/
namespace PresenceSeal.Json

/-- Takes something off the front of the characters still to be read. -/
abbrev Reader := StateT (List Char) (Except Error)

/-- JSON knows four blanks. -/
def isSpace (c : Char) : Bool := c == ' ' || c == '\t' || c == '\n' || c == '\r'

def skipSpace (text : List Char) : List Char := text.dropWhile isSpace

/-- The rest of `null`, `true` or `false`, whose first letter decides which word is meant. -/
def ident : List Char → Reader Unit
  | [], text => .ok ((), text)
  | _ :: _, [] => .error .endInValue
  | c :: word, d :: text => if d = c then ident word text else .error .expectedIdent

namespace Scan

def hexValue? (c : Char) : Option Nat :=
  if '0' ≤ c ∧ c ≤ '9' then some (c.toNat - '0'.toNat)
  else if 'a' ≤ c ∧ c ≤ 'f' then some (c.toNat - 'a'.toNat + 10)
  else if 'A' ≤ c ∧ c ≤ 'F' then some (c.toNat - 'A'.toNat + 10)
  else none

/-- The bytes a text occupies. -/
def byteLength (text : List Char) : Nat := text.foldr (fun c length => c.utf8Size + length) 0

/-- Four hexadecimal digits. With fewer than four bytes left the text has ended. -/
def hex4 : Reader Nat
  | a :: b :: c :: d :: rest =>
    match hexValue? a, hexValue? b, hexValue? c, hexValue? d with
    | some a, some b, some c, some d => .ok (((a * 16 + b) * 16 + c) * 16 + d, rest)
    | _, _, _, _ => .error .invalidEscape
  | short => .error (if 4 ≤ byteLength short then .invalidEscape else .endInString)

/-- The character of an escape that is one letter or sign. -/
def shortEscape? (c : Char) : Option Char :=
  match c with
  | '"' => some '"'
  | '\\' => some '\\'
  | '/' => some '/'
  | 'b' => some '\x08'
  | 'f' => some '\x0c'
  | 'n' => some '\n'
  | 'r' => some '\r'
  | 't' => some '\t'
  | _ => none

/-- The low half of a surrogate pair, which has an escape of its own. -/
def lowHalf (high : Nat) : Reader Char
  | [] => .error .endInString
  | ['\\'] => .error .endInString
  | '\\' :: 'u' :: rest =>
    match hex4 rest with
    | .error e => .error e
    | .ok (low, rest) =>
      if Text.Utf16.isLowSurrogate (UInt16.ofNat low) then
        .ok (Text.Utf16.joined (UInt16.ofNat high) (UInt16.ofNat low), rest)
      else .error .loneSurrogate
  | _ => .error .endOfHexEscape

/-- The character that an escape stands for; its backslash has been read. -/
def escape : Reader Char
  | [] => .error .endInString
  | 'u' :: rest =>
    match hex4 rest with
    | .error e => .error e
    | .ok (unit, rest) =>
      if Text.Utf16.isLowSurrogate (UInt16.ofNat unit) then .error .loneSurrogate
      else if Text.Utf16.isHighSurrogate (UInt16.ofNat unit) then lowHalf unit rest
      else .ok (Char.ofNat unit, rest)
  | c :: rest =>
    match shortEscape? c with
    | some c => .ok (c, rest)
    | none => .error .invalidEscape

/-- An escape that is only passed over: surrogates need not be paired. -/
def skippedEscape : Reader Unit
  | [] => .error .endInString
  | 'u' :: rest =>
    match hex4 rest with
    | .error e => .error e
    | .ok (_, rest) => .ok ((), rest)
  | c :: rest =>
    match shortEscape? c with
    | some _ => .ok ((), rest)
    | none => .error .invalidEscape

/-- The characters of a string up to its closing quotation mark, in at most
`fuel` steps. Every step takes a character. -/
def stringSteps : (fuel : Nat) → Reader (List Char)
  | 0, _ => .error .endInString
  | _ + 1, [] => .error .endInString
  | fuel + 1, c :: rest =>
    if c = '"' then .ok ([], rest)
    else if c = '\\' then
      match escape rest with
      | .error e => .error e
      | .ok (d, rest) => (stringSteps fuel rest).map fun (text, rest) => (d :: text, rest)
    else if c.toNat < 0x20 then .error .controlCharacter
    else (stringSteps fuel rest).map fun (text, rest) => (c :: text, rest)

/-- Passes over a string up to its closing quotation mark, in at most `fuel` steps. -/
def skippedStringSteps : (fuel : Nat) → Reader Unit
  | 0, _ => .error .endInString
  | _ + 1, [] => .error .endInString
  | fuel + 1, c :: rest =>
    if c = '"' then .ok ((), rest)
    else if c = '\\' then
      match skippedEscape rest with
      | .error e => .error e
      | .ok (_, rest) => skippedStringSteps fuel rest
    else if c.toNat < 0x20 then .error .controlCharacter
    else skippedStringSteps fuel rest

end Scan

/-- The text of a string whose opening quotation mark has been read. -/
def stringBody : Reader String := fun text =>
  (Scan.stringSteps (text.length + 1) text).map fun (chars, rest) => (String.ofList chars, rest)

/-- Passes over a string whose opening quotation mark has been read. -/
def skippedString : Reader Unit := fun text => Scan.skippedStringSteps (text.length + 1) text

/-- The written form of a number. -/
structure Numeral where
  negative : Bool
  whole : List Char
  /-- The digits behind the point; none if there is no point. -/
  fraction : List Char
  /-- Whether the exponent is negative, and its digits. -/
  exponent : Option (Bool × List Char)
  deriving DecidableEq, Repr

namespace Numeral

/-- The digits before the point; a zero stands alone. -/
def scanWhole (atEnd : Error) : Reader (List Char)
  | [] => .error atEnd
  | '0' :: rest =>
    if (rest.head?.map Text.isDigit).getD false then .error .invalidNumber else .ok (['0'], rest)
  | c :: rest =>
    if Text.isDigit c then .ok (c :: rest.takeWhile Text.isDigit, rest.dropWhile Text.isDigit)
    else .error .invalidNumber

def scanDigits (atEnd : Error) : Reader (List Char)
  | [] => .error atEnd
  | c :: rest =>
    if Text.isDigit c then .ok (c :: rest.takeWhile Text.isDigit, rest.dropWhile Text.isDigit)
    else .error .invalidNumber

/-- A point and digits, if there is a point. -/
def scanFraction (atEnd : Error) : Reader (List Char)
  | '.' :: rest => scanDigits atEnd rest
  | text => .ok ([], text)

/-- A sign, if there is one. -/
def scanSign : List Char → Bool × List Char
  | '+' :: rest => (false, rest)
  | '-' :: rest => (true, rest)
  | text => (false, text)

/-- An exponent, if there is one. -/
def scanExponent (atEnd : Error) : Reader (Option (Bool × List Char))
  | c :: rest =>
    if c = 'e' ∨ c = 'E' then
      let (negative, rest) := scanSign rest
      (scanDigits atEnd rest).map fun (digits, rest) => (some (negative, digits), rest)
    else .ok (none, c :: rest)
  | [] => .ok (none, [])

/-- A number. `atEnd` is what to report where the text ends inside it. -/
def scan (atEnd : Error) : Reader Numeral := fun text => do
  let (negative, text) :=
    match text with
    | '-' :: rest => (true, rest)
    | _ => (false, text)
  let (whole, text) ← scanWhole atEnd text
  let (fraction, text) ← scanFraction atEnd text
  let (exponent, text) ← scanExponent atEnd text
  .ok (⟨negative, whole, fraction, exponent⟩, text)

/-- Takes digits into a significand as long as it stays below `2 ^ 64`, and
leaves the others. -/
def absorb (significand : Nat) : List Char → Nat × List Char
  | [] => (significand, [])
  | c :: rest =>
    let next := 10 * significand + Text.digitValue c
    if next < Nat.pow 2 64 then absorb next rest else (significand, c :: rest)

def tenPower (e : Nat) : Number.Binary64 :=
  (Number.Binary64.ofNat (Nat.pow 10 e)).getD (Number.Binary64.zero false)

/-- `x / 10 ^ e`, by steps of `10 ^ 308`, each rounded. -/
def divideByTen (x : Number.Binary64) (e : Nat) : Number.Binary64 :=
  if e ≤ 308 then (x.div (tenPower e)).getD x
  else if x.isZero then x
  else divideByTen ((x.div (tenPower 308)).getD x) (e - 308)
termination_by e

/-- `significand * 10 ^ e`: the significand and the power are rounded, then their product. -/
def scaled (negative : Bool) (significand : Nat) (e : Int) : Except Error Number.Binary64 :=
  let x := (Number.Binary64.ofNat significand).getD (Number.Binary64.zero false)
  let magnitude : Except Error Number.Binary64 :=
    match e with
    | .ofNat e =>
      if e ≤ 308 then
        match x.mul (tenPower e) with
        | some y => .ok y
        | none => .error .numberOutOfRange
      else if x.isZero then .ok x
      else .error .numberOutOfRange
    | .negSucc e => .ok (divideByTen x (e + 1))
  magnitude.map fun y => { y with negative }

/-- The value of a numeral without point and exponent whose digits fit 64 bits. -/
def integer (negative : Bool) (magnitude : Nat) : Except Error Json.Number :=
  if !negative then .ok (.integer magnitude)
  else if 0 < magnitude ∧ magnitude ≤ Nat.pow 2 63 then .ok (.integer (-magnitude))
  else (scaled true magnitude 0).map .real

/-- The value of a numeral. Digits beyond 64 bits only scale. -/
def number (n : Numeral) : Except Error Json.Number :=
  let (whole, dropped) := absorb 0 n.whole
  if n.fraction = [] ∧ n.exponent = none ∧ dropped = [] then integer n.negative whole
  else
    let (significand, unread) := absorb whole n.fraction
    let scale : Int := dropped.length + unread.length - n.fraction.length
    match n.exponent with
    | none => (scaled n.negative significand scale).map .real
    | some (negative, digits) =>
      let e := Text.ofDecimal digits
      if Nat.pow 2 31 ≤ e then
        if significand ≠ 0 ∧ !negative then .error .numberOutOfRange
        else .ok (.real (Number.Binary64.zero n.negative))
      else (scaled n.negative significand (if negative then scale - e else scale + e)).map .real

end Numeral

namespace Reader

def number : Reader Json.Number := fun text => do
  let (numeral, rest) ← Numeral.scan .endInValue text
  let value ← numeral.number
  .ok (value, rest)

/-- Passes over a number: only its form is looked at. -/
def skippedNumber : Reader Unit := fun text => do
  let (_, rest) ← Numeral.scan .invalidNumber text
  .ok ((), rest)

end Reader

end PresenceSeal.Json
