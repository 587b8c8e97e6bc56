import Mathlib.Algebra.Ring.Int.Defs
import PresenceSeal.Json.Printer
import PresenceSeal.Proofs.Json.Numeral

/-! The grammar of JSON texts, apart from any reader. A value may be written in many ways:
with blanks around each of its parts, with characters escaped or not, and with the members of
an object in any order. What is merely well formed need not be any value's text: its numbers
may be too large, its surrogates unpaired, its names repeated. -/
namespace PresenceSeal.Json

def Blanks (text : List Char) : Prop :=
  ∀ c ∈ text, c = ' ' ∨ c = '\t' ∨ c = '\n' ∨ c = '\r'

/-- Texts with commas between them. -/
def commas : List (List Char) → List Char
  | [] => []
  | first :: others => first ++ others.flatMap (',' :: ·)

/-! ### Strings -/

/-- A hexadecimal digit of either case. -/
def Hex (c : Char) (n : Nat) : Prop := n < 16 ∧ (c = hexDigit n ∨ c = Text.upperHexDigit n)

/-- The four hexadecimal digits of a code unit. -/
def Quad (digits : List Char) (unit : Nat) : Prop :=
  ∃ a b c d, digits = [a, b, c, d] ∧ Hex a (unit / 0x1000) ∧ Hex b (unit / 0x100 % 0x10) ∧
    Hex c (unit / 0x10 % 0x10) ∧ Hex d (unit % 0x10)

/-- The characters that have an escape of one letter or sign, with that escape. -/
def shortEscapes : List (Char × Char) :=
  [('"', '"'), ('\\', '\\'), ('/', '/'), ('\x08', 'b'), ('\x0c', 'f'), ('\n', 'n'), ('\r', 'r'),
    ('\t', 't')]

/-- A character that may stand in a string by itself. -/
def Bare (c : Char) : Prop := 0x20 ≤ c.toNat ∧ c ≠ '"' ∧ c ≠ '\\'

/-- The ways to write a character in a string. Above U+FFFF two escapes make a pair. -/
inductive Spells (c : Char) : List Char → Prop where
  | bare : Bare c → Spells c [c]
  | short {letter} : (c, letter) ∈ shortEscapes → Spells c ['\\', letter]
  | unit {digits} : c.toNat < 0x10000 → Quad digits c.toNat → Spells c ('\\' :: 'u' :: digits)
  | pair {high low} : 0x10000 ≤ c.toNat →
      Quad high (0xD800 + (c.toNat - 0x10000) / 0x400) →
      Quad low (0xDC00 + (c.toNat - 0x10000) % 0x400) →
      Spells c ('\\' :: 'u' :: high ++ '\\' :: 'u' :: low)

/-- The ways to write a text between quotation marks. -/
inductive Spelled : List Char → List Char → Prop where
  | nil : Spelled [] []
  | cons {c piece text body} : Spells c piece → Spelled text body →
      Spelled (c :: text) (piece ++ body)

/-- What may stand between quotation marks if nobody asks for the text. -/
inductive Strung : List Char → Prop where
  | nil : Strung []
  | bare {c body} : Bare c → Strung body → Strung (c :: body)
  | short {c letter body} : (c, letter) ∈ shortEscapes → Strung body →
      Strung ('\\' :: letter :: body)
  | unit {digits unit body} : Quad digits unit → Strung body →
      Strung ('\\' :: 'u' :: digits ++ body)

/-- A quoted body with blanks around it. -/
def Quoted (body key : List Char) : Prop :=
  ∃ before after, Blanks before ∧ Blanks after ∧ key = before ++ '"' :: body ++ '"' :: after

/-! ### Values -/

/-- A member of an object as it is written: its name, and the texts on both sides of the colon. -/
structure Slot where
  name : String
  key : List Char
  text : List Char

def Slot.spell (slot : Slot) : List Char := slot.key ++ ':' :: slot.text

/-- That the name of a member is written on the left of its colon. -/
def Slot.Named (slot : Slot) : Prop :=
  ∃ body, Spelled slot.name.toList body ∧ Quoted body slot.key

/-- The ways to write a value. Only integers are among the numbers, and only without point and
exponent. -/
inductive Writes : Json → List Char → Prop where
  | blanks {j before text after} : Blanks before → Blanks after → Writes j text →
      Writes j (before ++ text ++ after)
  | null : Writes .null ['n', 'u', 'l', 'l']
  | true : Writes (.bool true) ['t', 'r', 'u', 'e']
  | false : Writes (.bool false) ['f', 'a', 'l', 's', 'e']
  | integer (value : Int) : Writes (.int value) (Text.signedDecimal value)
  | string {value : String} {body} : Spelled value.toList body →
      Writes (.string value) ('"' :: body ++ ['"'])
  | noItems {inside} : Blanks inside → Writes (.array []) ('[' :: inside ++ [']'])
  | array {pieces : List (Json × List Char)} : pieces ≠ [] →
      (∀ piece ∈ pieces, Writes piece.1 piece.2) →
      Writes (.array (pieces.map (·.1))) ('[' :: commas (pieces.map (·.2)) ++ [']'])
  | noMembers {inside} : Blanks inside → Writes (.object []) ('\x7b' :: inside ++ ['\x7d'])
  | object {pieces : List (Slot × Json)} {members : List (String × Json)} : pieces ≠ [] →
      (∀ piece ∈ pieces, piece.1.Named) → (∀ piece ∈ pieces, Writes piece.2 piece.1.text) →
      (pieces.map fun piece => (piece.1.name, piece.2)).Perm members →
      Writes (.object members) ('\x7b' :: commas (pieces.map (·.1.spell)) ++ ['\x7d'])

/-- A value that its texts tell exactly: its containers nest at most so deep, its numbers are
integers of 64 bits, and the members of its objects are in the ascending order of their keys,
each key once. -/
inductive Exact : Nat → Json → Prop where
  | null {depth} : Exact depth .null
  | bool {depth} (value : Bool) : Exact depth (.bool value)
  | integer {depth} {value : Int} : -2 ^ 63 ≤ value → value < 2 ^ 64 → Exact depth (.int value)
  | string {depth} (value : String) : Exact depth (.string value)
  | array {depth} {items : List Json} : (∀ item ∈ items, Exact depth item) →
      Exact (depth + 1) (.array items)
  | object {depth} {members : List (String × Json)} : members.Pairwise (·.1 < ·.1) →
      (∀ member ∈ members, Exact depth member.2) → Exact (depth + 1) (.object members)

/-! ### What is well formed -/

def Digits (text : List Char) : Prop := text ≠ [] ∧ ∀ c ∈ text, Text.isDigit c = true

/-- The figures of a number: an integer, perhaps with a fraction and an exponent. -/
inductive Figures : List Char → Prop where
  | mk {minus whole fraction exponent : List Char} : minus = [] ∨ minus = ['-'] →
      Numeral.Proper whole →
      (fraction = [] ∨ ∃ digits, Digits digits ∧ fraction = '.' :: digits) →
      (exponent = [] ∨ ∃ letter sign digits, (letter = 'e' ∨ letter = 'E') ∧
        (sign = [] ∨ sign = ['+'] ∨ sign = ['-']) ∧ Digits digits ∧
        exponent = letter :: (sign ++ digits)) →
      Figures (minus ++ whole ++ fraction ++ exponent)

/-- The texts of some value, of whatever size and depth. -/
inductive Formed : List Char → Prop where
  | blanks {before text after} : Blanks before → Blanks after → Formed text →
      Formed (before ++ text ++ after)
  | null : Formed ['n', 'u', 'l', 'l']
  | true : Formed ['t', 'r', 'u', 'e']
  | false : Formed ['f', 'a', 'l', 's', 'e']
  | number {text} : Figures text → Formed text
  | string {body} : Strung body → Formed ('"' :: body ++ ['"'])
  | noItems {inside} : Blanks inside → Formed ('[' :: inside ++ [']'])
  | array {texts : List (List Char)} : texts ≠ [] → (∀ text ∈ texts, Formed text) →
      Formed ('[' :: commas texts ++ [']'])
  | noMembers {inside} : Blanks inside → Formed ('\x7b' :: inside ++ ['\x7d'])
  | object {pieces : List (List Char × List Char)} : pieces ≠ [] →
      (∀ piece ∈ pieces, ∃ body, Strung body ∧ Quoted body piece.1) →
      (∀ piece ∈ pieces, Formed piece.2) →
      Formed ('\x7b' :: commas (pieces.map fun piece => piece.1 ++ ':' :: piece.2) ++ ['\x7d'])

end PresenceSeal.Json
