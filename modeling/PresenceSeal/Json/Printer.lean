import PresenceSeal.Json.Value
import PresenceSeal.Number.Shortest

/-! JSON text of a value, without blanks. Strings escape only what they must:
the quotation mark, the backslash and the controls below U+0020. Hence no output
holds a raw line feed, whatever text is inside. -/
namespace PresenceSeal.Json

def hexDigit (n : Nat) : Char :=
  if n < 10 then Char.ofNat ('0'.toNat + n) else Char.ofNat ('a'.toNat + (n - 10))

def escapeChar (c : Char) : List Char :=
  match c with
  | '"' => ['\\', '"']
  | '\\' => ['\\', '\\']
  | '\x08' => ['\\', 'b']
  | '\t' => ['\\', 't']
  | '\n' => ['\\', 'n']
  | '\x0c' => ['\\', 'f']
  | '\r' => ['\\', 'r']
  | _ =>
    if c.toNat < 0x20 then
      ['\\', 'u', '0', '0', hexDigit (c.toNat / 16), hexDigit (c.toNat % 16)]
    else [c]

def quote (text : List Char) : List Char := '"' :: text.flatMap escapeChar ++ ['"']

def Number.render : Json.Number → List Char
  | .integer value => Text.signedDecimal value
  | .real value => Number.text value

mutual

def render : Json → List Char
  | .null => ['n', 'u', 'l', 'l']
  | .bool true => ['t', 'r', 'u', 'e']
  | .bool false => ['f', 'a', 'l', 's', 'e']
  | .number value => value.render
  | .string value => quote value.toList
  | .array [] => ['[', ']']
  | .array (item :: rest) => '[' :: render item ++ renderItems rest ++ [']']
  | .object [] => ['\x7b', '\x7d']
  | .object ((key, value) :: rest) =>
    '\x7b' :: quote key.toList ++ ':' :: render value ++ renderMembers rest ++ ['\x7d']

/-- The items after the first, each behind a comma. -/
def renderItems : List Json → List Char
  | [] => []
  | item :: rest => ',' :: render item ++ renderItems rest

/-- The members after the first, each behind a comma. -/
def renderMembers : List (String × Json) → List Char
  | [] => []
  | (key, value) :: rest =>
    ',' :: quote key.toList ++ ':' :: render value ++ renderMembers rest

end

/-- A new line, indented by two blanks for each level. -/
def newLine (level : Nat) : List Char := '\n' :: List.replicate (2 * level) ' '

mutual

/-- The text of a value over several lines, its inner lines indented by a level more. -/
def pretty (level : Nat) : Json → List Char
  | .array (item :: rest) =>
    '[' :: newLine (level + 1) ++ pretty (level + 1) item ++ prettyItems (level + 1) rest ++
      newLine level ++ [']']
  | .object ((key, value) :: rest) =>
    '\x7b' :: newLine (level + 1) ++ quote key.toList ++ [':', ' '] ++ pretty (level + 1) value ++
      prettyMembers (level + 1) rest ++ newLine level ++ ['\x7d']
  | .array [] => ['[', ']']
  | .object [] => ['\x7b', '\x7d']
  | .null => render .null
  | .bool value => render (.bool value)
  | .number value => render (.number value)
  | .string value => render (.string value)

/-- The items after the first, each behind a comma on a line of its own. -/
def prettyItems (level : Nat) : List Json → List Char
  | [] => []
  | item :: rest => ',' :: newLine level ++ pretty level item ++ prettyItems level rest

/-- The members after the first, each behind a comma on a line of its own. -/
def prettyMembers (level : Nat) : List (String × Json) → List Char
  | [] => []
  | (key, value) :: rest =>
    ',' :: newLine level ++ quote key.toList ++ [':', ' '] ++ pretty level value ++
      prettyMembers level rest

end

end PresenceSeal.Json
