import PresenceSeal.Text.Unprintable

/-! Text in double quotes for messages: quotation marks and backslashes are
escaped, common controls have short names, and every other unprintable character
is spelled out by its code point. -/
namespace PresenceSeal.Text

/-- The code point in lower-case hexadecimal between braces. -/
def spelledOut (c : Char) : List Char :=
  '\\' :: 'u' :: '\x7b' :: Nat.toDigits 16 c.toNat ++ ['\x7d']

/-- One character as it stands between the quotation marks. -/
def quotedChar (c : Char) : List Char :=
  match c with
  | '"' => ['\\', '"']
  | '\\' => ['\\', '\\']
  | '\t' => ['\\', 't']
  | '\r' => ['\\', 'r']
  | '\n' => ['\\', 'n']
  | '\x00' => ['\\', '0']
  | _ => if isUnprintable c then spelledOut c else [c]

def quoted (text : List Char) : List Char := '"' :: text.flatMap quotedChar ++ ['"']

end PresenceSeal.Text
