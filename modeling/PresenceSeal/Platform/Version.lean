import PresenceSeal.Fault
import PresenceSeal.Text.Blank
import PresenceSeal.Text.Quoted

/-! The version in a processor's platform type: the decimal digits behind the first
version token and any blanks, in front of the first point. What stands before the token
or behind the digits does not matter; the number must fit 32 bits. -/
namespace PresenceSeal.Version

/-- What stands in front of the version. -/
def token : List Char := "TPM-Version:".toList

/-- What follows the first occurrence of a text. -/
def after? (part : List Char) : List Char → Option (List Char)
  | [] => if part.isEmpty then some [] else none
  | c :: rest =>
    if part.isPrefixOf (c :: rest) then some ((c :: rest).drop part.length) else after? part rest

/-- The major version that a platform type names. -/
def major (platformType : String) : Except Fault Nat :=
  match after? token platformType.toList with
  | none => .error (.tpmVersion ("no " ++ String.ofList token ++ " token in platform type"))
  | some rest =>
    let rest := Text.trimStart rest
    let digits := (rest.takeWhile (· != '.')).takeWhile Text.isDigit
    if digits ≠ [] ∧ Text.ofDecimal digits < Nat.pow 2 32 then .ok (Text.ofDecimal digits)
    else .error (.tpmVersion ("non-numeric major version in " ++ String.ofList (Text.quoted rest)))

/-- The lowest major version that is good enough. -/
def minimum : Nat := 2

end PresenceSeal.Version
