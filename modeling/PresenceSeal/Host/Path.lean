import PresenceSeal.Host.DiskError
import PresenceSeal.Host.Place

/-! Paths. A path is a text; it begins at the working directory or at the root, and each
of the names between its slashes leads one step on. -/
namespace PresenceSeal

/-- A path that has been taken apart. -/
structure Path where
  start : Start
  names : List String
  /-- Whether a slash stands behind the last name. -/
  slashed : Bool
  deriving DecidableEq, Repr

namespace Path

def maxName : Nat := 255

def maxLength : Nat := 4095

/-- The names between slashes, the first of which has begun with `begun`, its last
character first. -/
def namesFrom (begun : List Char) : List Char → List String
  | [] => [String.ofList begun.reverse]
  | c :: rest =>
    if c = '/' then String.ofList begun.reverse :: namesFrom [] rest
    else namesFrom (c :: begun) rest

/-- The path of a text. Several slashes in a row count as one. -/
def ofText (text : String) : Except DiskError Path :=
  let chars := text.toList
  if '\x00' ∈ chars then .error .invalidName
  else if chars.isEmpty then .error .notFound
  else if maxLength < text.utf8ByteSize then .error .nameTooLong
  else .ok {
    start := if chars.head? = some '/' then .root else .above 0
    names := (namesFrom [] chars).filter (· ≠ "")
    slashed := chars.getLast? = some '/' }

def join (folder name : String) : String :=
  if folder.isEmpty ∨ folder.toList.getLast? = some '/' then folder ++ name
  else folder ++ "/" ++ name

end Path

end PresenceSeal
