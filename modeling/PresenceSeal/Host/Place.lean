/-! Places in a tree of directories. Where the working directory lies is not known, so
the places above it are counted from it. -/
namespace PresenceSeal

/-- A directory from which names lead on. -/
inductive Start where
  /-- The directory so many steps above the working one. -/
  | above (steps : Nat)
  | root
  deriving DecidableEq, Repr

structure Place where
  start : Start := .above 0
  names : List String
  deriving DecidableEq, Repr

namespace Place

def child (folder : Place) (name : String) : Place :=
  { folder with names := folder.names ++ [name] }

/-- The directory that a place stands in. The root stands in itself. -/
def parent (place : Place) : Place :=
  match place.names, place.start with
  | [], .above steps => ⟨.above (steps + 1), []⟩
  | [], .root => place
  | _, _ => { place with names := place.names.dropLast }

/-- Whether a place is the other one or lies below it. -/
def isWithin (place folder : Place) : Bool :=
  place.start = folder.start && folder.names.isPrefixOf place.names

end Place

end PresenceSeal
