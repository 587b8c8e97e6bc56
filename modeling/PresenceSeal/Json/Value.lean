import PresenceSeal.Number.Binary64

/-! JSON values. Integers that fit 64 bits stay integers, every other number is a
binary64. An object has its members in the order in which they are written. Where an
object is read, that is the ascending order of their keys, each key once, so that two
spellings of one object are one value. -/
namespace PresenceSeal

/-- A JSON number. The reader makes integers from `-2 ^ 63` to `2 ^ 64 - 1`. -/
inductive Json.Number where
  | integer (value : Int)
  | real (value : Number.Binary64)
  deriving DecidableEq, Repr

inductive Json where
  | null
  | bool (value : Bool)
  | number (value : Json.Number)
  | string (value : String)
  | array (items : List Json)
  | object (members : List (String × Json))
  deriving Inhabited, Repr

namespace Json

def int (value : Int) : Json := .number (.integer value)

/-- Puts a member where its key belongs; an earlier member of that key goes. -/
def insertMember (key : String) (value : Json) :
    List (String × Json) → List (String × Json)
  | [] => [(key, value)]
  | (k, v) :: rest =>
    if key = k then (key, value) :: rest
    else if key < k then (key, value) :: (k, v) :: rest
    else (k, v) :: insertMember key value rest

/-- What is put under a key is found there, and nothing else is touched. -/
theorem lookup_insertMember (key other : String) (value : Json) (members : List (String × Json)) :
    (insertMember key value members).lookup other =
      if other = key then some value else members.lookup other := by
  induction members with
  | nil =>
    by_cases same : other = key
    · simp [insertMember, same]
    · simp [insertMember, List.lookup_cons, same, beq_eq_false_iff_ne.mpr same]
  | cons member rest ih =>
    obtain ⟨k, v⟩ := member
    unfold insertMember
    split
    · rename_i here
      subst here
      by_cases same : other = key
      · simp [same]
      · simp [List.lookup_cons, same, beq_eq_false_iff_ne.mpr same]
    · split
      · by_cases same : other = key
        · simp [same]
        · simp [List.lookup_cons, same, beq_eq_false_iff_ne.mpr same]
      · rename_i differ _
        by_cases atHead : other = k
        · subst atHead
          simp [Ne.symm differ]
        · simp [List.lookup_cons, beq_eq_false_iff_ne.mpr atHead, ih]

/-- The object of some entries, the last one of each key. -/
def ofEntries (entries : List (String × Json)) : Json :=
  .object (entries.foldl (fun members (key, value) => insertMember key value members) [])

def get? (key : String) : Json → Option Json
  | .object members => members.lookup key
  | _ => none

def string? : Json → Option String
  | .string value => some value
  | _ => none

end Json

end PresenceSeal
