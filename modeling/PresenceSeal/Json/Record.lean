import PresenceSeal.Json.Reader

/-! Records are read from an object, whose members may come in any order and of
which unknown ones are passed over, or from a list of the fields in their declared
order, of which the last ones may be missing. A known field given twice and a
required field not given are errors. What has been read so far is gathered in a
value of type `σ`. -/
namespace PresenceSeal.Json

/-- One field: whether it has been read already, and how it is read. -/
structure Field (σ : Type) where
  name : String
  /-- A required field has no default. -/
  required : Bool := false
  seen : σ → Bool
  read : σ → Decoder σ

/-- How a record is read. -/
structure Record (σ α : Type) where
  title : String
  fields : List (Field σ)
  /-- Whether the record may be written as a list. -/
  positional : Bool := true
  /-- What is done with a member that is no field; its key has been read. -/
  other : σ → String → Decoder σ
  start : σ
  /-- The record, from what was gathered. -/
  finish : σ → Except Error α

namespace Record

/-- A member that is no field is passed over. -/
def ignore (gathered : σ) (_ : String) : Decoder σ := fun _ => do
  Reader.colon
  Reader.skip
  pure gathered

/-- One member of the object form. -/
def readMember (record : Record σ α) (budget : Nat) (gathered : σ) (key : String) : Reader σ :=
  match record.fields.find? (·.name == key) with
  | some field =>
    if field.seen gathered then throw (.duplicateField key)
    else do
      Reader.colon
      field.read gathered budget
  | none => record.other gathered key budget

def missing? (record : Record σ α) (gathered : σ) : Option String :=
  (record.fields.find? fun field => field.required && !field.seen gathered).map (·.name)

/-- The object form; its brace has been read. -/
def readObject (record : Record σ α) : Decoder α := fun budget => do
  let gathered ← Reader.members (record.readMember budget) record.start
  match record.missing? gathered with
  | some name => throw (.missingField name)
  | none =>
    let x ← record.finish gathered
    Reader.closeObject
    pure x

/-- The fields of the list form from the one at `index` on. -/
def readFields (record : Record σ α) (budget : Nat) : List (Field σ) → Nat → σ → Reader σ
  | [], _, gathered => pure gathered
  | field :: rest, index, gathered => do
    if ← Reader.anotherItem (index == 0) then
      let gathered ← field.read gathered budget
      readFields record budget rest (index + 1) gathered
    else if field.required then
      throw (.invalidLength index record.title record.fields.length)
    else readFields record budget rest (index + 1) gathered

/-- The list form; its bracket has been read. -/
def readList (record : Record σ α) : Decoder α := fun budget => do
  let gathered ← record.readFields budget record.fields 0 record.start
  let x ← record.finish gathered
  Reader.closeList
  pure x

/-- The record in either form. -/
def read (record : Record σ α) : Decoder α := fun budget text =>
  match skipSpace text with
  | [] => .error .endInValue
  | '\x7b' :: rest =>
    match budget with
    | 0 => .error .recursionLimit
    | budget + 1 => record.readObject budget rest
  | '[' :: rest =>
    if record.positional then
      match budget with
      | 0 => .error .recursionLimit
      | budget + 1 => record.readList budget rest
    else .error (.invalidType .sequence ("struct " ++ record.title))
  | text => .error (Reader.mismatch ("struct " ++ record.title) text)

end Record

end PresenceSeal.Json
