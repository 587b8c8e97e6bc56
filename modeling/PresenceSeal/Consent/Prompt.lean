import PresenceSeal.Json.Record

/-! The text that asks a user for consent. Each half has a default of its own. -/
namespace PresenceSeal

structure Prompt where
  title : String := "Biometric authentication"
  description : String := "Confirm your identity to unlock encrypted data"
  deriving DecidableEq, Repr

namespace Prompt

structure Draft where
  title : Option String := none
  description : Option String := none

/-- The prompt of a draft; what it lacks takes its default. -/
def Draft.prompt (draft : Draft) : Prompt :=
  let usual : Prompt := {}
  ⟨draft.title.getD usual.title, draft.description.getD usual.description⟩

/-- How a prompt is read. -/
def record : Json.Record Draft Prompt where
  title := "ConsentPrompt"
  fields := [
    { name := "title"
      seen := fun draft => draft.title.isSome
      read := fun draft _ => do
        let title ← Json.Reader.string "a string"
        pure { draft with title := some title } },
    { name := "description"
      seen := fun draft => draft.description.isSome
      read := fun draft _ => do
        let description ← Json.Reader.string "a string"
        pure { draft with description := some description } }]
  other := Json.Record.ignore
  start := {}
  finish draft := .ok draft.prompt

def parse (text : List Char) : Except Json.Error Prompt := Json.document record.read text

/-- What a kept value is, as it reads in messages. -/
def foundIn : Json → Json.Found
  | .null => .null
  | .bool value => .bool value
  | .number value => .number value
  | .string value => .string value
  | .array _ => .sequence
  | .object _ => .map

/-- A string among values that have been kept. -/
def keptString : Json → Except Json.Error String
  | .string value => .ok value
  | value => .error (.invalidType (foundIn value) "a string")

/-- Fills a draft from members that have been kept, in their order. Other members
are passed over. -/
def Draft.fill (draft : Draft) : List (String × Json) → Except Json.Error Draft
  | [] => .ok draft
  | (key, value) :: rest =>
    if key = "title" then
      if draft.title.isSome then .error (.duplicateField key)
      else do
        let title ← keptString value
        Draft.fill { draft with title := some title } rest
    else if key = "description" then
      if draft.description.isSome then .error (.duplicateField key)
      else do
        let description ← keptString value
        Draft.fill { draft with description := some description } rest
    else draft.fill rest

def ofMembers (members : List (String × Json)) : Except Json.Error Prompt :=
  (Draft.fill {} members).map Draft.prompt

end Prompt

end PresenceSeal
