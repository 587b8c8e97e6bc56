import PresenceSeal.Json.Record
import PresenceSeal.Proofs.Json.Skipping

/-! Records however they are written. An object gives its members in any order, a list gives
the texts of the fields in theirs, and both come to what the fields make of the texts. -/
namespace PresenceSeal.Json.Record

section

variable {record : Record σ α} {budget : Nat} {gathered next : σ} {key : String}

theorem blind_read (record : Record σ α) (budget : Nat) : Blind (record.read budget) := by
  intro given other same
  unfold Record.read
  rw [same]

/-! ### Objects -/

/-- A field that has not been read yet is read behind its colon. -/
theorem takes_field {field : Field σ} {text : List Char}
    (found : record.fields.find? (·.name == key) = some field)
    (fresh : field.seen gathered = false) (takes : Takes (field.read gathered budget) next text) :
    Takes (record.readMember budget gathered key) next (':' :: text) := by
  have member : record.readMember budget gathered key =
      (Reader.colon >>= fun _ => field.read gathered budget) := by
    simp only [readMember, found, fresh, Bool.false_eq_true, ↓reduceIte]
  rw [member]
  exact takes.behind_colon

theorem takes_ignored {text : List Char} (other : record.other = ignore)
    (unknown : record.fields.find? (·.name == key) = none) (formed : Formed text) :
    Takes (record.readMember budget gathered key) gathered (':' :: text) := by
  have member : record.readMember budget gathered key =
      (Reader.colon >>= fun _ => Reader.skip >>= fun _ => pure gathered) := by
    simp only [readMember, unknown, other, ignore]
  have takes : Takes (Reader.skip >>= fun _ => pure gathered) gathered text :=
    formed.skips.followed fun _ => rfl
  rw [member]
  exact takes.behind_colon

theorem readObject_of_members {x : α} {inside rest : List Char}
    (members : Reader.members (record.readMember budget) record.start inside =
      .ok (gathered, '\x7d' :: rest))
    (complete : record.missing? gathered = none) (finished : record.finish gathered = .ok x) :
    record.readObject budget inside = .ok (x, rest) := by
  rw [readObject, bind_of_ok members]
  simp only [complete, finished]
  rfl

theorem takes_object {x : α} {slots : List Slot}
    (gathers : Gathers (record.readMember budget) record.start slots gathered)
    (complete : record.missing? gathered = none) (finished : record.finish gathered = .ok x) :
    Takes (record.read (budget + 1)) x ('\x7b' :: commas (slots.map Slot.spell) ++ ['\x7d']) := by
  apply Takes.of_exact (blind_read record _)
  intro rest _
  rw [enclosed]
  exact readObject_of_members (gathers.members_commas rest) complete finished

end

/-! ### Lists -/

/-- Texts fill fields in their order. Fields that are left out at the end are not required. -/
inductive Fills (budget : Nat) : List (Field σ) → σ → List (List Char) → σ → Prop where
  | short {fields : List (Field σ)} {gathered} : (∀ field ∈ fields, field.required = false) →
      Fills budget fields gathered [] gathered
  | cons {field fields gathered text next texts last} : Opens text →
      Takes (field.read gathered budget) next text → Fills budget fields next texts last →
      Fills budget (field :: fields) gathered (text :: texts) last

section

variable {record : Record σ α} {budget : Nat} {fields : List (Field σ)} {gathered last : σ}
  {texts : List (List Char)}

theorem readFields_short (optional : ∀ field ∈ fields, field.required = false) {index : Nat}
    {given rest : List Char} (stands : Stands (index == 0) [] ']' rest given) :
    ∃ left, record.readFields budget fields index gathered given = .ok (gathered, left) ∧
      skipSpace left = ']' :: rest := by
  induction fields generalizing index given with
  | nil => exact ⟨given, rfl, stands.closed (.inl rfl)⟩
  | cons field fields ih =>
    obtain ⟨first, others⟩ := List.forall_mem_cons.mp optional
    obtain ⟨left, read, closed⟩ := ih others (show Stands (index + 1 == 0) [] ']' rest _ from rfl)
    refine ⟨left, ?_, closed⟩
    rw [readFields, bind_of_ok stands.noItem, first]
    exact read

theorem Fills.readFields (fills : Fills budget fields gathered texts last) {index : Nat}
    {given rest : List Char} (stands : Stands (index == 0) texts ']' rest given) :
    ∃ left, record.readFields budget fields index gathered given = .ok (last, left) ∧
      skipSpace left = ']' :: rest := by
  induction fills generalizing given index with
  | short optional => exact readFields_short optional stands
  | cons opens takes _ ih =>
    obtain ⟨left, read, remains⟩ := takes.stands (.inl rfl) (skipSpace_skipSpace _)
    obtain ⟨left', reads, closed⟩ := ih (show Stands (index + 1 == 0) _ ']' rest left from remains)
    refine ⟨left', ?_, closed⟩
    rw [Record.readFields, bind_of_ok (stands.anotherItem opens), if_pos rfl, bind_of_ok read,
      reads]

theorem closeList_behind {given rest : List Char} (same : skipSpace given = ']' :: rest) :
    Reader.closeList given = .ok ((), rest) := by
  rw [Reader.closeList, same]
  rfl

theorem takes_list {x : α} (fills : Fills budget record.fields record.start texts last)
    (positional : record.positional = true)
    (finished : record.finish last = .ok x) :
    Takes (record.read (budget + 1)) x ('[' :: commas texts ++ [']']) := by
  apply Takes.of_exact (blind_read record _)
  intro rest _
  have stands : Stands (0 == 0) texts ']' rest (commas texts ++ ']' :: rest) := rfl
  obtain ⟨left, reads, closed⟩ := fills.readFields stands
  have list : record.readList budget (commas texts ++ ']' :: rest) = .ok (x, rest) := by
    rw [readList, bind_of_ok reads, finished]
    change (Reader.closeList left >>= fun p => Except.ok (x, p.2)) = _
    rw [closeList_behind closed]
    rfl
  rw [enclosed, Record.read, skipSpace_cons rfl]
  simp only [positional, ↓reduceIte]
  exact list

end

end PresenceSeal.Json.Record
