import PresenceSeal.Proofs.Json.Filling
import PresenceSeal.Proofs.Json.Layout
import PresenceSeal.Proofs.Json.Record

/-! Records are read from their texts and from nothing else. The two forms are apart: an object
goes member by member, a list goes item by item, and what either leaves in the draft decides
which record it was. -/
namespace PresenceSeal.Json

namespace Record

/-! ### Both forms -/

section

variable {record : Record σ α} {layout : Layout α} {budget : Nat}

/-- The object form is read from what stands between the braces for the record. -/
structure Objects (record : Record σ α) (layout : Layout α) (budget : Nat) : Prop where
  finds : Finds (record.readObject budget) fun x text =>
    ∃ inside, text = inside ++ ['\x7d'] ∧ layout.Members x inside
  takes : ∀ {x inside}, layout.Members x inside → ∀ rest,
    record.readObject budget (inside ++ '\x7d' :: rest) = .ok (x, rest)

/-- The list form is read from what stands between the brackets for the record. -/
structure Lists (record : Record σ α) (layout : Layout α) (budget : Nat) : Prop where
  finds : Finds (record.readList budget) fun x text =>
    ∃ inside, text = inside ++ [']'] ∧ layout.Items x inside
  takes : ∀ {x inside}, layout.Items x inside → ∀ rest,
    record.readList budget (inside ++ ']' :: rest) = .ok (x, rest)

theorem read_finds (objects : record.Objects layout budget)
    (same : record.positional = layout.positional)
    (lists : layout.positional = true → record.Lists layout budget) :
    Finds (record.read (budget + 1)) layout.Renders := by
  intro given x left read
  apply layout.roomy_renders.behind_blanks
  unfold Record.read at read
  split at read
  · cases read
  · rename_i begun
    obtain ⟨_, rfl, inside, rfl, members⟩ := objects.finds read
    exact ⟨'\x7b' :: inside ++ ['\x7d'], by simp [begun], .object members⟩
  · rename_i begun
    cases positional : record.positional with
    | false =>
      rw [positional] at read
      cases read
    | true =>
      rw [positional] at read
      have listed := same.symm.trans positional
      obtain ⟨_, rfl, inside, rfl, items⟩ := (lists listed).finds read
      exact ⟨'[' :: inside ++ [']'], by simp [begun], .list listed items⟩
  · cases read

/-- Whatever stands behind a record, the record is read. -/
theorem read_of_renders (objects : record.Objects layout budget)
    (same : record.positional = layout.positional)
    (lists : layout.positional = true → record.Lists layout budget) {x : α} {text : List Char}
    (renders : layout.Renders x text) {given rest : List Char}
    (behind : skipSpace given = skipSpace (text ++ rest)) :
    ∃ left, record.read (budget + 1) given = .ok (x, left) ∧ skipSpace left = skipSpace rest := by
  induction renders generalizing rest with
  | @blanks before text after front back renders ih =>
    rw [List.append_assoc, List.append_assoc, front.skip] at behind
    obtain ⟨left, read, remains⟩ := ih behind
    exact ⟨left, read, remains.trans (back.skip rest)⟩
  | object members =>
    refine ⟨rest, ?_, rfl⟩
    rw [blind_read record _ given _ behind, enclosed]
    exact objects.takes members rest
  | list positional items =>
    refine ⟨rest, ?_, rfl⟩
    rw [blind_read record _ given _ behind, enclosed, Record.read, skipSpace_cons rfl]
    simp only [same.trans positional, ↓reduceIte]
    exact (lists positional).takes items rest

theorem reads_of_forms (objects : record.Objects layout budget)
    (same : record.positional = layout.positional)
    (lists : layout.positional = true → record.Lists layout budget) :
    Reads (record.read (budget + 1)) layout.Renders where
  finds := read_finds objects same lists
  takes renders := fun _ _ _ behind => read_of_renders objects same lists renders behind
  roomy := layout.roomy_renders
  opens renders := renders.opens

/-! ### Objects -/

theorem lift_bind_eq_ok {x : Except Error β} {f : β → Reader γ} {text : List Char}
    {result : γ × List Char} (given : (liftM x >>= f : Reader γ) text = .ok result) :
    ∃ y, x = .ok y ∧ f y text = .ok result := by
  cases x with
  | error e => cases given
  | ok y => exact ⟨y, rfl, given⟩

theorem readObject_eq_ok {given left : List Char} {x : α}
    (read : record.readObject budget given = .ok (x, left)) :
    ∃ gathered behind,
      Reader.members (record.readMember budget) record.start given = .ok (gathered, behind) ∧
      record.finish gathered = .ok x ∧ Reader.closeObject behind = .ok ((), left) := by
  obtain ⟨gathered, behind, members, read⟩ := bind_eq_ok read
  refine ⟨gathered, behind, members, ?_⟩
  cases absent : record.missing? gathered with
  | some name =>
    rw [absent] at read
    cases read
  | none =>
    rw [absent] at read
    obtain ⟨y, finished, read⟩ := lift_bind_eq_ok read
    obtain ⟨_, _, closed, read⟩ := bind_eq_ok read
    cases read
    exact ⟨finished, closed⟩

theorem missing?_optional (optional : ∀ field ∈ record.fields, field.required = false)
    (gathered : σ) : record.missing? gathered = none := by
  rw [missing?, Option.map_eq_none_iff, List.find?_eq_none]
  intro field inside
  simp [optional field inside]

variable {step : σ → String → σ → List Char → Prop}

/-- If each member is read from its texts, then so is the object, provided that the members tell
the record that the last draft comes to. -/
theorem objects_of_steps (finds : FindsMember (record.readMember budget) step)
    (roomy : ∀ gathered key, Roomy (step gathered key))
    (takes : ∀ gathered key next text, step gathered key next text →
      Takes (record.readMember budget gathered key) next (':' :: text))
    (optional : ∀ field ∈ record.fields, field.required = false)
    (told : ∀ slots x, (∃ last, Trail step record.start slots last ∧ record.finish last = .ok x) ↔
      layout.Told x slots) :
    record.Objects layout budget where
  finds := by
    intro given x left read
    obtain ⟨last, behind, members, finished, closed⟩ := readObject_eq_ok read
    obtain ⟨inside, rest, rfl, rfl, roll⟩ := members_finds finds roomy members
    cases closed
    refine ⟨inside ++ ['\x7d'], by simp, inside, rfl, ?_⟩
    rcases roll with ⟨rfl, blanks⟩ | ⟨slots, filled, trail, rfl⟩
    · exact .inl ⟨blanks, (told [] x).mp ⟨_, .nil, finished⟩⟩
    · exact .inr ⟨slots, filled, (told slots x).mp ⟨last, trail, finished⟩, rfl⟩
  takes := by
    intro x inside members rest
    rcases members with ⟨blanks, nothing⟩ | ⟨slots, -, tells, rfl⟩
    · obtain ⟨last, trail, finished⟩ := (told [] x).mpr nothing
      have stands : Stands true [] '\x7d' rest (inside ++ '\x7d' :: rest) := blanks.skip _
      have read := (trail.gathers takes).members stands (Nat.succ_pos _)
      exact readObject_of_members read (missing?_optional optional _) finished
    · obtain ⟨last, trail, finished⟩ := (told slots x).mpr tells
      have read := (trail.gathers takes).members_commas rest
      exact readObject_of_members read (missing?_optional optional _) finished

end

/-! ### Fields -/

section

variable {record : Record σ α} {cells : List (Cell σ α)} {budget : Nat}

theorem find?_known {cell : Cell σ α} (fields : record.fields = cells.map Cell.field)
    (names : (cells.map (·.name)).Nodup) (inside : cell ∈ cells) :
    record.fields.find? (·.name == cell.name) = some cell.field := by
  rw [fields, List.find?_map, Option.map_eq_some_iff]
  refine ⟨cell, ?_, rfl⟩
  cases found : cells.find? ((·.name == cell.name) ∘ Cell.field) with
  | none => exact absurd (beq_self_eq_true cell.name) (List.find?_eq_none.mp found cell inside)
  | some other =>
    have same : other.name = cell.name := by
      have matched := List.find?_some found
      exact beq_iff_eq.mp matched
    rw [List.inj_on_of_nodup_map names (List.mem_of_find?_eq_some found) inside same]

theorem find?_unknown {key : String} (fields : record.fields = cells.map Cell.field)
    (unknown : key ∉ cells.map (·.name)) : record.fields.find? (·.name == key) = none := by
  rw [fields, List.find?_eq_none]
  refine List.forall_mem_map.mpr fun cell inside same => unknown ?_
  rw [← beq_iff_eq.mp same]
  exact List.mem_map_of_mem inside

variable {gathered : σ} {key : String} {cell : Cell σ α}

/-- A field is read if it has not been read yet, and takes what it tells. -/
theorem known_finds (found : record.fields.find? (·.name == key) = some cell.field)
    (reads : Reads (cell.reader budget) cell.tells) :
    Finds (record.readMember budget gathered key) fun next text =>
      ∃ before inside, Blanks before ∧ text = before ++ ':' :: inside ∧
        cell.get gathered = none ∧ ∃ v, next = cell.put gathered v ∧ cell.tells v inside := by
  cases kept : cell.get gathered with
  | some v =>
    intro given next left read
    simp only [readMember, found, Cell.field, kept, Option.isSome_some, if_true] at read
    cases read
  | none =>
    have member : record.readMember budget gathered key = (Reader.colon >>= fun _ =>
        cell.reader budget >>= fun v => pure (cell.put gathered v)) := by
      simp only [readMember, found, Cell.field, kept, Option.isSome_none, Bool.false_eq_true,
        ↓reduceIte]
    rw [member]
    refine reads.finds.followed.behind_colon.mono ?_
    rintro next text ⟨before, inside, blanks, same, v, put, tells⟩
    exact ⟨before, inside, blanks, same, rfl, v, put, tells⟩

theorem known_takes (found : record.fields.find? (·.name == key) = some cell.field)
    (reads : Reads (cell.reader budget) cell.tells) (fresh : cell.get gathered = none)
    {v : cell.Value} {text : List Char} (tells : cell.tells v text) :
    Takes (record.readMember budget gathered key) (cell.put gathered v) (':' :: text) := by
  apply takes_field found
  · simp only [Cell.field, fresh, Option.isSome_none]
  · exact (reads.takes tells).followed fun _ => rfl

/-- A record that is read into these fields, the other members of which are passed over. -/
structure Made (record : Record σ α) (cells : List (Cell σ α)) (budget : Nat) : Prop where
  fields : record.fields = cells.map Cell.field
  other : record.other = ignore
  apart : Cell.Apart cells
  reads : ∀ cell ∈ cells, Reads (cell.reader budget) cell.tells
  blank : ∀ cell ∈ cells, cell.get record.start = none
  finish : ∀ draft x, record.finish draft = .ok x ↔ ∀ cell ∈ cells, cell.Settles draft x

namespace Made

theorem member_finds (made : record.Made cells budget) :
    FindsMember (record.readMember budget) (Cell.Step cells Formed) := by
  intro gathered key
  by_cases known : key ∈ cells.map (·.name)
  · obtain ⟨cell, inside, rfl⟩ := List.mem_map.mp known
    have found := find?_known made.fields made.apart.names inside
    refine (known_finds found (made.reads cell inside)).mono ?_
    rintro next text ⟨before, told, blanks, same, fresh, v, rfl, tells⟩
    exact ⟨before, told, blanks, same, .field inside fresh tells⟩
  · have member : record.readMember budget gathered key =
        (Reader.colon >>= fun _ => Reader.skip >>= fun _ => pure gathered) := by
      simp only [readMember, find?_unknown made.fields known, made.other, ignore]
    rw [member]
    refine skip_finds.followed.behind_colon.mono ?_
    rintro next text ⟨before, inside, blanks, same, _, rfl, formed⟩
    exact ⟨before, inside, blanks, same, .other known formed⟩

theorem member_takes (made : record.Made cells budget) {next : σ} {text : List Char}
    (step : Cell.Step cells Formed gathered key next text) :
    Takes (record.readMember budget gathered key) next (':' :: text) := by
  cases step with
  | field inside fresh tells =>
    have found := find?_known made.fields made.apart.names inside
    exact known_takes found (made.reads _ inside) fresh tells
  | other unknown formed =>
    exact takes_ignored made.other (find?_unknown made.fields unknown) formed

theorem told_iff (made : record.Made cells budget) {positional : Bool} (slots : List Slot) (x : α) :
    (∃ last, Trail (Cell.Step cells Formed) record.start slots last ∧ record.finish last = .ok x) ↔
      (Cell.layout cells Formed positional).Told x slots := by
  constructor
  · rintro ⟨last, trail, finished⟩
    exact Cell.told_of_trail made.apart trail made.blank ((made.finish last x).mp finished)
  · intro told
    obtain ⟨last, trail, settles⟩ := Cell.trail_of_told made.apart told made.blank
    exact ⟨last, trail, (made.finish last x).mpr settles⟩

theorem optional (made : record.Made cells budget) :
    ∀ field ∈ record.fields, field.required = false := by
  rw [made.fields]
  exact List.forall_mem_map.mpr fun _ _ => rfl

theorem objects (made : record.Made cells budget) {positional : Bool} :
    record.Objects (Cell.layout cells Formed positional) budget :=
  objects_of_steps made.member_finds
    (fun _ _ =>
      Cell.roomy_step cells (fun cell inside => (made.reads cell inside).roomy) roomy_formed)
    (fun _ _ _ _ => made.member_takes) made.optional made.told_iff

/-! ### Lists -/

theorem fills (reads : ∀ cell ∈ cells, Reads (cell.reader budget) cell.tells) {draft last : σ}
    {texts : List (List Char)} (fed : Cell.Fed cells draft texts last) :
    Fills budget (cells.map Cell.field) draft texts last := by
  induction fed with
  | short => exact .short (List.forall_mem_map.mpr fun _ _ => rfl)
  | cons tells _ ih =>
    obtain ⟨first, others⟩ := List.forall_mem_cons.mp reads
    exact .cons (first.opens tells) ((first.takes tells).followed fun _ => rfl) (ih others)

theorem closeList_finds : Finds Reader.closeList fun _ text =>
    ∃ before, Blanks before ∧ text = before ++ [']'] := by
  intro given _ left read
  obtain ⟨before, blanks, given_eq⟩ := exists_blanks given
  unfold Reader.closeList at read
  split at read
  · cases read
  · rename_i rest same
    cases read
    rw [same] at given_eq
    exact ⟨before ++ [']'], by simpa using given_eq, before, blanks, rfl⟩
  · split at read <;> cases read
  · cases read

/-- When there are no more items, the fields that are left are not read. -/
theorem readFields_closed {index : Nat} {given rest left : List Char} {draft last : σ}
    (closed : given = ']' :: rest)
    (read : record.readFields budget (cells.map Cell.field) index draft given = .ok (last, left)) :
    last = draft ∧ left = given := by
  subst closed
  induction cells generalizing index with
  | nil =>
    cases read
    exact ⟨rfl, rfl⟩
  | cons cell cells ih =>
    have none : Reader.anotherItem (index == 0) (']' :: rest) = .ok (false, ']' :: rest) := rfl
    rw [List.map_cons, readFields, bind_of_ok none] at read
    exact ih read

theorem readFields_finds (reads : ∀ cell ∈ cells, Reads (cell.reader budget) cell.tells)
    {index : Nat} {given left after : List Char} {draft last : σ}
    (read : record.readFields budget (cells.map Cell.field) index draft given = .ok (last, left))
    (closed : Reader.closeList left = .ok ((), after)) :
    ∃ before texts, Blanks before ∧ Cell.Fed cells draft texts last ∧
      given = before ++ joined (index == 0) texts ++ ']' :: after := by
  induction cells generalizing index given draft with
  | nil =>
    cases read
    obtain ⟨_, rfl, before, blanks, rfl⟩ := closeList_finds closed
    exact ⟨before, [], blanks, .short, by simp [joined_nil]⟩
  | cons cell cells ih =>
    obtain ⟨first, others⟩ := List.forall_mem_cons.mp reads
    rw [List.map_cons, readFields] at read
    obtain ⟨more, middle, another, reading⟩ := bind_eq_ok read
    cases more with
    | false =>
      obtain ⟨before, rest, blanks, rfl, rfl⟩ := anotherItem_false another
      obtain ⟨rfl, rfl⟩ := readFields_closed rfl reading
      cases closed
      refine ⟨before, [], blanks, .short, ?_⟩
      rw [joined_nil, List.append_nil]
    | true =>
      obtain ⟨next, behind, one, reading⟩ := bind_eq_ok reading
      obtain ⟨before, front, blanks, frontBlanks, rfl⟩ := anotherItem_true another
      obtain ⟨text, rfl, v, rfl, tells⟩ := first.finds.followed one
      obtain ⟨back, texts, backBlanks, fed, rfl⟩ := ih others reading
      refine ⟨before, (front ++ text ++ back) :: texts, blanks,
        .cons (first.roomy frontBlanks backBlanks tells) fed, ?_⟩
      rw [joined_cons]
      simp

theorem lists (made : record.Made cells budget) {positional : Bool} :
    record.Lists (Cell.layout cells Formed positional) budget where
  finds := by
    intro given x left read
    rw [readList, made.fields] at read
    obtain ⟨last, behind, items, read⟩ := bind_eq_ok read
    obtain ⟨y, finished, read⟩ := lift_bind_eq_ok read
    obtain ⟨_, _, closed, read⟩ := bind_eq_ok read
    cases read
    obtain ⟨before, texts, blanks, fed, rfl⟩ := readFields_finds made.reads items closed
    have settles := (made.finish last x).mp finished
    cases texts with
    | nil =>
      have listed := fed.listed made.apart made.blank settles
      exact ⟨before ++ [']'], by simp [joined_nil], before, rfl, .inl ⟨blanks, listed⟩⟩
    | cons text texts =>
      have roomy : ∀ cell ∈ cells, Roomy cell.tells :=
        fun cell inside => (made.reads cell inside).roomy
      have listed := (fed.behind_blanks roomy blanks).listed made.apart made.blank settles
      refine ⟨commas ((before ++ text) :: texts) ++ [']'], ?_, _, rfl,
        .inr ⟨_, List.cons_ne_nil _ _, listed, rfl⟩⟩
      rw [← commas_cons_append]
      simp [joined]
  takes := by
    intro x inside items rest
    obtain ⟨texts, listed, stands⟩ : ∃ texts, Layout.Listed x (cells.map Cell.clause) texts ∧
        Stands (0 == 0) texts ']' rest (inside ++ ']' :: rest) := by
      rcases items with ⟨blanks, listed⟩ | ⟨texts, -, listed, rfl⟩
      · exact ⟨[], listed, blanks.skip _⟩
      · exact ⟨texts, listed, rfl⟩
    obtain ⟨last, fed, settles⟩ := Cell.fed_of_listed made.apart listed made.blank
    have filled := fills made.reads fed
    rw [← made.fields] at filled
    obtain ⟨left, read, closed⟩ := filled.readFields stands
    rw [readList, bind_of_ok read, (made.finish last x).mpr settles]
    change (Reader.closeList left >>= fun p => Except.ok (x, p.2)) = _
    rw [closeList_behind closed]
    rfl

/-- The record is read from the texts of its layout, and only from them. -/
theorem reads_layout (made : record.Made cells budget) :
    Reads (record.read (budget + 1)) (Cell.layout cells Formed record.positional).Renders :=
  reads_of_forms made.objects rfl fun _ => made.lists

end Made

end

end Record

end PresenceSeal.Json
