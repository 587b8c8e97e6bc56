import PresenceSeal.Json.Record
import PresenceSeal.Proofs.Json.Typed

/-! How a record is written. An object tells its fields in any order, each at most once, among
members that are no fields; a list tells the first of them in their order. What is not told is
as usual. -/
namespace PresenceSeal.Json

/-- One field: the texts of what a record has there, and whether the record may keep silent
about it because that is the default. -/
structure Clause (α : Type) where
  name : String
  tells : α → List Char → Prop
  usual : α → Prop

structure Layout (α : Type) where
  clauses : List (Clause α)
  /-- What may stand behind the colon of a member that is no field. -/
  other : List Char → Prop := Formed
  /-- Whether the record may be written as a list. -/
  positional : Bool := true

namespace Layout

def names (layout : Layout α) : List String := layout.clauses.map (·.name)

/-- That members tell a record. -/
structure Told (layout : Layout α) (x : α) (slots : List Slot) : Prop where
  named : ∀ slot ∈ slots, slot.Named
  field : ∀ clause ∈ layout.clauses, ∀ slot ∈ slots, slot.name = clause.name →
    clause.tells x slot.text
  other : ∀ slot ∈ slots, slot.name ∉ layout.names → layout.other slot.text
  once : ((slots.map (·.name)).filter (· ∈ layout.names)).Nodup
  silent : ∀ clause ∈ layout.clauses, clause.name ∉ slots.map (·.name) → clause.usual x

/-- What stands between the braces of an object that tells a record. -/
def Members (layout : Layout α) (x : α) (inside : List Char) : Prop :=
  (Blanks inside ∧ layout.Told x []) ∨
    ∃ slots : List Slot, slots ≠ [] ∧ layout.Told x slots ∧ inside = commas (slots.map Slot.spell)

/-- Texts that tell the first of some fields, one by one. -/
inductive Listed (x : α) : List (Clause α) → List (List Char) → Prop where
  | short {clauses : List (Clause α)} : (∀ clause ∈ clauses, clause.usual x) →
      Listed x clauses []
  | cons {clause clauses text texts} : clause.tells x text → Listed x clauses texts →
      Listed x (clause :: clauses) (text :: texts)

/-- What stands between the brackets of a list that tells a record. -/
def Items (layout : Layout α) (x : α) (inside : List Char) : Prop :=
  (Blanks inside ∧ Listed x layout.clauses []) ∨
    ∃ texts : List (List Char), texts ≠ [] ∧ Listed x layout.clauses texts ∧ inside = commas texts

/-- The ways to write a record. -/
inductive Renders (layout : Layout α) (x : α) : List Char → Prop where
  | blanks {before text after} : Blanks before → Blanks after → layout.Renders x text →
      layout.Renders x (before ++ text ++ after)
  | object {inside} : layout.Members x inside → layout.Renders x ('\x7b' :: inside ++ ['\x7d'])
  | list {inside} : layout.positional = true → layout.Items x inside →
      layout.Renders x ('[' :: inside ++ [']'])

theorem roomy_renders (layout : Layout α) : Roomy layout.Renders :=
  fun _ _ _ _ front back => .blanks front back

theorem Renders.opens {layout : Layout α} {x : α} {text : List Char}
    (renders : layout.Renders x text) : Opens text := by
  induction renders with
  | blanks front _ _ ih => exact .blanks front ih
  | _ => exact .of_begins ⟨_, _, rfl, rfl, by decide⟩

end Layout

/-! ### Drafts -/

/-- A field of a record that is being read, with what it has to do with the record: where the
draft keeps what has been read, how it is read and written, and what the finished record has. -/
structure Cell (σ α : Type) where
  name : String
  Value : Type
  get : σ → Option Value
  put : σ → Value → σ
  reader : Decoder Value
  tells : Value → List Char → Prop
  value : α → Value
  usual : Value

namespace Cell

def field (cell : Cell σ α) : Field σ where
  name := cell.name
  seen draft := (cell.get draft).isSome
  read draft budget := do
    let v ← cell.reader budget
    pure (cell.put draft v)

def clause (cell : Cell σ α) : Clause α where
  name := cell.name
  tells x := cell.tells (cell.value x)
  usual x := cell.value x = cell.usual

/-- What a record has in a field, from what has been read of it. -/
def Settles (cell : Cell σ α) (draft : σ) (x : α) : Prop :=
  cell.value x = (cell.get draft).getD cell.usual

/-- Fields that do not get in each other's way. -/
structure Apart (cells : List (Cell σ α)) : Prop where
  names : (cells.map (·.name)).Nodup
  get_put : ∀ cell ∈ cells, ∀ draft v, cell.get (cell.put draft v) = some v
  get_put_other : ∀ cell ∈ cells, ∀ other ∈ cells, other.name ≠ cell.name →
    ∀ draft v, other.get (cell.put draft v) = other.get draft

variable {cells : List (Cell σ α)}

theorem Apart.eq_of_name (apart : Apart cells) {cell other : Cell σ α} (inside : cell ∈ cells)
    (among : other ∈ cells) (same : cell.name = other.name) : cell = other :=
  List.inj_on_of_nodup_map apart.names inside among same

/-! ### Members -/

/-- One member of an object: a field that has not been read yet, or no field. -/
inductive Step (cells : List (Cell σ α)) (other : List Char → Prop) (draft : σ) :
    String → σ → List Char → Prop where
  | field {cell v text} : cell ∈ cells → cell.get draft = none → cell.tells v text →
      Step cells other draft cell.name (cell.put draft v) text
  | other {name text} : name ∉ cells.map (·.name) → other text →
      Step cells other draft name draft text

variable {other : List Char → Prop} {draft next start last : σ} {name : String}
  {text : List Char} {slots : List Slot} {cell : Cell σ α}

theorem roomy_step (cells : List (Cell σ α)) (tells : ∀ cell ∈ cells, Roomy cell.tells)
    (others : Roomy fun (_ : Unit) => other) : Roomy (Step cells other draft name) := by
  intro next before text after front back step
  cases step with
  | field inside fresh told => exact .field inside fresh (tells _ inside front back told)
  | other unknown allowed => exact .other unknown (others (x := ()) front back allowed)

theorem Step.get_ne (step : Step cells other draft name next text) (apart : Apart cells)
    (inside : cell ∈ cells) (differs : cell.name ≠ name) : cell.get next = cell.get draft := by
  cases step with
  | field among => exact apart.get_put_other _ among _ inside differs _ _
  | other => rfl

theorem Step.get_eq (step : Step cells other draft cell.name next text) (apart : Apart cells)
    (inside : cell ∈ cells) :
    cell.get draft = none ∧ ∃ v, cell.get next = some v ∧ cell.tells v text := by
  generalize same : cell.name = name at step
  cases step with
  | @field among v _ listed fresh tells =>
    obtain rfl := apart.eq_of_name inside listed same
    exact ⟨fresh, v, apart.get_put _ inside _ _, tells⟩
  | other unknown =>
    rw [← same] at unknown
    exact absurd (List.mem_map_of_mem inside) unknown

theorem Step.allowed (step : Step cells other draft name next text)
    (unknown : name ∉ cells.map (·.name)) : other text := by
  cases step with
  | field inside => exact absurd (List.mem_map_of_mem inside) unknown
  | other _ allowed => exact allowed

/-- What has been read stays, and its name does not come again. -/
theorem get_of_trail (apart : Apart cells) (inside : cell ∈ cells)
    (trail : Trail (Step cells other) start slots last) {v : cell.Value}
    (kept : cell.get start = some v) : cell.get last = some v ∧ cell.name ∉ slots.map (·.name) := by
  induction trail with
  | nil => exact ⟨kept, List.not_mem_nil⟩
  | @cons gathered slot next slots last _ step _ ih =>
    have differs : cell.name ≠ slot.name := by
      intro same
      rw [← same] at step
      rw [(step.get_eq apart inside).1] at kept
      cases kept
    obtain ⟨stays, absent⟩ := ih ((step.get_ne apart inside differs).trans kept)
    rw [List.map_cons, List.mem_cons, not_or]
    exact ⟨stays, differs, absent⟩

theorem get_of_silent (apart : Apart cells) (inside : cell ∈ cells)
    (trail : Trail (Step cells other) start slots last)
    (silent : cell.name ∉ slots.map (·.name)) : cell.get last = cell.get start := by
  induction trail with
  | nil => rfl
  | cons _ step _ ih =>
    rw [List.map_cons, List.mem_cons, not_or] at silent
    rw [ih silent.2, step.get_ne apart inside silent.1]

/-- What a member tells is in the draft at the end. -/
theorem get_of_told (apart : Apart cells) (inside : cell ∈ cells)
    (trail : Trail (Step cells other) start slots last) :
    ∀ slot ∈ slots, slot.name = cell.name →
      ∃ v, cell.get last = some v ∧ cell.tells v slot.text := by
  induction trail with
  | nil => nofun
  | @cons gathered slot next slots last _ step others ih =>
    refine List.forall_mem_cons.mpr ⟨?_, ih⟩
    intro same
    rw [same] at step
    obtain ⟨-, v, put, tells⟩ := step.get_eq apart inside
    exact ⟨v, (get_of_trail apart inside others put).1, tells⟩

theorem other_of_trail (trail : Trail (Step cells other) start slots last) :
    ∀ slot ∈ slots, slot.name ∉ cells.map (·.name) → other slot.text := by
  induction trail with
  | nil => nofun
  | cons _ step _ ih =>
    refine List.forall_mem_cons.mpr ⟨?_, ih⟩
    exact step.allowed

theorem nodup_of_trail (apart : Apart cells) (trail : Trail (Step cells other) start slots last) :
    ((slots.map (·.name)).filter (· ∈ cells.map (·.name))).Nodup := by
  induction trail with
  | nil => exact .nil
  | @cons gathered slot next slots last _ step others ih =>
    rw [List.map_cons, List.filter_cons]
    split
    · rename_i known
      obtain ⟨cell, inside, same⟩ := List.mem_map.mp (of_decide_eq_true known)
      rw [← same] at step
      obtain ⟨-, v, put, -⟩ := step.get_eq apart inside
      have absent := (get_of_trail apart inside others put).2
      rw [same] at absent
      exact List.nodup_cons.mpr ⟨fun again => absent (List.mem_of_mem_filter again), ih⟩
    · exact ih

theorem named_of_trail {step : σ → String → σ → List Char → Prop}
    (trail : Trail step start slots last) :
    ∀ slot ∈ slots, slot.Named := by
  induction trail with
  | nil => nofun
  | cons named _ _ ih => exact List.forall_mem_cons.mpr ⟨named, ih⟩

/-- The layout of a record with these fields. -/
def layout (cells : List (Cell σ α)) (other : List Char → Prop) (positional : Bool) : Layout α :=
  ⟨cells.map clause, other, positional⟩

theorem names_layout (positional : Bool) :
    (layout cells other positional).names = cells.map (·.name) := by
  simp [Layout.names, layout, clause]

/-- Members that have been read tell what has been made of them. -/
theorem told_of_trail (apart : Apart cells) {positional : Bool}
    (trail : Trail (Step cells other) start slots last)
    (blank : ∀ cell ∈ cells, cell.get start = none) {x : α}
    (settles : ∀ cell ∈ cells, cell.Settles last x) :
    (layout cells other positional).Told x slots where
  named := named_of_trail trail
  field := by
    refine List.forall_mem_map.mpr fun cell inside slot member same => ?_
    obtain ⟨v, put, tells⟩ := get_of_told apart inside trail slot member same
    have settled := settles cell inside
    rw [Settles, put] at settled
    change cell.tells (cell.value x) slot.text
    rw [settled]
    exact tells
  other := by
    rw [names_layout]
    exact other_of_trail trail
  once := by
    rw [names_layout]
    exact nodup_of_trail apart trail
  silent := by
    refine List.forall_mem_map.mpr fun cell inside silent => ?_
    have settled := settles cell inside
    rw [Settles, get_of_silent apart inside trail silent, blank cell inside] at settled
    exact settled

/-- Members that tell a record are read, each field as the record has it. -/
theorem exists_trail (apart : Apart cells) (x : α) (named : ∀ slot ∈ slots, slot.Named)
    (field : ∀ cell ∈ cells, ∀ slot ∈ slots, slot.name = cell.name →
      cell.tells (cell.value x) slot.text)
    (others : ∀ slot ∈ slots, slot.name ∉ cells.map (·.name) → other slot.text)
    (once : ((slots.map (·.name)).filter (· ∈ cells.map (·.name))).Nodup)
    (fresh : ∀ cell ∈ cells, cell.name ∈ slots.map (·.name) → cell.get start = none) :
    ∃ last, Trail (Step cells other) start slots last ∧ ∀ cell ∈ cells, cell.get last =
      if cell.name ∈ slots.map (·.name) then some (cell.value x) else cell.get start := by
  induction slots generalizing start with
  | nil => exact ⟨start, .nil, fun _ _ => rfl⟩
  | cons slot slots ih =>
    obtain ⟨name, names⟩ := List.forall_mem_cons.mp named
    obtain ⟨first, rest⟩ := List.forall_mem_cons.mp others
    have laters : ∀ cell ∈ cells, ∀ slot ∈ slots, slot.name = cell.name →
        cell.tells (cell.value x) slot.text :=
      fun cell inside slot member => field cell inside slot (List.mem_cons_of_mem _ member)
    by_cases known : slot.name ∈ cells.map (·.name)
    · rw [List.map_cons, List.filter_cons, if_pos (decide_eq_true known), List.nodup_cons] at once
      obtain ⟨single, once⟩ := once
      have absent : slot.name ∉ slots.map (·.name) :=
        fun again => single (List.mem_filter.mpr ⟨again, decide_eq_true known⟩)
      obtain ⟨here, inside, same⟩ := List.mem_map.mp known
      have unread : here.get start = none := fresh here inside (same ▸ List.mem_cons_self)
      have step : Step cells other start slot.name (here.put start (here.value x)) slot.text := by
        rw [← same]
        exact .field inside unread (field here inside slot List.mem_cons_self same.symm)
      have stays : ∀ cell ∈ cells, cell.name ≠ slot.name →
          cell.get (here.put start (here.value x)) = cell.get start :=
        fun cell among differs => step.get_ne apart among differs
      have untold : ∀ cell ∈ cells, cell.name ∈ slots.map (·.name) →
          cell.get (here.put start (here.value x)) = none := by
        intro cell among told
        have differs : cell.name ≠ slot.name := fun same => absent (same ▸ told)
        rw [stays cell among differs]
        exact fresh cell among (List.mem_cons_of_mem _ told)
      obtain ⟨last, trail, gets⟩ := ih names laters rest once untold
      refine ⟨last, .cons name step trail, ?_⟩
      intro cell among
      rw [gets cell among]
      by_cases head : cell.name = slot.name
      · obtain rfl := apart.eq_of_name among inside (head.trans same.symm)
        rw [if_neg (head ▸ absent), List.map_cons, if_pos (head ▸ List.mem_cons_self)]
        exact apart.get_put cell inside _ _
      · simp only [List.map_cons, List.mem_cons, head, false_or, stays cell among head]
    · rw [List.map_cons, List.filter_cons, if_neg (by simpa using known)] at once
      have step : Step cells other start slot.name start slot.text := .other known (first known)
      obtain ⟨last, trail, gets⟩ := ih names laters rest once fun cell inside told =>
        fresh cell inside (List.mem_cons_of_mem _ told)
      refine ⟨last, .cons name step trail, ?_⟩
      intro cell among
      have differs : cell.name ≠ slot.name :=
        fun same => known (same ▸ List.mem_map_of_mem among)
      simp only [gets cell among, List.map_cons, List.mem_cons, differs, false_or]

theorem trail_of_told (apart : Apart cells) {positional : Bool} {x : α}
    (told : (layout cells other positional).Told x slots)
    (blank : ∀ cell ∈ cells, cell.get start = none) :
    ∃ last, Trail (Step cells other) start slots last ∧ ∀ cell ∈ cells, cell.Settles last x := by
  obtain ⟨named, field, others, once, silent⟩ := told
  rw [names_layout] at others once
  have fields : ∀ cell ∈ cells, ∀ slot ∈ slots, slot.name = cell.name →
      cell.tells (cell.value x) slot.text := List.forall_mem_map.mp field
  obtain ⟨last, trail, gets⟩ :=
    exists_trail apart x named fields others once fun cell inside _ => blank cell inside
  refine ⟨last, trail, ?_⟩
  intro cell inside
  rw [Settles, gets cell inside]
  split
  · rfl
  · rename_i absent
    rw [blank cell inside]
    exact List.forall_mem_map.mp silent cell inside absent

/-! ### Items -/

/-- Items that are read into fields, one by one. -/
inductive Fed : List (Cell σ α) → σ → List (List Char) → σ → Prop where
  | short {cells : List (Cell σ α)} {draft} : Fed cells draft [] draft
  | cons {cell cells draft v text texts last} : cell.tells v text →
      Fed cells (cell.put draft v) texts last → Fed (cell :: cells) draft (text :: texts) last

/-- Blanks in front of the items belong to the first of them. -/
theorem Fed.behind_blanks (roomy : ∀ cell ∈ cells, Roomy cell.tells) {before : List Char}
    (blanks : Blanks before) {texts : List (List Char)}
    (fed : Fed cells start (text :: texts) last) :
    Fed cells start ((before ++ text) :: texts) last := by
  cases fed with
  | cons tells fed =>
    have none : Blanks [] := nofun
    have spaced := roomy _ List.mem_cons_self blanks none tells
    rw [List.append_nil] at spaced
    exact .cons spaced fed

theorem Apart.tail (apart : Apart (cell :: cells)) : Apart cells where
  names := (List.nodup_cons.mp apart.names).2
  get_put other inside := apart.get_put other (List.mem_cons_of_mem _ inside)
  get_put_other other inside another among :=
    apart.get_put_other other (List.mem_cons_of_mem _ inside) another (List.mem_cons_of_mem _ among)

theorem Apart.absent (apart : Apart (cell :: cells)) : cell.name ∉ cells.map (·.name) :=
  (List.nodup_cons.mp apart.names).1

theorem Fed.get_other {all : List (Cell σ α)} (apart : Apart all) {texts : List (List Char)}
    (fed : Fed cells start texts last) (within : ∀ cell ∈ cells, cell ∈ all) (inside : cell ∈ all)
    (absent : cell.name ∉ cells.map (·.name)) : cell.get last = cell.get start := by
  induction fed with
  | short => rfl
  | cons _ _ ih =>
    rw [List.map_cons, List.mem_cons, not_or] at absent
    obtain ⟨head, tail⟩ := List.forall_mem_cons.mp within
    rw [ih tail absent.2, apart.get_put_other _ head _ inside absent.1]

/-- A field that has been read keeps what was read while the others are read. -/
theorem Fed.get_head (apart : Apart (cell :: cells)) {texts : List (List Char)} {v : cell.Value}
    (fed : Fed cells (cell.put start v) texts last) : cell.get last = some v := by
  rw [fed.get_other apart (fun _ => List.mem_cons_of_mem _) List.mem_cons_self apart.absent]
  exact apart.get_put cell List.mem_cons_self start v

/-- A field behind the first one is still to be read when the first one has been. -/
theorem Apart.get_behind (apart : Apart (cell :: cells)) (v : cell.Value) :
    ∀ other ∈ cells, other.get (cell.put start v) = other.get start := by
  intro other inside
  have differs : other.name ≠ cell.name := by
    intro same
    apply apart.absent
    rw [← same]
    exact List.mem_map_of_mem inside
  exact apart.get_put_other cell List.mem_cons_self other (List.mem_cons_of_mem _ inside) differs
    _ _

/-- Items that have been read tell what has been made of them. -/
theorem Fed.listed (apart : Apart cells) {texts : List (List Char)}
    (fed : Fed cells start texts last) (blank : ∀ cell ∈ cells, cell.get start = none) {x : α}
    (settles : ∀ cell ∈ cells, cell.Settles last x) :
    Layout.Listed x (cells.map clause) texts := by
  induction fed with
  | short =>
    refine .short (List.forall_mem_map.mpr ?_)
    intro cell inside
    have settled := settles cell inside
    rw [Settles, blank cell inside] at settled
    exact settled
  | @cons cell cells draft v text texts last tells fed ih =>
    obtain ⟨-, blanks⟩ := List.forall_mem_cons.mp blank
    obtain ⟨settled, others⟩ := List.forall_mem_cons.mp settles
    refine .cons ?_ (ih apart.tail (fun other inside => ?_) others)
    · rw [Settles, fed.get_head apart] at settled
      change cell.tells (cell.value x) text
      rw [settled]
      exact tells
    · rw [apart.get_behind v other inside]
      exact blanks other inside

/-- Texts that tell a record are read, each field as the record has it. -/
theorem fed_of_listed (apart : Apart cells) {texts : List (List Char)} {x : α}
    (listed : Layout.Listed x (cells.map clause) texts)
    (blank : ∀ cell ∈ cells, cell.get start = none) :
    ∃ last, Fed cells start texts last ∧ ∀ cell ∈ cells, cell.Settles last x := by
  induction cells generalizing start texts with
  | nil =>
    cases listed with
    | short => exact ⟨start, .short, nofun⟩
  | cons cell cells ih =>
    cases listed with
    | short usual =>
      refine ⟨start, .short, ?_⟩
      intro other inside
      rw [Settles, blank other inside]
      exact List.forall_mem_map.mp usual other inside
    | @cons _ _ text texts tells listed =>
      have unread : ∀ other ∈ cells, other.get (cell.put start (cell.value x)) = none := by
        intro other inside
        rw [apart.get_behind _ other inside]
        exact blank other (List.mem_cons_of_mem _ inside)
      obtain ⟨last, fed, settles⟩ := ih apart.tail listed unread
      refine ⟨last, .cons tells fed, List.forall_mem_cons.mpr ⟨?_, settles⟩⟩
      rw [Settles, fed.get_head apart]
      rfl

end Cell

end PresenceSeal.Json
