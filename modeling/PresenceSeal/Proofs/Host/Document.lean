import PresenceSeal.Host.Settings
import PresenceSeal.Proofs.Json.Decoding
import PresenceSeal.Proofs.Json.Parting

/-! The documents that stand for settings, section by section, and that they are what is read.
The prompt's fields stand among the members of consent, where every value is kept before anyone
knows what it is for; so the other members there must be such that they can be kept. -/
namespace PresenceSeal.Settings

open Json

/-! ### Layouts -/

def Tpm.layout : Layout Tpm where
  clauses := [
    ⟨"backend", fun tpm => Variant Backend.variants tpm.backend,
      fun tpm => tpm.backend = ({} : Tpm).backend⟩,
    ⟨"platformType", fun tpm => Writes (.string tpm.platformType),
      fun tpm => tpm.platformType = ({} : Tpm).platformType⟩]

def Biometry.layout : Layout Biometry where
  clauses := [
    ⟨"supported", fun biometry => Writes (.bool biometry.supported),
      fun biometry => biometry.supported = ({} : Biometry).supported⟩,
    ⟨"availability", fun biometry => Variant Presence.variants biometry.availability,
      fun biometry => biometry.availability = ({} : Biometry).availability⟩]

/-- The containers that may be open inside a member of consent. -/
def keptDepth : Nat := 125

def Consent.layout : Layout Consent where
  clauses := [
    ⟨"mode", fun consent => Variant ConsentMode.variants consent.mode,
      fun consent => consent.mode = ({} : Consent).mode⟩,
    ⟨"title", fun consent => Writes (.string consent.prompt.title),
      fun consent => consent.prompt.title = ({} : Prompt).title⟩,
    ⟨"description", fun consent => Writes (.string consent.prompt.description),
      fun consent => consent.prompt.description = ({} : Prompt).description⟩]
  other text := ∃ j, Retained keptDepth j text
  positional := false

def layout : Layout Settings where
  clauses := [
    ⟨"logLevel", fun settings => Writes (.string settings.logLevel),
      fun settings => settings.logLevel = ({} : Settings).logLevel⟩,
    ⟨"logDir", fun settings => OptionalString settings.logDir,
      fun settings => settings.logDir = ({} : Settings).logDir⟩,
    ⟨"tpm", fun settings => Tpm.layout.Renders settings.tpm,
      fun settings => settings.tpm = {}⟩,
    ⟨"biometry", fun settings => Biometry.layout.Renders settings.biometry,
      fun settings => settings.biometry = {}⟩,
    ⟨"consent", fun settings => Consent.layout.Renders settings.consent,
      fun settings => settings.consent = {}⟩,
    ⟨"channel", fun settings => Variant ChannelName.variants settings.channel,
      fun settings => settings.channel = ({} : Settings).channel⟩]

theorem Tpm.sound_layout : Tpm.layout.Sound where
  field := by
    simp only [layout, List.forall_mem_cons]
    exact ⟨fun _ _ => Variant.formed, fun _ _ => Writes.formed, nofun⟩
  other _ formed := formed

theorem Biometry.sound_layout : Biometry.layout.Sound where
  field := by
    simp only [layout, List.forall_mem_cons]
    exact ⟨fun _ _ => Writes.formed, fun _ _ => Variant.formed, nofun⟩
  other _ formed := formed

theorem Consent.sound_layout : Consent.layout.Sound where
  field := by
    simp only [layout, List.forall_mem_cons]
    exact ⟨fun _ _ => Variant.formed, fun _ _ => Writes.formed, fun _ _ => Writes.formed, nofun⟩
  other := by
    rintro text ⟨j, kept⟩
    exact kept.formed

theorem sound_layout : layout.Sound where
  field := by
    simp only [layout, List.forall_mem_cons]
    exact ⟨fun _ _ => Writes.formed, fun _ _ => Writes.formed,
      fun _ _ => Layout.Renders.formed Tpm.sound_layout,
      fun _ _ => Layout.Renders.formed Biometry.sound_layout,
      fun _ _ => Layout.Renders.formed Consent.sound_layout, fun _ _ => Variant.formed, nofun⟩
  other _ formed := formed

/-! ### Sections -/

def Tpm.cells : List (Cell Tpm.Draft Tpm) := [
  { name := "backend", Value := Backend, get := (·.backend),
    put := fun draft v => { draft with backend := some v },
    reader := Reader.choice Backend.variants, tells := Variant Backend.variants,
    value := (·.backend), usual := ({} : Tpm).backend },
  { name := "platformType", Value := String, get := (·.platformType),
    put := fun draft v => { draft with platformType := some v },
    reader := fun _ => Reader.string "a string", tells := fun v => Writes (.string v),
    value := (·.platformType), usual := ({} : Tpm).platformType }]

theorem Tpm.made : Tpm.record.Made Tpm.cells 125 where
  fields := rfl
  other := rfl
  apart := {
    names := by decide
    get_put := by simp [cells]
    get_put_other := by simp [cells] }
  reads := by
    simp only [cells, List.forall_mem_cons]
    exact ⟨reads_choice (by decide), reads_string _, nofun⟩
  blank := by simp [cells, record]
  finish := by
    rintro draft ⟨backend, platformType⟩
    simp [cells, record, Cell.Settles, eq_comm]

theorem Tpm.reads : Reads (Tpm.record.read 126) Tpm.layout.Renders := Tpm.made.reads_layout

def Biometry.cells : List (Cell Biometry.Draft Biometry) := [
  { name := "supported", Value := Bool, get := (·.supported),
    put := fun draft v => { draft with supported := some v },
    reader := fun _ => Reader.bool, tells := fun v => Writes (.bool v),
    value := (·.supported), usual := ({} : Biometry).supported },
  { name := "availability", Value := Presence, get := (·.availability),
    put := fun draft v => { draft with availability := some v },
    reader := Reader.choice Presence.variants, tells := Variant Presence.variants,
    value := (·.availability), usual := ({} : Biometry).availability }]

theorem Biometry.made : Biometry.record.Made Biometry.cells 125 where
  fields := rfl
  other := rfl
  apart := {
    names := by decide
    get_put := by simp [cells]
    get_put_other := by simp [cells] }
  reads := by
    simp only [cells, List.forall_mem_cons]
    exact ⟨reads_bool, reads_choice (by decide), nofun⟩
  blank := by simp [cells, record]
  finish := by
    rintro draft ⟨supported, availability⟩
    simp [cells, record, Cell.Settles, eq_comm]

theorem Biometry.reads : Reads (Biometry.record.read 126) Biometry.layout.Renders :=
  Biometry.made.reads_layout

/-! ### Consent -/

namespace Consent

/-- What the members of consent are for, once the kept ones have been looked through. -/
structure Parts where
  mode : Option ConsentMode := none
  prompt : Prompt.Draft := {}

def modeCell : Cell Parts Consent where
  name := "mode"
  Value := ConsentMode
  get := (·.mode)
  put parts v := { parts with mode := some v }
  reader := Reader.choice ConsentMode.variants
  tells := Variant ConsentMode.variants
  value := (·.mode)
  usual := ({} : Consent).mode

def titleCell : Cell Parts Consent where
  name := "title"
  Value := String
  get := (·.prompt.title)
  put parts v := { parts with prompt.title := some v }
  reader _ := Reader.string "a string"
  tells v := Writes (.string v)
  value := (·.prompt.title)
  usual := ({} : Prompt).title

def descriptionCell : Cell Parts Consent where
  name := "description"
  Value := String
  get := (·.prompt.description)
  put parts v := { parts with prompt.description := some v }
  reader _ := Reader.string "a string"
  tells v := Writes (.string v)
  value := (·.prompt.description)
  usual := ({} : Prompt).description

def cells : List (Cell Parts Consent) := [modeCell, titleCell, descriptionCell]

theorem apart_cells : Cell.Apart cells where
  names := by decide
  get_put := by simp [cells, modeCell, titleCell, descriptionCell]
  get_put_other := by simp [cells, modeCell, titleCell, descriptionCell]

/-- What becomes of the draft with one member: the mode is read at once, the others are kept. -/
inductive Step (draft : Draft) : String → Draft → List Char → Prop where
  | mode {v text} : draft.mode = none → Variant ConsentMode.variants v text →
      Step draft "mode" { draft with mode := some v } text
  | kept {name j text} : name ≠ "mode" → Retained keptDepth j text →
      Step draft name { draft with members := draft.members ++ [(name, j)] } text

/-- That a draft comes to these parts when its members are looked through. -/
def Comes (draft : Draft) (parts : Parts) : Prop :=
  draft.mode = parts.mode ∧ Prompt.Draft.fill {} draft.members = .ok parts.prompt

theorem fill_append (prompt : Prompt.Draft) (front back : List (String × Json)) :
    prompt.fill (front ++ back) = (prompt.fill front >>= fun filled => filled.fill back) := by
  induction front generalizing prompt with
  | nil => rfl
  | cons member front ih =>
    obtain ⟨key, value⟩ := member
    rw [List.cons_append, Prompt.Draft.fill, Prompt.Draft.fill]
    split
    · split
      · rfl
      · cases Prompt.keptString value with
        | error e => rfl
        | ok title => exact ih _
    · split
      · split
        · rfl
        · cases Prompt.keptString value with
          | error e => rfl
          | ok description => exact ih _
      · exact ih prompt

theorem keptString_bind_iff {j : Json} {f : String → Except Error β} {x : β} :
    (Prompt.keptString j >>= f) = .ok x ↔ ∃ v, j = .string v ∧ f v = .ok x := by
  cases j <;> simp [Prompt.keptString, bind, Except.bind]

/-- One kept member: a half of the prompt that has not come yet, or nothing the prompt has. -/
theorem fill_one {prompt next : Prompt.Draft} {name : String} {j : Json} :
    prompt.fill [(name, j)] = .ok next ↔
      (name = "title" ∧ prompt.title = none ∧
        ∃ v, j = .string v ∧ { prompt with title := some v } = next) ∨
      (name = "description" ∧ prompt.description = none ∧
        ∃ v, j = .string v ∧ { prompt with description := some v } = next) ∨
      (name ≠ "title" ∧ name ≠ "description" ∧ prompt = next) := by
  by_cases first : name = "title"
  · cases same : prompt.title <;>
      simp [Prompt.Draft.fill, first, same, keptString_bind_iff]
  · by_cases second : name = "description"
    · cases same : prompt.description <;>
        simp [Prompt.Draft.fill, second, same, keptString_bind_iff]
    · simp [Prompt.Draft.fill, first, second]

/-- The text of a member of consent that nobody knows. -/
def Keepable (text : List Char) : Prop := ∃ j, Retained keptDepth j text

/-- What a member does to the draft is what it does to the parts. -/
theorem Step.parts {draft next : Draft} {name : String} {text : List Char} {after : Parts}
    (step : Step draft name next text) (comes : Comes next after) :
    ∃ before, Comes draft before ∧ Cell.Step cells Keepable before name after text := by
  obtain ⟨mode, prompt⟩ := after
  obtain ⟨same, filled⟩ := comes
  cases step with
  | @mode v _ fresh variant =>
    cases same
    have step : Cell.Step cells Keepable ⟨none, prompt⟩ modeCell.name
        (modeCell.put ⟨none, prompt⟩ v) text := .field (by simp [cells]) rfl variant
    exact ⟨⟨none, prompt⟩, ⟨fresh, filled⟩, step⟩
  | @kept _ j _ notMode kept =>
    rw [fill_append] at filled
    obtain ⟨earlier, first, last⟩ := andThen_eq_ok filled
    refine ⟨⟨mode, earlier⟩, ⟨same, first⟩, ?_⟩
    rcases fill_one.mp last with ⟨rfl, fresh, v, rfl, rfl⟩ | ⟨rfl, fresh, v, rfl, rfl⟩ |
      ⟨notTitle, notDescription, rfl⟩
    · have step : Cell.Step cells Keepable ⟨mode, earlier⟩ titleCell.name
          (titleCell.put ⟨mode, earlier⟩ v) text :=
        .field (by simp [cells]) fresh (retained_string_iff.mp kept)
      exact step
    · have step : Cell.Step cells Keepable ⟨mode, earlier⟩ descriptionCell.name
          (descriptionCell.put ⟨mode, earlier⟩ v) text :=
        .field (by simp [cells]) fresh (retained_string_iff.mp kept)
      exact step
    · refine .other ?_ ⟨j, kept⟩
      simp [cells, modeCell, titleCell, descriptionCell, notMode, notTitle, notDescription]

theorem Step.of_parts {draft : Draft} {name : String} {text : List Char} {before after : Parts}
    (comes : Comes draft before) (step : Cell.Step cells Keepable before name after text) :
    ∃ next, Step draft name next text ∧ Comes next after := by
  obtain ⟨same, filled⟩ := comes
  have keeps : ∀ {j prompt}, name ≠ "mode" → Retained keptDepth j text →
      before.prompt.fill [(name, j)] = .ok prompt →
      ∃ next, Step draft name next text ∧ Comes next ⟨before.mode, prompt⟩ := by
    intro j prompt notMode kept one
    refine ⟨_, .kept notMode kept, same, ?_⟩
    rw [fill_append, filled]
    exact one
  cases step with
  | @field cell v _ inside fresh tells =>
    simp only [cells, List.mem_cons, List.not_mem_nil, or_false] at inside
    rcases inside with rfl | rfl | rfl
    · exact ⟨_, .mode (same.trans fresh) tells, rfl, filled⟩
    · exact keeps (by decide) (retained_string_iff.mpr tells)
        (fill_one.mpr (.inl ⟨rfl, fresh, v, rfl, rfl⟩))
    · exact keeps (by decide) (retained_string_iff.mpr tells)
        (fill_one.mpr (.inr (.inl ⟨rfl, fresh, v, rfl, rfl⟩)))
  | other unknown keepable =>
    obtain ⟨j, kept⟩ := keepable
    simp only [cells, modeCell, titleCell, descriptionCell, List.map_cons, List.map_nil,
      List.mem_cons, List.not_mem_nil, or_false, not_or] at unknown
    obtain ⟨notMode, notTitle, notDescription⟩ := unknown
    exact keeps notMode kept (fill_one.mpr (.inr (.inr ⟨notTitle, notDescription, rfl⟩)))

theorem Step.trail_parts {slots : List Slot} {start last : Draft}
    (trail : Trail Step start slots last)
    {after : Parts} (comes : Comes last after) :
    ∃ before, Comes start before ∧ Trail (Cell.Step cells Keepable) before slots after := by
  induction trail with
  | nil => exact ⟨after, comes, .nil⟩
  | cons named step _ ih =>
    obtain ⟨between, comes, trail⟩ := ih comes
    obtain ⟨before, comes, step⟩ := step.parts comes
    exact ⟨before, comes, .cons named step trail⟩

theorem Step.trail_of_parts {slots : List Slot} {before after : Parts}
    (trail : Trail (Cell.Step cells Keepable) before slots after) {start : Draft}
    (comes : Comes start before) : ∃ last, Trail Step start slots last ∧ Comes last after := by
  induction trail generalizing start with
  | nil => exact ⟨start, .nil, comes⟩
  | cons named step _ ih =>
    obtain ⟨next, step, comes⟩ := Step.of_parts comes step
    obtain ⟨last, trail, comes⟩ := ih comes
    exact ⟨last, .cons named step trail, comes⟩

theorem comes_start_iff {parts : Parts} : Comes {} parts ↔ parts = {} := by
  obtain ⟨mode, prompt⟩ := parts
  simp [Comes, Prompt.Draft.fill, eq_comm]

theorem finish_iff {draft : Draft} {consent : Consent} : record.finish draft = .ok consent ↔
    ∃ parts, Comes draft parts ∧ ∀ cell ∈ cells, cell.Settles parts consent := by
  constructor
  · intro finished
    obtain ⟨prompt, made, finished⟩ := andThen_eq_ok finished
    obtain ⟨filled, fill, rfl⟩ := map_eq_ok made
    cases finished
    refine ⟨⟨draft.mode, filled⟩, ⟨rfl, fill⟩, ?_⟩
    simp [cells, modeCell, titleCell, descriptionCell, Cell.Settles, Prompt.Draft.prompt]
  · rintro ⟨⟨mode, filled⟩, ⟨rfl, fill⟩, settles⟩
    obtain ⟨mode, title, description⟩ := consent
    simp only [cells, List.forall_mem_cons, Cell.Settles, modeCell, titleCell,
      descriptionCell] at settles
    obtain ⟨rfl, rfl, rfl, -⟩ := settles
    simp only [record, Prompt.ofMembers, fill, Except.map]
    rfl

theorem told_iff (slots : List Slot) (consent : Consent) :
    (∃ last, Trail Step record.start slots last ∧ record.finish last = .ok consent) ↔
      layout.Told consent slots := by
  have blank : ∀ cell ∈ cells, cell.get {} = none := by
    simp [cells, modeCell, titleCell, descriptionCell]
  constructor
  · rintro ⟨last, trail, finished⟩
    obtain ⟨after, comes, settles⟩ := finish_iff.mp finished
    obtain ⟨before, start, trail⟩ := Step.trail_parts trail comes
    obtain rfl := comes_start_iff.mp start
    exact Cell.told_of_trail apart_cells trail blank settles
  · intro told
    obtain ⟨after, trail, settles⟩ := Cell.trail_of_told apart_cells told blank
    obtain ⟨last, trail, comes⟩ := Step.trail_of_parts trail (comes_start_iff.mpr rfl)
    exact ⟨last, trail, finish_iff.mpr ⟨after, comes, settles⟩⟩

/-- The mode, which is the only field that is read at once. -/
def modeField : Cell Draft Consent where
  name := "mode"
  Value := ConsentMode
  get := (·.mode)
  put draft v := { draft with mode := some v }
  reader := Reader.choice ConsentMode.variants
  tells := Variant ConsentMode.variants
  value := (·.mode)
  usual := ({} : Consent).mode

theorem member_kept {key : String} (notMode : key ≠ "mode") (draft : Draft) :
    record.readMember 125 draft key = (Reader.colon >>= fun _ => Reader.value 125 >>= fun j =>
      pure { draft with members := draft.members ++ [(key, j)] }) := by
  have fields : record.fields = [modeField].map Cell.field := rfl
  have unknown : key ∉ [modeField].map (·.name) := by simpa [modeField] using notMode
  simp only [Record.readMember, Record.find?_unknown fields unknown]
  rfl

theorem member_finds : FindsMember (record.readMember 125) Step := by
  intro gathered key
  by_cases mode : key = "mode"
  · subst mode
    have found : record.fields.find? (·.name == "mode") = some modeField.field := rfl
    refine (Record.known_finds found (reads_choice (by decide))).mono ?_
    rintro next text ⟨before, told, blanks, same, fresh, v, rfl, tells⟩
    exact ⟨before, told, blanks, same, .mode fresh tells⟩
  · rw [member_kept mode]
    refine (value_finds 125).followed.behind_colon.mono ?_
    rintro next text ⟨before, told, blanks, same, j, rfl, kept⟩
    exact ⟨before, told, blanks, same, .kept mode kept⟩

theorem member_takes {draft next : Draft} {key : String} {text : List Char}
    (step : Step draft key next text) :
    Takes (record.readMember 125 draft key) next (':' :: text) := by
  cases step with
  | mode fresh variant =>
    have found : record.fields.find? (·.name == "mode") = some modeField.field := rfl
    exact Record.known_takes found (reads_choice (by decide)) fresh variant
  | kept notMode kept =>
    rw [member_kept notMode]
    exact (kept.takes.followed fun _ => rfl).behind_colon

theorem roomy_step (draft : Draft) (key : String) : Roomy (Step draft key) := by
  intro next before text after front back step
  cases step with
  | mode fresh variant => exact .mode fresh (.blanks front back variant)
  | kept notMode kept => exact .kept notMode (.blanks front back kept)

theorem objects : record.Objects layout 125 :=
  Record.objects_of_steps member_finds roomy_step (fun _ _ _ _ => member_takes)
    (List.forall_mem_singleton.mpr rfl) told_iff

theorem reads : Reads (record.read 126) layout.Renders :=
  Record.reads_of_forms objects rfl nofun

end Consent

/-! ### Settings -/

def cells : List (Cell Draft Settings) := [
  { name := "logLevel", Value := String, get := (·.logLevel),
    put := fun draft v => { draft with logLevel := some v },
    reader := fun _ => Reader.string "a string", tells := fun v => Writes (.string v),
    value := (·.logLevel), usual := ({} : Settings).logLevel },
  { name := "logDir", Value := Option String, get := (·.logDir),
    put := fun draft v => { draft with logDir := some v },
    reader := fun _ => Reader.optional (Reader.string "path string"), tells := OptionalString,
    value := (·.logDir), usual := ({} : Settings).logDir },
  { name := "tpm", Value := Tpm, get := (·.tpm),
    put := fun draft v => { draft with tpm := some v },
    reader := Tpm.record.read, tells := Tpm.layout.Renders, value := (·.tpm), usual := {} },
  { name := "biometry", Value := Biometry, get := (·.biometry),
    put := fun draft v => { draft with biometry := some v },
    reader := Biometry.record.read, tells := Biometry.layout.Renders,
    value := (·.biometry), usual := {} },
  { name := "consent", Value := Consent, get := (·.consent),
    put := fun draft v => { draft with consent := some v },
    reader := Consent.record.read, tells := Consent.layout.Renders,
    value := (·.consent), usual := {} },
  { name := "channel", Value := ChannelName, get := (·.channel),
    put := fun draft v => { draft with channel := some v },
    reader := Reader.choice ChannelName.variants, tells := Variant ChannelName.variants,
    value := (·.channel), usual := ({} : Settings).channel }]

theorem made : record.Made cells 126 where
  fields := rfl
  other := rfl
  apart := {
    names := by decide
    get_put := by simp [cells]
    get_put_other := by simp [cells] }
  reads := by
    simp only [cells, List.forall_mem_cons]
    exact ⟨reads_string _, reads_optionalString _, Tpm.reads, Biometry.reads, Consent.reads,
      reads_choice (by decide), nofun⟩
  blank := by simp [cells, record]
  finish := by
    rintro draft ⟨logLevel, logDir, tpm, biometry, consent, channel⟩
    simp [cells, record, Cell.Settles, eq_comm]

theorem reads : Reads (record.read maxDepth) layout.Renders := made.reads_layout

/-- Settings are read from a document if and only if it is one of theirs. -/
theorem parse_iff {text : List Char} {settings : Settings} :
    parse text = .ok settings ↔ layout.Renders settings text :=
  reads.document

end PresenceSeal.Settings
