import PresenceSeal.Host.SettingsFile
import PresenceSeal.Proofs.Host.Document

/-! Loading settings. A text counts as a whole or not at all: either it is a document and gives
the settings of that document, or it gives the defaults and a warning. So prompting can only be
switched off by a document that says so in the place for it. -/
namespace PresenceSeal.Settings

open Json

theorem ofText_of_renders {text : List Char} {settings : Settings}
    (renders : layout.Renders settings text) : ofText text = (settings, none) := by
  rw [ofText, parse_iff.mpr renders]

theorem ofText_of_not_renders {text : List Char}
    (foreign : ∀ settings, ¬ layout.Renders settings text) :
    ∃ error, ofText text = ({}, some error) := by
  cases parsed : parse text with
  | error error => exact ⟨error, by rw [ofText, parsed]⟩
  | ok settings => exact absurd (parse_iff.mp parsed) (foreign settings)

variable {disk : Disk} {path : String}

theorem load_of_missing (missing : disk.read? path = none) : load disk path = ({}, none) := by
  rw [load, missing]
  rfl

theorem load_of_text {text : String} (stored : disk.read? path = some (Text.utf8 text)) :
    load disk path = ((ofText text.toList).1, (ofText text.toList).2.map (warning path)) := by
  have decoded := Text.ofUtf8?_eq_some_iff.mpr (rfl : Text.utf8 text = Text.utf8 text)
  rw [load, stored, ofBytes?, Option.bind_some, decoded]

theorem load_of_renders {text : String} (stored : disk.read? path = some (Text.utf8 text))
    {settings : Settings} (renders : layout.Renders settings text.toList) :
    load disk path = (settings, none) := by
  rw [load_of_text stored, ofText_of_renders renders]
  rfl

theorem load_of_not_renders {text : String} (stored : disk.read? path = some (Text.utf8 text))
    (foreign : ∀ settings, ¬ layout.Renders settings text.toList) :
    ∃ error, load disk path = ({}, some (warning path error)) := by
  obtain ⟨error, corrupt⟩ := ofText_of_not_renders foreign
  exact ⟨error, by rw [load_of_text stored, corrupt]; rfl⟩

/-- Settings that differ from the defaults come from a document. -/
theorem load_of_ne (differs : (load disk path).1 ≠ {}) :
    ∃ text settings, disk.read? path = some (Text.utf8 text) ∧
      layout.Renders settings text.toList ∧ load disk path = (settings, none) := by
  cases stored : disk.read? path with
  | none => exact absurd (by rw [load_of_missing stored]) differs
  | some bytes =>
    cases decoded : Text.ofUtf8? bytes with
    | none =>
      refine absurd ?_ differs
      rw [load, stored, ofBytes?, Option.bind_some, decoded]
    | some text =>
      obtain rfl := Text.ofUtf8?_eq_some_iff.mp decoded
      by_cases renders : ∃ settings, layout.Renders settings text.toList
      · obtain ⟨settings, renders⟩ := renders
        exact ⟨text, settings, rfl, renders, load_of_renders stored renders⟩
      · obtain ⟨error, corrupt⟩ := load_of_not_renders stored (not_exists.mp renders)
        exact absurd (by rw [corrupt]) differs

/-- Only the mode of a section of its own makes a document approve by itself. -/
theorem approves {text : List Char} {settings : Settings} (renders : layout.Renders settings text)
    (approving : settings.consent.mode = .autoApprove) :
    ∃ consent mode,
      (Layout.HasMember "consent" consent text ∨ Layout.HasItem 4 consent text) ∧
      Layout.HasMember "mode" mode consent ∧ Variant ConsentMode.variants .autoApprove mode := by
  have unusual : settings.consent ≠ {} := by
    intro usual
    rw [usual] at approving
    cases approving
  have own : settings.consent.mode ≠ ({} : Consent).mode := by
    rw [approving]
    decide
  obtain ⟨consent, place, tells⟩ := renders.tells_of_unusual sound_layout
    (show layout.clauses[4]? = some _ from rfl) unusual
  obtain ⟨mode, member, variant⟩ := Layout.Renders.tells_of_unusual Consent.sound_layout tells
    (show Consent.layout.clauses[0]? = some _ from rfl) own
  refine ⟨consent, mode, place.imp_right And.right, ?_, ?_⟩
  · -- Consent cannot be written as a list.
    rcases member with member | ⟨positional, -⟩
    · exact member
    · cases positional
  · rw [← approving]
    exact variant

/-- A settings file counts as a whole or not at all, and consent is only given unasked if a whole
document says so in the mode of its consent. -/
theorem load_all_or_nothing (disk : Disk) (path : String) :
    (disk.read? path = none → load disk path = ({}, none)) ∧
    (∀ text : String, disk.read? path = some (Text.utf8 text) →
      ((∃ settings, layout.Renders settings text.toList ∧ load disk path = (settings, none)) ∨
        (∀ settings, ¬ layout.Renders settings text.toList) ∧
          ∃ error, load disk path = ({}, some (warning path error))) ∧
      (layout.Spoilt text.toList →
        ∃ error, load disk path = ({}, some (warning path error)))) ∧
    ((load disk path).1.consent.mode = .autoApprove →
      ∃ text settings consent mode, disk.read? path = some (Text.utf8 text) ∧
        layout.Renders settings text.toList ∧ load disk path = (settings, none) ∧
        (Layout.HasMember "consent" consent text.toList ∨
          Layout.HasItem 4 consent text.toList) ∧
        Layout.HasMember "mode" mode consent ∧
        Variant ConsentMode.variants .autoApprove mode) := by
  refine ⟨load_of_missing, fun text stored => ⟨?_, fun spoilt => ?_⟩, fun approving => ?_⟩
  · by_cases renders : ∃ settings, layout.Renders settings text.toList
    · obtain ⟨settings, renders⟩ := renders
      exact .inl ⟨settings, renders, load_of_renders stored renders⟩
    · have foreign := not_exists.mp renders
      exact .inr ⟨foreign, load_of_not_renders stored foreign⟩
  · exact load_of_not_renders stored (spoilt.not_renders sound_layout)
  · have differs : (load disk path).1 ≠ {} := by
      intro same
      rw [same] at approving
      cases approving
    obtain ⟨text, settings, stored, renders, loaded⟩ := load_of_ne differs
    rw [loaded] at approving
    obtain ⟨consent, mode, place, member, variant⟩ := approves renders approving
    exact ⟨text, settings, consent, mode, stored, renders, loaded, place, member, variant⟩

/-- A mode that stands deeper than it has to is not looked at. -/
example : (ofText ("\x7b\"tpm\":\x7b\"consent\":\x7b\"mode\":\"autoApprove\"" ++
    "\x7d\x7d\x7d").toList).1 = {} := by
  decide +kernel

end PresenceSeal.Settings
