import PresenceSeal.Proofs.Host.Loading
import PresenceSeal.Proofs.Json.Giving

/-! Settings from documents that give some of the fields. Every field that is given counts, at
every level, and every other field stays at its default. Neither the order of the members nor
anything that is no field makes a difference, and no section meddles with another. -/
namespace PresenceSeal.Settings

open Json

/-! ### What is given -/

def Tpm.Draft.offers (given : Tpm.Draft) : List Offer := [
  ⟨"backend", given.backend.map (Variant Backend.variants)⟩,
  ⟨"platformType", given.platformType.map fun text => Writes (.string text)⟩]

def Biometry.Draft.offers (given : Biometry.Draft) : List Offer := [
  ⟨"supported", given.supported.map fun value => Writes (.bool value)⟩,
  ⟨"availability", given.availability.map (Variant Presence.variants)⟩]

def Consent.Parts.offers (given : Consent.Parts) : List Offer := [
  ⟨"mode", given.mode.map (Variant ConsentMode.variants)⟩,
  ⟨"title", given.prompt.title.map fun text => Writes (.string text)⟩,
  ⟨"description", given.prompt.description.map fun text => Writes (.string text)⟩]

/-- The texts of a section that give these fields. -/
def Tpm.Draft.Written (given : Tpm.Draft) (text : List Char) : Prop :=
  ObjectGives given.offers Formed text ∨ ListGives given.offers text

def Biometry.Draft.Written (given : Biometry.Draft) (text : List Char) : Prop :=
  ObjectGives given.offers Formed text ∨ ListGives given.offers text

def Consent.Parts.Written (given : Consent.Parts) (text : List Char) : Prop :=
  ObjectGives given.offers Consent.Keepable text

/-- The fields that a document gives, section by section. -/
structure Given where
  logLevel : Option String := none
  logDir : Option (Option String) := none
  tpm : Option Tpm.Draft := none
  biometry : Option Biometry.Draft := none
  consent : Option Consent.Parts := none
  channel : Option ChannelName := none

def Given.offers (given : Given) : List Offer := [
  ⟨"logLevel", given.logLevel.map fun text => Writes (.string text)⟩,
  ⟨"logDir", given.logDir.map OptionalString⟩,
  ⟨"tpm", given.tpm.map Tpm.Draft.Written⟩,
  ⟨"biometry", given.biometry.map Biometry.Draft.Written⟩,
  ⟨"consent", given.consent.map Consent.Parts.Written⟩,
  ⟨"channel", given.channel.map (Variant ChannelName.variants)⟩]

/-- The documents that give these fields. -/
def Given.Written (given : Given) (text : List Char) : Prop := ObjectGives given.offers Formed text

/-! ### Over the defaults -/

def Tpm.Draft.upon (given : Tpm.Draft) (base : Tpm) : Tpm where
  backend := given.backend.getD base.backend
  platformType := given.platformType.getD base.platformType

def Biometry.Draft.upon (given : Biometry.Draft) (base : Biometry) : Biometry where
  supported := given.supported.getD base.supported
  availability := given.availability.getD base.availability

def Consent.Parts.upon (given : Consent.Parts) (base : Consent) : Consent where
  mode := given.mode.getD base.mode
  prompt := {
    title := given.prompt.title.getD base.prompt.title
    description := given.prompt.description.getD base.prompt.description }

/-- Settings with the fields that are given in place of theirs. -/
def Given.upon (given : Given) (base : Settings) : Settings where
  logLevel := given.logLevel.getD base.logLevel
  logDir := given.logDir.getD base.logDir
  tpm := (given.tpm.map (·.upon base.tpm)).getD base.tpm
  biometry := (given.biometry.map (·.upon base.biometry)).getD base.biometry
  consent := (given.consent.map (·.upon base.consent)).getD base.consent
  channel := given.channel.getD base.channel

theorem Tpm.Draft.meets (given : Tpm.Draft) : Tpm.layout.Meets (given.upon {}) given.offers :=
  .cons (.of_given Tpm.backend (Variant Backend.variants) rfl)
    (.cons (.of_given Tpm.platformType (fun text => Writes (.string text)) rfl) .nil)

theorem Biometry.Draft.meets (given : Biometry.Draft) :
    Biometry.layout.Meets (given.upon {}) given.offers :=
  .cons (.of_given Biometry.supported (fun value => Writes (.bool value)) rfl)
    (.cons (.of_given Biometry.availability (Variant Presence.variants) rfl) .nil)

theorem Consent.Parts.meets (given : Consent.Parts) :
    Consent.layout.Meets (given.upon {}) given.offers :=
  .cons (.of_given Consent.mode (Variant ConsentMode.variants) rfl)
    (.cons (.of_given (Prompt.title ∘ Consent.prompt) (fun text => Writes (.string text)) rfl)
      (.cons (.of_given (Prompt.description ∘ Consent.prompt) (fun text => Writes (.string text))
        rfl) .nil))

theorem Tpm.Draft.Written.renders {given : Tpm.Draft} {text : List Char}
    (written : given.Written text) : Tpm.layout.Renders (given.upon {}) text :=
  written.elim (·.renders given.meets) (·.renders rfl given.meets)

theorem Biometry.Draft.Written.renders {given : Biometry.Draft} {text : List Char}
    (written : given.Written text) : Biometry.layout.Renders (given.upon {}) text :=
  written.elim (·.renders given.meets) (·.renders rfl given.meets)

theorem Consent.Parts.Written.renders {given : Consent.Parts} {text : List Char}
    (written : given.Written text) : Consent.layout.Renders (given.upon {}) text :=
  ObjectGives.renders written given.meets

theorem Given.meets (given : Given) : layout.Meets (given.upon {}) given.offers :=
  .cons (.of_given Settings.logLevel (fun text => Writes (.string text)) rfl)
    (.cons (.of_given Settings.logDir OptionalString rfl)
      (.cons (.of_upon (·.upon {}) (fun _ _ => Tpm.Draft.Written.renders) rfl)
        (.cons (.of_upon (·.upon {}) (fun _ _ => Biometry.Draft.Written.renders) rfl)
          (.cons (.of_upon (·.upon {}) (fun _ _ => Consent.Parts.Written.renders) rfl)
            (.cons (.of_given Settings.channel (Variant ChannelName.variants) rfl) .nil)))))

/-- A document that gives some fields stands for the defaults with these in place of theirs. -/
theorem Given.Written.renders {given : Given} {text : List Char} (written : given.Written text) :
    layout.Renders (given.upon {}) text :=
  ObjectGives.renders written given.meets

/-! ### Writing anew -/

/-- The sections, with their fields and with what else may stand in them. -/
def sections : List (String × List String × (List Char → Prop)) := [
  ("tpm", ["backend", "platformType"], Formed),
  ("biometry", ["supported", "availability"], Formed),
  ("consent", ["mode", "title", "description"], Consent.Keepable)]

/-- What the text of a field can become without giving anything else: a section that is an
object can be written anew. -/
inductive SameText : String → List Char → List Char → Prop where
  | kept {name text} : SameText name text text
  | anew {name names other text text'} : (name, names, other) ∈ sections →
      ObjectAnew names other (fun _ => Eq) text text' → SameText name text text'

def fieldNames : List String := ["logLevel", "logDir", "tpm", "biometry", "consent", "channel"]

/-- A document that is written anew: its fields come in any order, as those of its sections do,
and at each level any members that are no fields come and go. -/
def Anew (text text' : List Char) : Prop := ObjectAnew fieldNames Formed SameText text text'

/-- Documents with the same fields are writings of each other, whatever else is in them. -/
theorem anew_of_perm {slots slots' : List Slot} {text text' : List Char}
    (object : IsObject slots text) (also : IsObject slots' text')
    (perm : (slots.filter (·.name ∈ fieldNames)).Perm (slots'.filter (·.name ∈ fieldNames))) :
    Anew text text' :=
  ⟨slots, slots', object, also, .of_perm (fun _ _ => .kept)
    (fun slot inside => (also.1 slot inside).1) (fun slot inside _ => (also.1 slot inside).2) perm⟩

theorem SameText.eq {name : String} {text text' : List Char} (same : SameText name text text')
    (leaf : name ∉ sections.map (·.1)) : text' = text := by
  cases same with
  | kept => rfl
  | anew listed => exact absurd (List.mem_map_of_mem listed) leaf

/-- A section that is written anew gives the same. -/
theorem SameText.gives {name : String} {offers : List Offer} {other : List Char → Prop}
    {text text' : List Char} (same : SameText name text text')
    (only : ∀ names other', (name, names, other') ∈ sections →
      names = Offer.names offers ∧ other' = other)
    (gives : ObjectGives offers other text) : ObjectGives offers other text' := by
  cases same with
  | kept => exact gives
  | anew listed anew =>
    obtain ⟨rfl, rfl⟩ := only _ _ listed
    refine gives.anew anew fun _ _ _ _ _ _ told same => ?_
    rwa [← same]

theorem SameText.lists {name : String} {offers : List Offer} {text text' : List Char}
    (same : SameText name text text') (gives : ListGives offers text) :
    ListGives offers text' := by
  cases same with
  | kept => exact gives
  | anew _ anew => exact absurd anew gives.not_anew

theorem Tpm.Draft.Written.same {given : Tpm.Draft} {text text' : List Char}
    (written : given.Written text) (same : SameText "tpm" text text') : given.Written text' :=
  written.imp (same.gives (by simp [sections, Offer.names, offers])) same.lists

theorem Biometry.Draft.Written.same {given : Biometry.Draft} {text text' : List Char}
    (written : given.Written text) (same : SameText "biometry" text text') : given.Written text' :=
  written.imp (same.gives (by simp [sections, Offer.names, offers])) same.lists

theorem Consent.Parts.Written.same {given : Consent.Parts} {text text' : List Char}
    (written : given.Written text) (same : SameText "consent" text text') : given.Written text' :=
  same.gives (by simp [sections, Offer.names, offers]) written

/-- A document that is written anew gives the same fields. -/
theorem Given.Written.anew {given : Given} {text text' : List Char} (written : given.Written text)
    (anew : Anew text text') : given.Written text' := by
  refine ObjectGives.anew written anew ?_
  have leaf {name : String} (plain : name ∉ sections.map (·.1)) {β : Type} {value : Option β}
      {lang : β → List Char → Prop} : Offer.Closed SameText ⟨name, value.map lang⟩ :=
    .of_map fun _ _ _ told same => by rwa [same.eq plain]
  simp only [offers, List.forall_mem_cons]
  exact ⟨leaf (by decide), leaf (by decide), .of_map fun _ _ _ => Tpm.Draft.Written.same,
    .of_map fun _ _ _ => Biometry.Draft.Written.same,
    .of_map fun _ _ _ => Consent.Parts.Written.same, leaf (by decide), nofun⟩

/-! ### Loading -/

/-- What is loaded of a text, on whatever disk and under whatever path it is stored. -/
def Loads (text : String) (loaded : Settings × Option String) : Prop :=
  ∀ (disk : Disk) (path : String), disk.read? path = some (Text.utf8 text) →
    load disk path = loaded

theorem Given.Written.loads {given : Given} {text : String} (written : given.Written text.toList) :
    Loads text (given.upon {}, none) :=
  fun _ _ stored => load_of_renders stored written.renders

/-- Of a document that gives any of the fields, these are loaded in place of the defaults, and
there is no warning. Writing the document anew changes nothing, and what is given in one section
changes nothing in the others. -/
theorem fields_are_read_one_by_one {given : Given} {text : String}
    (written : given.Written text.toList) :
    Loads text (given.upon {}, none) ∧
    (∀ text' : String, Anew text.toList text'.toList → Loads text' (given.upon {}, none)) ∧
    (∀ (tpm : Option Tpm.Draft) (text' : String),
      ({ given with tpm } : Given).Written text'.toList →
        Loads text' ({ given.upon {} with tpm := (tpm.map (·.upon {})).getD {} }, none)) ∧
    (∀ (biometry : Option Biometry.Draft) (text' : String),
      ({ given with biometry } : Given).Written text'.toList →
        Loads text'
          ({ given.upon {} with biometry := (biometry.map (·.upon {})).getD {} }, none)) ∧
    (∀ (consent : Option Consent.Parts) (text' : String),
      ({ given with consent } : Given).Written text'.toList →
        Loads text'
          ({ given.upon {} with consent := (consent.map (·.upon {})).getD {} }, none)) :=
  ⟨written.loads, fun _ anew => (written.anew anew).loads, fun _ _ written => written.loads,
    fun _ _ written => written.loads, fun _ _ written => written.loads⟩

theorem large_formed : Formed ['1', 'e', '9', '9', '9'] :=
  .number (.mk (.inl rfl) (.inr ⟨'1', [], rfl, by decide, List.all_eq_true.mp rfl⟩) (.inl rfl)
    (.inr ⟨'e', [], ['9', '9', '9'], .inl rfl, .inl rfl, ⟨nofun, List.all_eq_true.mp rfl⟩, rfl⟩))

/-- A field of another section is no field of consent. -/
theorem denial_written : Consent.Parts.Written { mode := some .deny }
    "\x7b\"backend\":null,\"mode\":\"deny\"\x7d".toList := by
  have deny : Variant ConsentMode.variants .deny (Json.printed ("mode", .string "deny")).text :=
    .name rfl (spelled_escaped _)
  refine ⟨[Json.printed ("backend", .null), Json.printed ("mode", .string "deny")],
    .of_commas (by decide) ?_ (by decide +kernel), ?_, by decide, ?_, ?_, ?_⟩ <;>
    simp only [Consent.Parts.offers, List.forall_mem_cons]
  · exact ⟨⟨Json.printed_named _, .null⟩, ⟨Json.printed_named _, deny.formed⟩, nofun⟩
  · exact ⟨Json.printed_named _, Json.printed_named _, nofun⟩
  · exact ⟨by decide, by decide, by decide, nofun⟩
  · refine ⟨?_, nofun, nofun, nofun⟩
    rintro _ ⟨⟩
    exact ⟨nofun, fun _ => deny, nofun⟩
  · exact ⟨fun _ => ⟨.null, .null⟩, fun unknown => absurd (by decide) unknown, nofun⟩

/-- A document with a number out of range, and the same without it. -/
theorem denial_is_loaded :
    let given : Given := { consent := some { mode := some .deny } }
    let consent := "\x7b\"backend\":null,\"mode\":\"deny\"\x7d"
    let text := "\x7b\"note\":1e999,\"consent\":" ++ consent ++ "\x7d"
    let text' := "\x7b\"consent\":" ++ consent ++ "\x7d"
    given.Written text.toList ∧ Anew text.toList text'.toList ∧
      Loads text ({ consent := { mode := .deny } }, none) ∧
      Loads text' ({ consent := { mode := .deny } }, none) := by
  intro given consent text text'
  have noteNamed : Slot.Named ⟨"note", Json.quote "note".toList, ['1', 'e', '9', '9', '9']⟩ :=
    Json.printed_named ("note", .null)
  have formed : Formed consent.toList :=
    Layout.Renders.formed Consent.sound_layout (Consent.Parts.Written.renders denial_written)
  have consentSound : Slot.Sound ⟨"consent", Json.quote "consent".toList, consent.toList⟩ :=
    ⟨Json.printed_named ("consent", .null), formed⟩
  have object : IsObject [⟨"note", Json.quote "note".toList, ['1', 'e', '9', '9', '9']⟩,
      ⟨"consent", Json.quote "consent".toList, consent.toList⟩] text.toList :=
    .of_commas (by decide) (List.forall_mem_cons.mpr ⟨⟨noteNamed, large_formed⟩,
      List.forall_mem_singleton.mpr consentSound⟩) (by simp only [text, consent]; decide +kernel)
  have object' : IsObject [⟨"consent", Json.quote "consent".toList, consent.toList⟩]
      text'.toList :=
    .of_commas (by decide) (List.forall_mem_singleton.mpr consentSound)
      (by simp only [text', consent]; decide +kernel)
  have anew : Anew text.toList text'.toList := anew_of_perm object object' (.refl _)
  have written : given.Written text.toList := by
    refine ⟨_, object, fun slot inside => (object.1 slot inside).1, by decide, ?_, ?_, ?_⟩ <;>
      simp only [Given.offers, List.forall_mem_cons]
    · exact ⟨by decide, by decide, by decide, by decide, by decide, by decide, nofun⟩
    · refine ⟨nofun, nofun, nofun, nofun, ?_, nofun, nofun⟩
      rintro _ ⟨⟩
      exact ⟨nofun, fun _ => denial_written, nofun⟩
    · exact ⟨fun _ => large_formed, fun unknown => absurd (by decide) unknown, nofun⟩
  obtain ⟨loads, rewritten, -⟩ := fields_are_read_one_by_one written
  exact ⟨written, anew, loads, rewritten text' anew⟩

end PresenceSeal.Settings
