import PresenceSeal.Host.Run
import PresenceSeal.Proofs.Host.Disk
import PresenceSeal.Proofs.Host.Loading
import PresenceSeal.Proofs.Json.Pretty

/-! Saving settings. What is written is a document of the settings, so loading gives them back.
Until the last step only the file beside the settings file changes, and that step either moves
it into place or changes nothing; so a step that is refused leaves the settings as they were. -/
namespace PresenceSeal.Settings

open Json

/-! ### What is written -/

theorem Tpm.renders_pretty (level : Nat) (tpm : Tpm) :
    layout.Renders tpm (pretty level (.object [
      ("backend", .string tpm.backend.name),
      ("platformType", .string tpm.platformType)])) := by
  have listed : Backend.variants.lookup tpm.backend.name = some tpm.backend := by
    cases tpm.backend <;> rfl
  refine layout.renders_pretty [.string tpm.backend.name, .string tpm.platformType]
    (List.cons_ne_nil _ _) (by decide) ?_ ?_
  · simp only [layout, List.forall_mem_cons]
    exact ⟨roomy_variant.of_field _, roomy_writes _, List.forall_mem_nil _⟩
  · exact .cons (variant_pretty _ listed) (.cons (writes_pretty_string _ _) .nil)

theorem Biometry.renders_pretty (level : Nat) (biometry : Biometry) :
    layout.Renders biometry (pretty level (.object [
      ("supported", .bool biometry.supported),
      ("availability", .string biometry.availability.name)])) := by
  have listed : Presence.variants.lookup biometry.availability.name =
      some biometry.availability := by
    cases biometry.availability <;> rfl
  refine layout.renders_pretty [.bool biometry.supported, .string biometry.availability.name]
    (List.cons_ne_nil _ _) (by decide) ?_ ?_
  · simp only [layout, List.forall_mem_cons]
    exact ⟨roomy_writes _, roomy_variant.of_field _, List.forall_mem_nil _⟩
  · exact .cons (writes_pretty_bool _ _) (.cons (variant_pretty _ listed) .nil)

theorem Consent.renders_pretty (level : Nat) (consent : Consent) :
    layout.Renders consent (pretty level (.object [
      ("mode", .string consent.mode.name),
      ("title", .string consent.prompt.title),
      ("description", .string consent.prompt.description)])) := by
  have listed : ConsentMode.variants.lookup consent.mode.name = some consent.mode := by
    cases consent.mode <;> rfl
  refine layout.renders_pretty [.string consent.mode.name, .string consent.prompt.title,
    .string consent.prompt.description] (List.cons_ne_nil _ _) (by decide) ?_ ?_
  · simp only [layout, List.forall_mem_cons]
    exact ⟨roomy_variant.of_field _, roomy_writes _, roomy_writes _, List.forall_mem_nil _⟩
  · exact .cons (variant_pretty _ listed)
      (.cons (writes_pretty_string _ _) (.cons (writes_pretty_string _ _) .nil))

variable {settings : Settings} {path : String} {disk after : Disk}

/-- The bytes of the settings' file. -/
def bytes (settings : Settings) : List UInt8 := Text.utf8 (String.ofList settings.render)

/-- A disk on which a file cannot be protected keeps what was written beside, and no settings
file comes to be. -/
example :
    let disk : Disk := { obstacle := fun
      | .setMode _ => some ⟨.permissionDenied, none⟩
      | _ => none }
    let after := ((({} : Settings).save "host.json").run disk).2
    after.read? "host.json" = none ∧ (after.read? "host.json.tmp").isSome := by
  decide +kernel

end PresenceSeal.Settings
