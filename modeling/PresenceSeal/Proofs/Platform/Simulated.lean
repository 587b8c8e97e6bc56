import PresenceSeal.Platform.Simulated

/-! The simulated keyring, operation by operation: an outcome that is set decides, and else
it is the tags that decide. What is counted is counted in either case. -/
namespace PresenceSeal.Simulated

theorem run_create (tag : String) (prompt : Prompt) (s : Surroundings Device) :
    let asked : Surroundings Device := { s with device := { s.device with prompt := some prompt } }
    (keyring.create tag prompt).run.run s =
      match s.device.settings.createOutcome with
      | some refusal => (.error refusal, asked)
      | none =>
        if tag ∈ s.device.tags then (.error .credentialAlreadyExists, asked)
        else
          (.ok (), { asked with
            device := { asked.device with tags := tag :: s.device.tags } }) := by
  intro asked
  have changed : (keyring.create tag prompt).run.run s = ((do
      follow s.device.settings.createOutcome
      if tag ∈ s.device.tags then throw .credentialAlreadyExists
      change fun d => { d with tags := tag :: d.tags }) :
        Attempt (Surroundings Device) Refusal Unit).run.run asked := rfl
  rw [changed, Attempt.run_bind]
  cases s.device.settings.createOutcome with
  | some refusal => rfl
  | none =>
    by_cases present : tag ∈ s.device.tags
    · simp only [present]
      rfl
    · simp only [present]
      rfl

theorem run_openCredential (tag : String) (s : Surroundings Device) :
    let asked := { s with device := { s.device with opens := s.device.opens + 1 } }
    (keyring.openCredential tag).run.run s =
      match s.device.settings.openOutcome with
      | some refusal => (.error refusal, asked)
      | none =>
        if tag ∈ s.device.tags then (.ok ⟨tag, sign tag⟩, asked)
        else (.error .notFound, asked) := by
  intro asked
  have changed : (keyring.openCredential tag).run.run s = ((do
      follow s.device.settings.openOutcome
      if tag ∈ s.device.tags then pure ⟨tag, sign tag⟩ else throw .notFound) :
        Attempt (Surroundings Device) Refusal (Credential Device)).run.run asked := rfl
  rw [changed, Attempt.run_bind]
  cases s.device.settings.openOutcome with
  | some refusal => rfl
  | none =>
    by_cases present : tag ∈ s.device.tags
    · simp only [present]
      rfl
    · simp only [present]
      rfl

theorem run_delete (tag : String) (s : Surroundings Device) :
    (keyring.delete tag).run.run s =
      match s.device.settings.deleteOutcome with
      | some refusal => (.error refusal, s)
      | none =>
        if tag ∈ s.device.tags then
          (.ok (), { s with device := { s.device with tags := s.device.tags.filter (· != tag) } })
        else (.error .notFound, s) := by
  have begun : (keyring.delete tag).run.run s = ((do
      follow s.device.settings.deleteOutcome
      if tag ∈ s.device.tags then change fun d => { d with tags := d.tags.filter (· != tag) }
      else throw .notFound) : Attempt (Surroundings Device) Refusal Unit).run.run s := rfl
  rw [begun, Attempt.run_bind]
  cases s.device.settings.deleteOutcome with
  | some refusal => rfl
  | none =>
    by_cases present : tag ∈ s.device.tags
    · simp only [present]
      rfl
    · simp only [present]
      rfl

theorem run_sign (tag : String) (challenge : List UInt8) (prompt : Prompt)
    (s : Surroundings Device) :
    let asked : Surroundings Device := { s with device := { s.device with
      signs := s.device.signs + 1, challenge := some challenge, prompt := some prompt } }
    (sign tag challenge prompt).run.run s =
      match s.device.settings.signOutcome with
      | some refusal => (.error refusal, asked)
      | none =>
        (.ok ⟨s.device.settings.signature.getD (defaultSignature tag challenge)⟩, asked) := by
  intro asked
  have changed : (sign tag challenge prompt).run.run s = ((do
      follow s.device.settings.signOutcome
      pure ⟨s.device.settings.signature.getD (defaultSignature tag challenge)⟩) :
        Attempt (Surroundings Device) Refusal Secret.Buffer).run.run asked := rfl
  rw [changed, Attempt.run_bind]
  cases s.device.settings.signOutcome <;> rfl

end PresenceSeal.Simulated
