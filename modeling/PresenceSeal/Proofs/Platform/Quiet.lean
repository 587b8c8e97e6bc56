import PresenceSeal.Proofs.Platform.Simulated
import PresenceSeal.Proofs.Platform.Software

/-! Keyrings that draw no random bytes where encryption and decryption ask them. The keyring
in memory is one, and so is the simulated one, whatever its settings are. -/
namespace PresenceSeal

/-- Leaves the random source as it is, whether it fails or not. -/
def Attempt.Quiet (x : Attempt (Surroundings δ) ε α) : Prop :=
  ∀ s, (x.run.run s).2.entropy = s.entropy

namespace Attempt.Quiet

theorem pure (a : α) : Quiet (pure a : Attempt (Surroundings δ) ε α) := fun _ => rfl

theorem throw (fault : ε) : Quiet (throw fault : Attempt (Surroundings δ) ε α) := fun _ => rfl

theorem bind {x : Attempt (Surroundings δ) ε α} {f : α → Attempt (Surroundings δ) ε β}
    (first : x.Quiet) (next : ∀ a, (f a).Quiet) : (x >>= f).Quiet := by
  intro s
  have begun := first s
  rw [Attempt.run_bind]
  obtain ⟨outcome, t, ran⟩ : ∃ outcome t, x.run.run s = (outcome, t) := ⟨_, _, rfl⟩
  rw [ran] at begun ⊢
  cases outcome with
  | error fault => exact begun
  | ok a => exact (next a t).trans begun

end Attempt.Quiet

/-- A keyring that draws no random bytes but for what it creates and deletes. -/
structure Keyring.Quiet (keyring : Keyring δ) : Prop where
  isSupported : ∀ s, (keyring.isSupported.run s).2.entropy = s.entropy
  availability : ∀ s, (keyring.availability.run s).2.entropy = s.entropy
  openCredential : ∀ tag, (keyring.openCredential tag).Quiet
  sign : ∀ tag s credential, ((keyring.openCredential tag).run.run s).1 = .ok credential →
    ∀ challenge prompt, (credential.sign challenge prompt).Quiet
  foreground : ∀ s, (keyring.foreground.run s).2.entropy = s.entropy
  release : ∀ s t, ((keyring.foreground.run s).1.release.run t).2.entropy = t.entropy

theorem Keyring.software_quiet (supported : Bool) (availability : Availability) :
    (software supported availability).Quiet where
  isSupported _ := rfl
  availability _ := rfl
  openCredential tag s := by
    rw [run_openCredential]
    split <;> rfl
  sign tag s credential opens challenge prompt t := by
    rw [run_openCredential] at opens
    split at opens
    · obtain rfl := Except.ok.inj opens
      rw [Station.run_sign]
      rfl
    · cases opens
  foreground _ := rfl
  release _ _ := rfl

namespace Simulated

theorem change_quiet (f : Device → Device) :
    Attempt.Quiet (change f : Attempt (Surroundings Device) ε Unit) := fun _ => rfl

theorem follow_quiet (outcome? : Option ε) : (follow outcome?).Quiet := by
  cases outcome? with
  | none => exact .pure ()
  | some outcome => exact .throw outcome

theorem device_quiet : Attempt.Quiet (device : Attempt (Surroundings Device) ε Device) :=
  fun _ => rfl

theorem sign_quiet (tag : String) (challenge : List UInt8) (prompt : Prompt) :
    (sign tag challenge prompt).Quiet :=
  .bind (change_quiet _) fun _ => .bind device_quiet fun _ => .bind (follow_quiet _) fun _ =>
    .pure _

theorem keyring_quiet : keyring.Quiet where
  isSupported _ := rfl
  availability _ := rfl
  openCredential tag s := by
    rw [run_openCredential]
    split
    · rfl
    · split <;> rfl
  sign tag s credential opens challenge prompt := by
    rw [run_openCredential] at opens
    split at opens
    · cases opens
    · split at opens
      · obtain rfl := Except.ok.inj opens
        exact sign_quiet tag challenge prompt
      · cases opens
  foreground s := by
    obtain ⟨⟨settings, _⟩, _⟩ := s
    obtain ⟨_, _, _, _, _, _, _, _, _, _, _ | _⟩ := settings
    · rfl
    · rfl
  release s t := by
    obtain ⟨⟨settings, _⟩, _⟩ := s
    obtain ⟨_, _, _, _, _, _, _, _, _, _, _ | _⟩ := settings
    · rfl
    · rfl

end Simulated

end PresenceSeal
