import PresenceSeal.Platform.Software
import PresenceSeal.Proofs.Consent.Answer

/-! The keyring in memory, operation by operation: what each one answers and what it
leaves behind. Consent is asked for once the tag has been looked up and before
anything is drawn, stored or signed. -/
namespace PresenceSeal

namespace Station

def noting (severity : Severity) (text : String) (s : Surroundings Station) :
    Surroundings Station :=
  noted.set (⟨severity, text⟩ :: s.device.journal) s

theorem run_checkFree (tag : String) (s : Surroundings Station) :
    (checkFree tag).run.run s =
      (if s.device.store.contains tag then .error .credentialAlreadyExists else .ok (), s) := by
  rw [checkFree, Attempt.run_get_bind]
  by_cases taken : s.device.store.contains tag <;> simp only [taken] <;> rfl

theorem run_ask (prompt : Prompt) (s : Surroundings Station) :
    (ask prompt : Attempt (Surroundings Station) ε Unit).run.run s =
      (.ok (), atDesk.set (s.device.desk.ask prompt) s) := rfl

/-- What has been asked is settled as one step would have settled it. -/
theorem run_settle_ask (prompt : Prompt) (s : Surroundings Station) :
    settle.run.run (atDesk.set (s.device.desk.ask prompt) s) =
      ((s.device.desk.answer prompt).1, atDesk.set (s.device.desk.answer prompt).2 s) := rfl

theorem run_drawPair (s : Surroundings Station) :
    drawPair.run.run s =
      match s.entropy.draw? 32 with
      | some (seed, rest) => (.ok ⟨seed⟩, atSource.set rest s)
      | none => (.error .unknownError, noting .error "Ed25519 key generation failed" s) := by
  rw [drawPair, Attempt.run_bind, Attempt.run_outcome, Part.run_attempt]
  simp only [Entropy.draw, ExceptT.run, StateT.run, atSource]
  cases s.entropy.draw? 32 <;> rfl

/-- The tag is looked at again before the key pair is put there. -/
theorem run_install (tag : String) (s : Surroundings Station) :
    (install tag).run.run s =
      match s.entropy.draw? 32 with
      | none => (.error .unknownError, noting .error "Ed25519 key generation failed" s)
      | some (seed, rest) =>
        if s.device.store.contains tag then
          (.error .credentialAlreadyExists, atSource.set rest s)
        else
          let device := { s.device with store := s.device.store.insert tag ⟨seed⟩ }
          (.ok (), noting .debug "software credential created" ⟨device, rest⟩) := by
  rw [install, Attempt.run_bind, run_drawPair]
  rcases s.entropy.draw? 32 with _ | ⟨seed, rest⟩
  · rfl
  · simp only []
    rw [Attempt.run_bind, run_checkFree]
    by_cases taken : s.device.store.contains tag <;> simp only [atSource, taken] <;> rfl

theorem run_sign (pair : Signature.Ed25519.KeyPair) (challenge : List UInt8) (prompt : Prompt)
    (s : Surroundings Station) :
    (sign pair challenge prompt).run.run s =
      ((s.device.desk.answer prompt).1.map fun _ => ⟨(pair.sign challenge).val⟩,
        atDesk.set (s.device.desk.answer prompt).2 s) := by
  rw [sign, Attempt.run_bind, run_ask]
  simp only []
  rw [Attempt.run_bind, run_settle_ask]
  cases (s.device.desk.answer prompt).1 <;> rfl

end Station

namespace Keyring

variable (supported : Bool) (availability : Availability)

/-- A creation asks for consent only if the tag is free, and draws only with consent. -/
theorem run_create (tag : String) (prompt : Prompt) (s : Surroundings Station) :
    ((software supported availability).create tag prompt).run.run s =
      if s.device.store.contains tag then (.error .credentialAlreadyExists, s)
      else
        let asked := Station.atDesk.set (s.device.desk.answer prompt).2 s
        match (s.device.desk.answer prompt).1 with
        | .error refusal => (.error refusal, asked)
        | .ok () => (Station.install tag).run.run asked := by
  rw [software, Attempt.run_bind, Station.beginCreate, Attempt.run_bind, Station.run_checkFree]
  by_cases taken : s.device.store.contains tag
  · simp only [taken]
    rfl
  · simp only [taken, Bool.false_eq_true, ↓reduceIte, Station.run_ask]
    rw [Station.finishCreate, Attempt.run_bind, Station.run_settle_ask]
    cases (s.device.desk.answer prompt).1 <;> rfl

theorem run_openCredential (tag : String) (s : Surroundings Station) :
    ((software supported availability).openCredential tag).run.run s =
      match s.device.store.find? tag with
      | some pair => (.ok ⟨tag, Station.sign pair⟩, s)
      | none => (.error .notFound, s) := by
  rw [software, Attempt.run_get_bind]
  cases s.device.store.find? tag <;> rfl

theorem run_delete (tag : String) (s : Surroundings Station) :
    ((software supported availability).delete tag).run.run s =
      if s.device.store.contains tag then
        (.ok (), { s with device := { s.device with store := s.device.store.erase tag } })
      else (.error .notFound, s) := by
  rw [software, Attempt.run_get_bind]
  by_cases present : s.device.store.contains tag <;> simp only [present] <;> rfl

end Keyring

end PresenceSeal
