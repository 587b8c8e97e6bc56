import PresenceSeal.Proofs.Host.Wiring
import PresenceSeal.Proofs.Service.Stages

/-! How credentials come and go over any platform: biometry is asked for, a foreground scope
is taken, the platform answers, and the scope is released whatever the answer is. -/
namespace PresenceSeal

open Host.Wiring (creationFault deletionOutcome)

namespace Stack

/-- The ways in which a creation or a deletion can go: `work` is what the platform is asked,
and `judge` says what is made of its answer. -/
inductive Upkeep (stack : Stack δ) (work : Attempt (Surroundings δ) Refusal Unit)
    (judge : Except Refusal Unit → Except Fault Unit) (s : Surroundings δ) :
    Except Fault Unit → Surroundings δ → Prop where
  | barred {contacts fault after} : Probing stack.keyring s contacts (.error fault) after →
      Upkeep stack work judge s (.error fault) after
  | answered {contacts probed scope held answer done} :
      Probing stack.keyring s contacts (.ok ()) probed →
      stack.keyring.foreground.run probed = (scope, held) →
      work.run.run held = (answer, done) →
      Upkeep stack work judge s (judge answer) (scope.release.run done).2

/-- The ways in which a creation can go. -/
abbrev Creating (stack : Stack δ) (tag : String) :=
  stack.Upkeep (stack.keyring.create tag stack.prompt) (·.mapError creationFault)

/-- The ways in which a deletion can go. -/
abbrev Deleting (stack : Stack δ) (tag : String) :=
  stack.Upkeep (stack.keyring.delete tag) deletionOutcome

variable (stack : Stack δ)

theorem upkeep {work : Attempt (Surroundings δ) Refusal Unit}
    {judge : Except Refusal Unit → Except Fault Unit} {body : Attempt (Scene δ) Fault Unit}
    (judged : ∀ scene, ∃ journal, body.run.run scene =
      let ran := work.run.run scene.surroundings
      (judge ran.1, ⟨ran.2, journal⟩))
    (scene : Scene δ) :
    ∃ outcome after journal,
      (Vault.ensureBiometry stack.oracle >>= fun _ =>
        Vault.inForeground stack.keyring body).run.run scene = (outcome, ⟨after, journal⟩) ∧
      stack.Upkeep work judge scene.surroundings outcome after := by
  obtain ⟨contacts, outcome, probed, noted, ran, probing⟩ := stack.probing scene
  rw [Attempt.run_bind, ran]
  cases outcome with
  | error fault => exact ⟨_, _, _, rfl, .barred probing⟩
  | ok =>
    obtain ⟨scope, held, taken⟩ : ∃ scope held,
        stack.keyring.foreground.run probed = (scope, held) := ⟨_, _, rfl⟩
    obtain ⟨answer, done, asked⟩ : ∃ answer done,
        work.run.run held = (answer, done) := ⟨_, _, rfl⟩
    obtain ⟨journal, worked⟩ := judged ⟨held, noted⟩
    simp only []
    rw [Vault.run_inForeground taken, worked]
    simp only [asked]
    exact ⟨_, _, _, rfl, .answered probing taken asked⟩

theorem creating (tag : String) (scene : Scene δ) :
    ∃ outcome after journal,
      (stack.vault.create tag).run.run scene = (outcome, ⟨after, journal⟩) ∧
        stack.Creating tag scene.surroundings outcome after :=
  stack.upkeep (Host.Wiring.run_createIn stack.keyring stack.prompt tag) scene

theorem deleting (tag : String) (scene : Scene δ) :
    ∃ outcome after journal,
      (stack.vault.delete tag).run.run scene = (outcome, ⟨after, journal⟩) ∧
        stack.Deleting tag scene.surroundings outcome after :=
  stack.upkeep (Host.Wiring.run_deleteIn stack.keyring tag) scene

theorem Probing.fault_ne_keyNotFound {keyring : Keyring δ} {s after : Surroundings δ}
    {contacts : List Contact} {fault : Fault}
    (probing : Probing keyring s contacts (.error fault) after) : fault ≠ .keyNotFound := by
  cases probing <;> nofun

/-- What the service would forgive of a deletion, the vault has forgiven before. -/
theorem Upkeep.ne_keyNotFound {stack : Stack δ} {tag : String} {s after : Surroundings δ}
    {outcome : Except Fault Unit} (deleting : stack.Deleting tag s outcome after) :
    outcome ≠ .error .keyNotFound := by
  cases deleting with
  | barred probing =>
    rintro ⟨⟩
    exact probing.fault_ne_keyNotFound rfl
  | @answered _ _ _ _ answer =>
    rcases answer with refusal | _
    · cases refusal <;> nofun
    · nofun

theorem exchange_of_generateKey {codec : Codec δ} {request : Request} {tag : String}
    (made : request.call? = some (.generateKey tag)) (session : Session δ) :
    let x := (stack.service codec).exchange request session
    ∃ outcome, stack.Creating tag session.scene.surroundings outcome x.after.scene.surroundings ∧
      x.reply = .ofOutcome (outcome.map fun _ => .null) ∧ x.after.register = session.register := by
  obtain ⟨outcome, after, journal, ran, creating⟩ :=
    stack.creating tag (session.noting .debug "handling method call").scene
  have performed : ((stack.service codec).perform (.generateKey tag)).run.run
      (session.noting .debug "handling method call") =
        (outcome.map fun _ => .null, { session with scene := ⟨after, journal⟩ }) := by
    rw [Service.perform, Attempt.run_bind, Service.generateKey, Part.run_attempt]
    simp only [Session.components, service, ran]
    cases outcome <;> rfl
  obtain ⟨reply, register, surroundings⟩ := (stack.service codec).exchange_of_perform made performed
  exact ⟨outcome, surroundings ▸ creating, reply, register⟩

theorem exchange_of_deleteKey {codec : Codec δ} {request : Request} {tag : String}
    (made : request.call? = some (.deleteKey tag)) (session : Session δ) :
    let x := (stack.service codec).exchange request session
    ∃ outcome, stack.Deleting tag session.scene.surroundings outcome x.after.scene.surroundings ∧
      x.reply = .ofOutcome (outcome.map fun _ => .null) ∧ x.after.register = session.register := by
  obtain ⟨outcome, after, journal, ran, deleting⟩ :=
    stack.deleting tag (session.noting .debug "handling method call").scene
  have performed : ((stack.service codec).perform (.deleteKey tag)).run.run
      (session.noting .debug "handling method call") =
        (outcome.map fun _ => .null, { session with scene := ⟨after, journal⟩ }) := by
    rw [Service.perform, Attempt.run_bind, Service.deleteKey, Attempt.run_bind,
      Attempt.run_outcome, Part.run_attempt]
    simp only [Session.components, service, ran]
    have known := deleting.ne_keyNotFound
    rcases outcome with fault | _
    · cases fault <;> first | contradiction | rfl
    · rfl
  obtain ⟨reply, register, surroundings⟩ := (stack.service codec).exchange_of_perform made performed
  exact ⟨outcome, surroundings ▸ deleting, reply, register⟩

end Stack

end PresenceSeal
