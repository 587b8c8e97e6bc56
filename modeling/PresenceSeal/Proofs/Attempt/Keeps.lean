import PresenceSeal.Service.Basic

/-! Attempts that leave alone what can be seen of a state, and what is made of them. -/
namespace PresenceSeal

/-- An attempt that keeps what can be seen of the state, whether it fails or not. -/
def Attempt.Keeps (x : Attempt σ ε α) (view : σ → τ) : Prop :=
  ∀ s, view (x.run.run s).2 = view s

theorem Attempt.Keeps.bind {x : Attempt σ ε α} {f : α → Attempt σ ε β} {view : σ → τ}
    (first : x.Keeps view) (second : ∀ a, (f a).Keeps view) : (x >>= f).Keeps view := by
  intro s
  have kept := first s
  revert kept
  rw [Attempt.run_bind]
  rcases x.run.run s with ⟨_ | a, t⟩
  · exact id
  · exact fun kept => (second a t).trans kept

/-- A security processor that leaves alone what can be seen of the surroundings. -/
structure Processor.Keeps (processor : Processor δ) (view : Surroundings δ → τ) : Prop where
  acquire : processor.acquire.Keeps view
  platformType : ∀ handle, (processor.platformType handle).Keeps view
  release : ∀ handle s, view ((processor.release handle).run s).2 = view s

namespace Oracle

variable {processor : Processor δ} {view : Surroundings δ → τ}

theorem judge_keeps (keeps : processor.Keeps view) (handle : Handle) :
    (judge processor handle).Keeps fun scene => view scene.surroundings :=
  .bind (fun scene => keeps.platformType handle scene.surroundings) fun _ =>
    .bind (fun _ => rfl) fun _ => .bind (fun _ => rfl) fun _ => fun _ => rfl

theorem probe_keeps (keeps : processor.Keeps view) :
    (probe processor).Keeps fun scene => view scene.surroundings :=
  .bind (fun scene => keeps.acquire scene.surroundings) fun handle scene =>
    (keeps.release handle _).trans (judge_keeps keeps handle scene)

theorem biometry_keeps {keyring : Keyring δ}
    (isSupported : ∀ s, view (keyring.isSupported.run s).2 = view s)
    (availability : ∀ s, view (keyring.availability.run s).2 = view s) :
    (biometry keyring).Keeps fun scene => view scene.surroundings := by
  refine .bind (fun scene => isSupported scene.surroundings) fun supported => ?_
  cases supported with
  | true => exact fun _ => rfl
  | false =>
    refine .bind (fun scene => availability scene.surroundings) fun answer => ?_
    cases answer with
    | other raw => exact .bind (fun _ => rfl) fun _ _ => rfl
    | _ => exact fun _ => rfl

end Oracle

namespace Service

variable {service : Service δ} {view : Surroundings δ → τ}

theorem tpmStatus_keeps
    (keeps : service.oracle.platformStatus.Keeps fun scene => view scene.surroundings) :
    service.tpmStatus.Keeps fun session => (session.register, view session.scene.surroundings) :=
  .bind (fun session => congrArg (Prod.mk session.register) (keeps session.scene))
    fun outcome session => by
      rcases outcome with (_ | _) | _ <;> rfl

theorem biometryStatus_keeps
    (keeps : service.oracle.biometryStatus.Keeps fun scene => view scene.surroundings) :
    service.biometryStatus.Keeps fun session =>
      (session.register, view session.scene.surroundings) :=
  .bind (fun session => congrArg (Prod.mk session.register) (keeps session.scene)) fun _ _ => rfl

theorem configure_keeps (seed : String) :
    (configure seed).Keeps fun session : Session δ => session.scene.surroundings := by
  intro session
  rw [configure, Attempt.run_get_bind]
  by_cases empty : seed.isEmpty
  · simp only [Register.set, empty]
    rfl
  · simp only [Register.set, empty]
    rfl

end Service

end PresenceSeal
