import PresenceSeal.Proofs.Service.Alike

/-! Watched platforms. Every operation of a platform is noted, with its arguments, before it
is handed on; so what a service has asked of its platform can be read off afterwards. The
platform answers as if nobody watched. -/
namespace PresenceSeal

/-- One operation that was asked of a platform. -/
inductive Contact where
  | acquire
  | platformType (handle : Handle)
  | releaseHandle (handle : Handle)
  | isSupported
  | availability
  | create (tag : String) (prompt : Prompt)
  | openCredential (tag : String)
  | sign (credential : String) (challenge : List UInt8) (prompt : Prompt)
  | delete (tag : String)
  | foreground
  | releaseScope
  deriving DecidableEq

/-- A device and what it was asked, in order. -/
structure Watched (δ : Type) where
  device : δ
  contacts : List Contact := []

namespace Watched

/-- The surroundings without the watcher. -/
def within : Part (Surroundings (Watched δ)) (Surroundings δ) where
  get s := ⟨s.device.device, s.entropy⟩
  set inner s := ⟨{ s.device with device := inner.device }, inner.entropy⟩

def note (contact : Contact) (s : Surroundings (Watched δ)) : Surroundings (Watched δ) :=
  { s with device := { s.device with contacts := s.device.contacts ++ [contact] } }

/-- Notes an operation and carries it out. -/
def watching (contact : Contact) (x : StateM (Surroundings δ) α) :
    StateM (Surroundings (Watched δ)) α := do
  modify (note contact)
  within.lift x

def attempting (contact : Contact) (x : Attempt (Surroundings δ) ε α) :
    Attempt (Surroundings (Watched δ)) ε α :=
  ExceptT.mk (watching contact x.run)

variable {contact : Contact} {s after : Surroundings (Watched δ)}

/-- A watched operation does what it would do by itself, and is noted once. -/
theorem of_run_watching {x : StateM (Surroundings δ) α} {a : α}
    (ran : (watching contact x).run s = (a, after)) :
    x.run (within.get s) = (a, within.get after) ∧
      after.device.contacts = s.device.contacts ++ [contact] := by
  obtain ⟨rfl, rfl⟩ := Prod.mk.inj ran
  exact ⟨rfl, rfl⟩

theorem of_run_attempting {x : Attempt (Surroundings δ) ε α} {outcome : Except ε α}
    (ran : (attempting contact x).run.run s = (outcome, after)) :
    x.run.run (within.get s) = (outcome, within.get after) ∧
      after.device.contacts = s.device.contacts ++ [contact] :=
  of_run_watching ran

end Watched

open Watched (watching attempting)

def Processor.watched (processor : Processor δ) : Processor (Watched δ) where
  acquire := attempting .acquire processor.acquire
  platformType handle := attempting (.platformType handle) (processor.platformType handle)
  release handle := watching (.releaseHandle handle) (processor.release handle)

def Credential.watched (credential : Credential δ) : Credential (Watched δ) where
  name := credential.name
  sign challenge prompt :=
    attempting (.sign credential.name challenge prompt) (credential.sign challenge prompt)

/-- A scope that has nothing to release is not released. -/
def Scope.watched (scope : Scope δ) : Scope (Watched δ) where
  release? := scope.release?.map (watching .releaseScope)

/-- What releasing a scope asks of the platform. -/
def Scope.contacts (scope : Scope δ) : List Contact :=
  if scope.release?.isSome then [.releaseScope] else []

def Keyring.watched (keyring : Keyring δ) : Keyring (Watched δ) where
  isSupported := watching .isSupported keyring.isSupported
  availability := watching .availability keyring.availability
  create tag prompt := attempting (.create tag prompt) (keyring.create tag prompt)
  openCredential tag := do
    let credential ← attempting (.openCredential tag) (keyring.openCredential tag)
    pure credential.watched
  delete tag := attempting (.delete tag) (keyring.delete tag)
  foreground := do
    let scope ← watching .foreground keyring.foreground
    pure scope.watched

def Stack.watched (stack : Stack δ) : Stack (Watched δ) :=
  ⟨stack.processor.watched, stack.keyring.watched, stack.prompt⟩

/-- The scene without the watcher. -/
def Scene.within : Part (Scene (Watched δ)) (Scene δ) where
  get scene := ⟨Watched.within.get scene.surroundings, scene.journal⟩
  set inner scene := ⟨Watched.within.set inner.surroundings scene.surroundings, inner.journal⟩

/-- A codec is not watched, since it asks nothing of the platform. -/
def Codec.watched (codec : Codec δ) : Codec (Watched δ) where
  encrypt key text := Scene.within.attempt (codec.encrypt key text)
  decrypt key wire := Scene.within.attempt (codec.decrypt key wire)

theorem Codec.watched_ofEnvelopes : (ofEnvelopes : Codec δ).watched = ofEnvelopes := rfl

/-- A session without the watcher. -/
def Session.unwatched (session : Session (Watched δ)) : Session δ :=
  ⟨⟨Watched.within.get session.scene.surroundings, session.scene.journal⟩, session.register⟩

def Session.contacts (session : Session (Watched δ)) : List Contact :=
  session.scene.surroundings.device.contacts

namespace Watched

/-- A watched device with a device that it may hold. -/
def Holds (watched : Watched δ) (device : δ) : Prop := watched.device = device

theorem alike_within_get (s : Surroundings (Watched δ)) :
    s.Alike Holds (within.get s) := ⟨rfl, rfl⟩

theorem within_get_of_alike {s : Surroundings (Watched δ)} {t : Surroundings δ}
    (related : s.Alike Holds t) : within.get s = t := by
  obtain ⟨device, entropy⟩ := t
  obtain ⟨rfl, rfl⟩ := related
  rfl

theorem watching_alike (contact : Contact) (x : StateM (Surroundings δ) α) :
    Alike (Surroundings.Alike Holds) Eq (watching contact x) x := by
  intro s t related
  obtain rfl := within_get_of_alike related
  exact ⟨rfl, alike_within_get _⟩

theorem attempting_alike (contact : Contact) (x : Attempt (Surroundings δ) ε α) :
    Attempt.Alike (Surroundings.Alike Holds) Eq (attempting contact x) x := by
  intro s t related
  obtain rfl := within_get_of_alike related
  exact ⟨.refl _, alike_within_get _⟩

end Watched

open Watched (Holds watching_alike attempting_alike)

theorem Processor.watched_alike (processor : Processor δ) :
    processor.watched.Alike Holds processor where
  acquire := attempting_alike _ _
  platformType _ := attempting_alike _ _
  release _ := watching_alike _ _

theorem Credential.watched_alike (credential : Credential δ) :
    credential.watched.Alike Holds credential :=
  fun _ _ => attempting_alike _ _

theorem Scope.watched_alike (scope : Scope δ) : scope.watched.Alike Holds scope := by
  obtain ⟨_ | release⟩ := scope
  · exact fun _ _ related => ⟨rfl, related⟩
  · exact watching_alike .releaseScope release

theorem Keyring.watched_alike (keyring : Keyring δ) : keyring.watched.Alike Holds keyring where
  isSupported := watching_alike _ _
  availability := watching_alike _ _
  create _ _ := attempting_alike _ _
  openCredential tag := by
    have watched : Attempt.Alike (Surroundings.Alike Holds) (Credential.Alike Holds)
        (keyring.watched.openCredential tag) (keyring.openCredential tag >>= pure) := by
      refine .bind (attempting_alike _ _) ?_
      rintro credential _ rfl
      exact .pure credential.watched_alike
    rw [bind_pure] at watched
    exact watched
  delete _ := attempting_alike _ _
  foreground := by
    intro s t related
    obtain rfl := Watched.within_get_of_alike related
    exact ⟨Scope.watched_alike _, Watched.alike_within_get _⟩

theorem Session.alike_unwatched (session : Session (Watched δ)) :
    session.Alike Holds session.unwatched :=
  ⟨Watched.alike_within_get session.scene.surroundings, rfl⟩

/-- Whoever watches, the same session gets the same replies. -/
theorem Stack.exchange_watched (stack : Stack δ) (request : Request)
    (session : Session (Watched δ)) :
    let watched := (stack.watched.service Codec.ofEnvelopes).exchange request session
    let bare := (stack.service Codec.ofEnvelopes).exchange request session.unwatched
    watched.reply = bare.reply ∧ watched.after.Alike Holds bare.after := by
  have services : (stack.watched.service Codec.ofEnvelopes).Alike Holds
      (stack.service Codec.ofEnvelopes) :=
    service_alike stack.processor.watched_alike stack.keyring.watched_alike rfl
  exact services.exchange request session.alike_unwatched

end PresenceSeal
