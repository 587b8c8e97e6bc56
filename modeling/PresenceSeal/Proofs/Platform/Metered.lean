import PresenceSeal.Proofs.Service.Alike

/-! Metered platforms. A ledger is kept of the handles that a processor gives out and gets
back, and of the foreground scopes that are taken and released, the inert ones too. The
platform answers as if no ledger were kept. -/
namespace PresenceSeal

/-- What has been given out and what has come back, handles in their order. -/
structure Ledger where
  opened : List Handle := []
  freed : List Handle := []
  taken : Nat := 0
  released : Nat := 0
  deriving DecidableEq

namespace Ledger

/-- Books a handle if there is one. -/
def opening (answer : Except ε Handle) (ledger : Ledger) : Ledger :=
  { ledger with opened := ledger.opened ++ answer.toOption.toList }

def freeing (handle : Handle) (ledger : Ledger) : Ledger :=
  { ledger with freed := ledger.freed ++ [handle] }

def taking (ledger : Ledger) : Ledger := { ledger with taken := ledger.taken + 1 }

def releasing (ledger : Ledger) : Ledger := { ledger with released := ledger.released + 1 }

/-- The ledger once some handles and scopes have been given out and have come back. -/
def settled (handles : List Handle) (scopes : Nat) (ledger : Ledger) : Ledger where
  opened := ledger.opened ++ handles
  freed := ledger.freed ++ handles
  taken := ledger.taken + scopes
  released := ledger.released + scopes

/-- Nothing is out: every handle has come back, and every scope. -/
def Balanced (ledger : Ledger) : Prop :=
  ledger.opened = ledger.freed ∧ ledger.taken = ledger.released

theorem settled_nothing (ledger : Ledger) : ledger.settled [] 0 = ledger := by
  simp [settled]

theorem releasing_taking (ledger : Ledger) : ledger.taking.releasing = ledger.settled [] 1 := by
  simp [taking, releasing, settled]

theorem opening_error (failure : ε) (ledger : Ledger) :
    ledger.opening (.error failure) = ledger := by
  simp [opening, Except.toOption]

theorem Balanced.settled {ledger : Ledger} (balanced : ledger.Balanced) (handles : List Handle)
    (scopes : Nat) : (ledger.settled handles scopes).Balanced :=
  ⟨congrArg (· ++ handles) balanced.1, congrArg (· + scopes) balanced.2⟩

end Ledger

/-- A device and the ledger that is kept of it. -/
structure Metered (δ : Type) where
  device : δ
  ledger : Ledger := {}

namespace Metered

/-- The surroundings without the ledger. -/
def within : Part (Surroundings (Metered δ)) (Surroundings δ) where
  get s := ⟨s.device.device, s.entropy⟩
  set inner s := ⟨{ s.device with device := inner.device }, inner.entropy⟩

/-- Works, and books what has come of it. -/
def booking (x : StateM (Surroundings δ) α) (change : α → Ledger → Ledger) :
    StateM (Surroundings (Metered δ)) α := do
  let a ← within.lift x
  modify fun s => { s with device := { s.device with ledger := change a s.device.ledger } }
  pure a

end Metered

open Metered (within booking)

/-- A handle is booked once it has been given out, and again once it has come back. -/
def Processor.metered (processor : Processor δ) : Processor (Metered δ) where
  acquire := ExceptT.mk (booking processor.acquire.run Ledger.opening)
  platformType handle := within.attempt (processor.platformType handle)
  release handle := booking (processor.release handle) fun _ => .freeing handle

def Credential.metered (credential : Credential δ) : Credential (Metered δ) where
  name := credential.name
  sign challenge prompt := within.attempt (credential.sign challenge prompt)

/-- Even where there is nothing to release, it is booked that the scope is given up. -/
def Scope.metered (scope : Scope δ) : Scope (Metered δ) where
  release? := some (booking scope.release fun _ => .releasing)

def Keyring.metered (keyring : Keyring δ) : Keyring (Metered δ) where
  isSupported := within.lift keyring.isSupported
  availability := within.lift keyring.availability
  create tag prompt := within.attempt (keyring.create tag prompt)
  openCredential tag := do
    let credential ← within.attempt (keyring.openCredential tag)
    pure credential.metered
  delete tag := within.attempt (keyring.delete tag)
  foreground := do
    let scope ← booking keyring.foreground fun _ => .taking
    pure scope.metered

def Stack.metered (stack : Stack δ) : Stack (Metered δ) :=
  ⟨stack.processor.metered, stack.keyring.metered, stack.prompt⟩

/-- The scene without the ledger. -/
def Metered.scene : Part (Scene (Metered δ)) (Scene δ) where
  get scene := ⟨within.get scene.surroundings, scene.journal⟩
  set inner scene := ⟨within.set inner.surroundings scene.surroundings, inner.journal⟩

/-- A codec asks nothing of the platform, and so nothing is booked. -/
def Codec.metered (codec : Codec δ) : Codec (Metered δ) where
  encrypt key text := Metered.scene.attempt (codec.encrypt key text)
  decrypt key wire := Metered.scene.attempt (codec.decrypt key wire)

theorem Codec.metered_ofEnvelopes : (ofEnvelopes : Codec δ).metered = ofEnvelopes := rfl

namespace Surroundings

/-- The ledger of a metered device. -/
def ledger (s : Surroundings (Metered δ)) : Ledger := s.device.ledger

end Surroundings

/-- What is not booked does what it would do by itself. -/
theorem Metered.of_run_lift {x : StateM (Surroundings δ) α} {a : α}
    {s after : Surroundings (Metered δ)} (ran : (within.lift x).run s = (a, after)) :
    x.run (within.get s) = (a, within.get after) ∧ after.ledger = s.ledger := by
  obtain ⟨rfl, rfl⟩ := Prod.mk.inj ran
  exact ⟨rfl, rfl⟩

/-- A session whose ledger is new. -/
def Session.metered (session : Session δ) : Session (Metered δ) :=
  ⟨⟨⟨⟨session.scene.surroundings.device, {}⟩, session.scene.surroundings.entropy⟩,
    session.scene.journal⟩, session.register⟩

/-- A session without the ledger. -/
def Session.unmetered (session : Session (Metered δ)) : Session δ :=
  ⟨⟨within.get session.scene.surroundings, session.scene.journal⟩, session.register⟩

def Session.ledger (session : Session (Metered δ)) : Ledger := session.scene.surroundings.ledger

namespace Metered

/-- A metered device with a device that it may hold. -/
def Holds (metered : Metered δ) (device : δ) : Prop := metered.device = device

theorem within_get_of_alike {s : Surroundings (Metered δ)} {t : Surroundings δ}
    (related : s.Alike Holds t) : within.get s = t := by
  obtain ⟨device, entropy⟩ := t
  obtain ⟨rfl, rfl⟩ := related
  rfl

theorem lift_alike (x : StateM (Surroundings δ) α) :
    Alike (Surroundings.Alike Holds) Eq (within.lift x) x := by
  intro s t related
  obtain rfl := within_get_of_alike related
  exact ⟨rfl, rfl, rfl⟩

theorem attempt_alike (x : Attempt (Surroundings δ) ε α) :
    Attempt.Alike (Surroundings.Alike Holds) Eq (within.attempt x) x := by
  intro s t related
  obtain rfl := within_get_of_alike related
  exact ⟨.refl _, rfl, rfl⟩

theorem booking_alike (x : StateM (Surroundings δ) α) (change : α → Ledger → Ledger) :
    Alike (Surroundings.Alike Holds) Eq (booking x change) x := by
  intro s t related
  obtain rfl := within_get_of_alike related
  exact ⟨rfl, rfl, rfl⟩

end Metered

open Metered (Holds lift_alike attempt_alike booking_alike)

theorem Processor.metered_alike (processor : Processor δ) :
    processor.metered.Alike Holds processor where
  acquire := by
    intro s t related
    obtain ⟨same, after⟩ := booking_alike processor.acquire.run Ledger.opening s t related
    exact ⟨same ▸ .refl _, after⟩
  platformType _ := attempt_alike _
  release _ := booking_alike _ _

theorem Keyring.metered_alike (keyring : Keyring δ) : keyring.metered.Alike Holds keyring where
  isSupported := lift_alike _
  availability := lift_alike _
  create _ _ := attempt_alike _
  openCredential tag := by
    have metered : Attempt.Alike (Surroundings.Alike Holds) (Credential.Alike Holds)
        (keyring.metered.openCredential tag) (keyring.openCredential tag >>= pure) := by
      refine .bind (attempt_alike _) ?_
      rintro credential _ rfl
      exact .pure fun _ _ => attempt_alike _
    rw [bind_pure] at metered
    exact metered
  delete _ := attempt_alike _
  foreground := by
    intro s t related
    obtain rfl := Metered.within_get_of_alike related
    exact ⟨booking_alike _ _, rfl, rfl⟩

/-- Whoever keeps a ledger, the same session gets the same replies. -/
theorem Stack.exchange_metered (stack : Stack δ) (request : Request)
    (session : Session (Metered δ)) :
    let metered := (stack.metered.service Codec.ofEnvelopes).exchange request session
    let bare := (stack.service Codec.ofEnvelopes).exchange request session.unmetered
    metered.reply = bare.reply ∧ metered.after.Alike Holds bare.after := by
  have services : (stack.metered.service Codec.ofEnvelopes).Alike Holds
      (stack.service Codec.ofEnvelopes) :=
    service_alike stack.processor.metered_alike stack.keyring.metered_alike rfl
  exact services.exchange request ⟨⟨rfl, rfl⟩, rfl⟩

end PresenceSeal
