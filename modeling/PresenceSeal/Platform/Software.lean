import PresenceSeal.Consent.Gate
import PresenceSeal.Lookup
import PresenceSeal.Platform.Surroundings
import PresenceSeal.Signature.Ed25519

/-! A keyring in memory, for hosts without a native one. Creating a credential takes
three steps: the tag must be free, the user must consent, and the tag must still be
free when the new key pair is put there; so a key pair is never overwritten, whatever
happens while the user is asked. An opened credential keeps its key pair. -/
namespace PresenceSeal

open Signature (Ed25519.KeyPair)

/-- Key pairs by tag; no tag occurs twice. -/
structure Store where
  credentials : List (String × Ed25519.KeyPair) := []
  deriving DecidableEq

namespace Store

def find? (store : Store) (tag : String) : Option Ed25519.KeyPair := store.credentials.lookup tag

def contains (store : Store) (tag : String) : Bool := (store.find? tag).isSome

def insert (store : Store) (tag : String) (pair : Ed25519.KeyPair) : Store :=
  ⟨(tag, pair) :: store.credentials⟩

def erase (store : Store) (tag : String) : Store :=
  ⟨store.credentials.filter (·.1 != tag)⟩

theorem find?_insert_self (store : Store) (tag : String) (pair : Ed25519.KeyPair) :
    (store.insert tag pair).find? tag = some pair := by
  simp [find?, insert]

theorem find?_insert_of_ne (store : Store) {tag other : String} (pair : Ed25519.KeyPair)
    (differ : other ≠ tag) : (store.insert tag pair).find? other = store.find? other := by
  simp [find?, insert, List.lookup_cons, beq_eq_false_iff_ne.mpr differ]

theorem find?_erase (store : Store) (tag other : String) :
    (store.erase tag).find? other = if other = tag then none else store.find? other :=
  lookup_filter_ne store.credentials tag other

end Store

/-- The device of a host: its store, the desk at which it asks for consent, and what
it has noted. -/
structure Station where
  store : Store := {}
  desk : Consent.Desk
  journal : Journal := []

namespace Station

def atDesk : Part (Surroundings Station) Consent.Desk where
  get s := s.device.desk
  set desk s := { s with device := { s.device with desk } }

def atSource : Part (Surroundings Station) Entropy where
  get s := s.entropy
  set entropy s := { s with entropy }

def noted : Part (Surroundings Station) Journal where
  get s := s.device.journal
  set journal s := { s with device := { s.device with journal } }

def note (severity : Severity) (text : String) : Attempt (Surroundings Station) ε Unit :=
  noted.always (Journal.note severity text)

def checkFree (tag : String) : Attempt (Surroundings Station) Refusal Unit := do
  if (← get).device.store.contains tag then throw .credentialAlreadyExists

def ask (prompt : Prompt) : Attempt (Surroundings Station) ε Unit :=
  atDesk.always (modify (Consent.Desk.ask prompt))

/-- Waits for the outcome of what has been asked. -/
def settle : Attempt (Surroundings Station) Refusal Unit :=
  atDesk.attempt (ExceptT.mk Consent.Desk.settle)

def drawPair : Attempt (Surroundings Station) Refusal Ed25519.KeyPair := do
  match ← (atSource.attempt (Entropy.draw 32)).outcome with
  | .ok seed => pure ⟨seed⟩
  | .error _ =>
    note .error "Ed25519 key generation failed"
    throw .unknownError

/-- Puts a new key pair under a tag that is still free. -/
def install (tag : String) : Attempt (Surroundings Station) Refusal Unit := do
  let pair ← drawPair
  checkFree tag
  modify fun s =>
    { s with device := { s.device with store := s.device.store.insert tag pair } }
  note .debug "software credential created"

/-- A creation up to the point where the user is asked. -/
def beginCreate (tag : String) (prompt : Prompt) : Attempt (Surroundings Station) Refusal Unit := do
  checkFree tag
  ask prompt

/-- A creation from the user's answer on. -/
def finishCreate (tag : String) : Attempt (Surroundings Station) Refusal Unit := do
  settle
  install tag

/-- Signs with a key pair once the user consents. -/
def sign (pair : Ed25519.KeyPair) (challenge : List UInt8) (prompt : Prompt) :
    Attempt (Surroundings Station) Refusal Secret.Buffer := do
  ask prompt
  settle
  pure ⟨(pair.sign challenge).val⟩

end Station

/-- The keyring of a host, with what it reports about biometry. -/
def Keyring.software (supported : Bool) (availability : Availability) : Keyring Station where
  isSupported := pure supported
  availability := pure availability
  create tag prompt := do
    Station.beginCreate tag prompt
    Station.finishCreate tag
  openCredential tag := do
    match (← get).device.store.find? tag with
    | some pair => pure ⟨tag, Station.sign pair⟩
    | none => throw .notFound
  delete tag := do
    if (← get).device.store.contains tag then
      modify fun s =>
        { s with device := { s.device with store := s.device.store.erase tag } }
    else throw .notFound
  foreground := pure Scope.inert

end PresenceSeal
