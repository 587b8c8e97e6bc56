import PresenceSeal.Consent.Prompt
import PresenceSeal.Entropy
import PresenceSeal.Journal
import PresenceSeal.Platform.Outcome
import PresenceSeal.Secret

/-! The platform under the service: a security processor and a keyring, each a
record of operations on a device of any type and the random source. Nothing else
is within their reach. -/
namespace PresenceSeal

/-- What a platform's operations work on. -/
structure Surroundings (δ : Type) where
  device : δ
  entropy : Entropy

structure Handle where
  number : Nat
  deriving DecidableEq, Repr

/-- A security processor. Its failures carry the raw platform status. -/
structure Processor (δ : Type) where
  acquire : Attempt (Surroundings δ) UInt32 Handle
  /-- The text that names the processor's version. -/
  platformType : Handle → Attempt (Surroundings δ) UInt32 String
  release : Handle → StateM (Surroundings δ) Unit

/-- A credential that has been opened. Signing waits for the user's consent. -/
structure Credential (δ : Type) where
  name : String
  sign : (challenge : List UInt8) → Prompt → Attempt (Surroundings δ) Refusal Secret.Buffer

/-- What keeps a consent prompt within the user's reach until it is released; an
inert scope has nothing to release. -/
structure Scope (δ : Type) where
  release? : Option (StateM (Surroundings δ) Unit)

namespace Scope

def inert : Scope δ := ⟨none⟩

/-- The scope as text: whether there is anything to release. -/
def describe (scope : Scope δ) : String :=
  let armed := if scope.release?.isSome then "true" else "false"
  "ForegroundScope \x7b armed: " ++ armed ++ " \x7d"

def release (scope : Scope δ) : StateM (Surroundings δ) Unit :=
  match scope.release? with
  | some release => release
  | none => pure ()

end Scope

/-- A store of credentials, each under its tag. -/
structure Keyring (δ : Type) where
  isSupported : StateM (Surroundings δ) Bool
  availability : StateM (Surroundings δ) Availability
  create : (tag : String) → Prompt → Attempt (Surroundings δ) Refusal Unit
  openCredential : (tag : String) → Attempt (Surroundings δ) Refusal (Credential δ)
  delete : (tag : String) → Attempt (Surroundings δ) Refusal Unit
  foreground : StateM (Surroundings δ) (Scope δ)

/-- What the components of the service work on: the platform's surroundings and the journal. -/
structure Scene (δ : Type) where
  surroundings : Surroundings δ
  journal : Journal

namespace Scene

def platform : Part (Scene δ) (Surroundings δ) where
  get scene := scene.surroundings
  set surroundings scene := { scene with surroundings }

def entropy : Part (Scene δ) Entropy where
  get scene := scene.surroundings.entropy
  set entropy scene := { scene with surroundings := { scene.surroundings with entropy } }

def noted : Part (Scene δ) Journal where
  get scene := scene.journal
  set journal scene := { scene with journal }

def note (severity : Severity) (text : String) : Attempt (Scene δ) ε Unit :=
  noted.always (Journal.note severity text)

end Scene

end PresenceSeal
