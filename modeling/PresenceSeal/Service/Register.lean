import PresenceSeal.Fault

/-! The register holds the challenge seed. It counts as unconfigured before a new
seed is looked at, so a rejected seed also takes the previous one out of use. -/
namespace PresenceSeal

/-- The stored seed, and whether it is in use. -/
structure Register where
  configured : Bool := false
  stored : String := ""
  deriving DecidableEq

namespace Register

def seed? (register : Register) : Option String :=
  if register.configured then some register.stored else none

/-- What became of a new seed, and the register after it. -/
def set (register : Register) (seed : String) : Except Fault Unit × Register :=
  if seed.isEmpty then
    (.error (.configure "Field 'dataToSign' can't be empty"), { register with configured := false })
  else (.ok (), ⟨true, seed⟩)

theorem seed?_set (register : Register) (seed : String) :
    (register.set seed).2.seed? = if seed.isEmpty then none else some seed := by
  by_cases empty : seed.isEmpty <;> simp [set, seed?, empty]

/-- The register as text, without the seed. -/
def masked (register : Register) : String :=
  let configured := if register.configured then "true" else "false"
  "ConfigRegister \x7b configured: " ++ configured ++ ", seed: \"***\" \x7d"

end Register

end PresenceSeal
