/-! Attempts. An operation of the service may fail, and what it did to its state
before it failed stays done; so an attempt yields its state in either case. The
lemmas say what each way of making attempts does to the outcome and to the state. -/
namespace PresenceSeal

/-- Works on a state, and yields a value or fails. -/
abbrev Attempt (σ ε α : Type) := ExceptT ε (StateM σ) α

namespace Attempt

def always (x : StateM σ α) : Attempt σ ε α := ExceptT.lift x

def ofExcept (result : Except ε α) : Attempt σ ε α := ExceptT.mk (pure result)

/-- The outcome as a value, whatever it is. -/
def outcome (x : Attempt σ ε α) : Attempt σ ε' (Except ε α) := always x.run

/-- Ends with `last`, whether the attempt failed or not. -/
def endingWith (x : Attempt σ ε α) (last : StateM σ Unit) : Attempt σ ε α := do
  let result ← x.outcome
  always last
  ofExcept result

/-- The second attempt is made only where the first one succeeded. -/
theorem run_bind (x : Attempt σ ε α) (f : α → Attempt σ ε β) (s : σ) :
    (x >>= f).run.run s =
      match x.run.run s with
      | (.ok a, t) => (f a).run.run t
      | (.error e, t) => (.error e, t) := by
  rw [ExceptT.run_bind, StateT.run_bind]
  rcases x.run.run s with ⟨_ | _, _⟩ <;> rfl

theorem run_get_bind (f : σ → Attempt σ ε α) (s : σ) :
    (get >>= f : Attempt σ ε α).run.run s = (f s).run.run s := rfl

theorem run_ofExcept (result : Except ε α) (s : σ) :
    (ofExcept result : Attempt σ ε α).run.run s = (result, s) := rfl

theorem run_outcome (x : Attempt σ ε α) (s : σ) :
    (x.outcome : Attempt σ ε' (Except ε α)).run.run s =
      (.ok (x.run.run s).1, (x.run.run s).2) := rfl

theorem run_endingWith (x : Attempt σ ε α) (last : StateM σ Unit) (s : σ) :
    (x.endingWith last).run.run s =
      ((x.run.run s).1, (last.run (x.run.run s).2).2) := rfl

theorem run_adapt (x : Attempt σ ε α) (f : ε → ε') (s : σ) :
    (x.adapt f : Attempt σ ε' α).run.run s =
      ((x.run.run s).1.mapError f, (x.run.run s).2) := rfl

end Attempt

/-- Where a state of type `τ` sits in one of type `σ`. -/
structure Part (σ τ : Type) where
  get : σ → τ
  set : τ → σ → σ

namespace Part

def lift (part : Part σ τ) (x : StateM τ α) : StateM σ α := fun s =>
  let (a, t) := x (part.get s)
  (a, part.set t s)

def attempt (part : Part σ τ) (x : Attempt τ ε α) : Attempt σ ε α := ExceptT.mk (part.lift x.run)

def always (part : Part σ τ) (x : StateM τ α) : Attempt σ ε α := Attempt.always (part.lift x)

theorem run_attempt (part : Part σ τ) (x : Attempt τ ε α) (s : σ) :
    (part.attempt x).run.run s =
      ((x.run.run (part.get s)).1, part.set (x.run.run (part.get s)).2 s) := rfl

theorem run_always (part : Part σ τ) (x : StateM τ α) (s : σ) :
    (part.always x : Attempt σ ε α).run.run s =
      (.ok (x.run (part.get s)).1, part.set (x.run (part.get s)).2 s) := rfl

end Part

end PresenceSeal
