import PresenceSeal.Attempt
import PresenceSeal.Bytes

/-! The random source: bytes that are drawn in order. A request for more bytes than
are left fails and takes nothing, so that a smaller one may still succeed. -/
namespace PresenceSeal

/-- The random bytes that have not been drawn. -/
structure Entropy where
  bytes : List UInt8
  deriving DecidableEq

namespace Entropy

def exhausted : String := "random source exhausted"

def draw? (n : Nat) (source : Entropy) : Option (Bytes n × Entropy) :=
  if h : n ≤ source.bytes.length then
    some (⟨source.bytes.take n, List.length_take_of_le h⟩, ⟨source.bytes.drop n⟩)
  else none

theorem draw?_eq_none_iff {n : Nat} {source : Entropy} :
    source.draw? n = none ↔ source.bytes.length < n := by
  unfold draw?
  split <;> simp <;> omega

theorem draw?_of_le {n : Nat} {source : Entropy} (enough : n ≤ source.bytes.length) :
    source.draw? n =
      some (⟨source.bytes.take n, List.length_take_of_le enough⟩, ⟨source.bytes.drop n⟩) := by
  rw [draw?, dif_pos enough]

/-- Bytes in front of the source are what the next draw of their length yields. -/
theorem draw?_append {n : Nat} (drawn : Bytes n) (rest : List UInt8) :
    draw? n ⟨drawn.val ++ rest⟩ = some (drawn, ⟨rest⟩) := by
  obtain ⟨bytes, rfl⟩ := drawn
  simp [draw?]

/-- What is drawn stood in front of what is left. -/
theorem bytes_of_draw? {n : Nat} {source rest : Entropy} {drawn : Bytes n}
    (h : source.draw? n = some (drawn, rest)) : source.bytes = drawn.val ++ rest.bytes := by
  unfold draw? at h
  split at h
  · simp only [Option.some.injEq, Prod.mk.injEq] at h
    obtain ⟨rfl, rfl⟩ := h
    exact (List.take_append_drop n source.bytes).symm
  · contradiction

/-- The next `n` bytes; a failing draw fails with the message. -/
def draw (n : Nat) : Attempt Entropy String (Bytes n) := fun source =>
  match source.draw? n with
  | some (drawn, rest) => (.ok drawn, rest)
  | none => (.error exhausted, source)

end Entropy

end PresenceSeal
