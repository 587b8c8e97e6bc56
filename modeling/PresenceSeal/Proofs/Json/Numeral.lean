import PresenceSeal.Json.Scan
import PresenceSeal.Proofs.Text.Numeral

/-! Numerals as they are written and as they are read. A numeral in its proper form is
scanned back from its own characters, and printed numbers are in their proper form. -/
namespace PresenceSeal.Json

namespace Numeral

/-- The characters of an exponent, with its sign. -/
def spellExponent : Option (Bool × List Char) → List Char
  | none => []
  | some (negative, digits) => 'e' :: (if negative then '-' else '+') :: digits

/-- The characters of a numeral. -/
def spell (n : Numeral) : List Char :=
  (if n.negative then ['-'] else []) ++ n.whole ++
    (if n.fraction = [] then [] else '.' :: n.fraction) ++ spellExponent n.exponent

/-- Digits of which the first is no zero, but for a zero alone. -/
def Proper (whole : List Char) : Prop :=
  whole = ['0'] ∨ ∃ c rest, whole = c :: rest ∧ c ≠ '0' ∧ ∀ d ∈ whole, Text.isDigit d = true

theorem Proper.digits {whole : List Char} (proper : Proper whole) :
    ∀ d ∈ whole, Text.isDigit d = true := by
  rcases proper with rfl | ⟨c, rest, -, -, all⟩
  · exact List.forall_mem_singleton.mpr rfl
  · exact all

theorem Proper.ne_nil {whole : List Char} (proper : Proper whole) : whole ≠ [] := by
  rcases proper with rfl | ⟨c, rest, rfl, -⟩ <;> exact List.cons_ne_nil _ _

/-- A numeral that a reader of numbers takes. -/
structure Formed (n : Numeral) : Prop where
  whole : Proper n.whole
  fraction : ∀ d ∈ n.fraction, Text.isDigit d = true
  exponent : ∀ negative digits, n.exponent = some (negative, digits) →
    digits ≠ [] ∧ ∀ d ∈ digits, Text.isDigit d = true

/-- What may stand behind a numeral: the text ends, or no character of it goes on. -/
def Ends (rest : List Char) : Prop :=
  ∀ c more, rest = c :: more → Text.isDigit c = false ∧ c ≠ '.' ∧ c ≠ 'e' ∧ c ≠ 'E'

theorem scanDigits_append {digits rest : List Char} (filled : digits ≠ [])
    (all : ∀ d ∈ digits, Text.isDigit d = true)
    (stop : ∀ c more, rest = c :: more → Text.isDigit c = false) (atEnd : Error) :
    scanDigits atEnd (digits ++ rest) = .ok (digits, rest) := by
  cases digits with
  | nil => exact absurd rfl filled
  | cons c more =>
    obtain ⟨first, others⟩ := List.forall_mem_cons.mp all
    obtain ⟨taken, left⟩ := Text.takeWhile_digits others stop
    rw [List.cons_append, scanDigits, if_pos first, taken, left]

theorem scanWhole_append {whole rest : List Char} (proper : Proper whole)
    (stop : ∀ c more, rest = c :: more → Text.isDigit c = false) (atEnd : Error) :
    scanWhole atEnd (whole ++ rest) = .ok (whole, rest) := by
  rcases proper with rfl | ⟨c, more, rfl, nonzero, all⟩
  · cases rest with
    | nil => rfl
    | cons c more => simp [scanWhole, stop c more rfl]
  · obtain ⟨first, others⟩ := List.forall_mem_cons.mp all
    obtain ⟨taken, left⟩ := Text.takeWhile_digits others stop
    rw [List.cons_append]
    unfold scanWhole
    split
    · contradiction
    · rename_i same
      exact absurd (List.cons.inj same).1 nonzero
    · rename_i d remaining _ same
      obtain ⟨rfl, rfl⟩ := List.cons.inj same
      rw [if_pos first, taken, left]

theorem scanFraction_append {fraction rest : List Char}
    (all : ∀ d ∈ fraction, Text.isDigit d = true)
    (stop : ∀ c more, rest = c :: more → Text.isDigit c = false ∧ c ≠ '.') (atEnd : Error) :
    scanFraction atEnd ((if fraction = [] then [] else '.' :: fraction) ++ rest) =
      .ok (fraction, rest) := by
  by_cases empty : fraction = []
  · rw [if_pos empty, List.nil_append, empty]
    unfold scanFraction
    split
    · rename_i more
      exact absurd rfl (stop '.' more rfl).2
    · rfl
  · rw [if_neg empty, List.cons_append]
    exact scanDigits_append empty all (fun c more same => (stop c more same).1) atEnd

theorem scanExponent_append {exponent : Option (Bool × List Char)} {rest : List Char}
    (formed : ∀ negative digits, exponent = some (negative, digits) →
      digits ≠ [] ∧ ∀ d ∈ digits, Text.isDigit d = true)
    (ends : Ends rest) (atEnd : Error) :
    scanExponent atEnd (spellExponent exponent ++ rest) = .ok (exponent, rest) := by
  cases exponent with
  | none =>
    rw [spellExponent, List.nil_append]
    cases rest with
    | nil => rfl
    | cons c more =>
      obtain ⟨-, -, lower, upper⟩ := ends c more rfl
      rw [scanExponent, if_neg (not_or.mpr ⟨lower, upper⟩)]
  | some exponent =>
    obtain ⟨negative, digits⟩ := exponent
    obtain ⟨filled, all⟩ := formed negative digits rfl
    have scanned := scanDigits_append filled all (fun c more same => (ends c more same).1) atEnd
    rw [spellExponent, List.cons_append, List.cons_append, scanExponent, if_pos (.inl rfl)]
    cases negative with
    | true => simp only [↓reduceIte, scanSign, scanned]; rfl
    | false => simp only [Bool.false_eq_true, ↓reduceIte, scanSign, scanned]; rfl

/-- No character of a fraction or an exponent goes on with the digits in front of it. -/
theorem stops_spellExponent {exponent : Option (Bool × List Char)} {rest : List Char}
    (ends : Ends rest) :
    ∀ c more, spellExponent exponent ++ rest = c :: more → Text.isDigit c = false ∧ c ≠ '.' := by
  intro c more same
  cases exponent with
  | none => exact ⟨(ends c more same).1, (ends c more same).2.1⟩
  | some exponent =>
    obtain ⟨rfl, -⟩ := List.cons.inj same
    decide

theorem stops_fraction {fraction tail : List Char}
    (stops : ∀ c more, tail = c :: more → Text.isDigit c = false) :
    ∀ c more, (if fraction = [] then [] else '.' :: fraction) ++ tail = c :: more →
      Text.isDigit c = false := by
  intro c more same
  split at same
  · exact stops c more same
  · obtain ⟨rfl, -⟩ := List.cons.inj same
    decide

theorem Proper.ne_minus {whole rest : List Char} (proper : Proper whole) :
    ∀ more, whole ++ rest ≠ '-' :: more := by
  rintro more same
  rcases proper with rfl | ⟨c, others, rfl, -, all⟩
  · cases same
  · obtain ⟨rfl, -⟩ := List.cons.inj same
    cases all '-' List.mem_cons_self

/-- What is scanned behind the sign. -/
def scanMagnitude (negative : Bool) (atEnd : Error) : Reader Numeral := fun text => do
  let (whole, text) ← scanWhole atEnd text
  let (fraction, text) ← scanFraction atEnd text
  let (exponent, text) ← scanExponent atEnd text
  .ok (⟨negative, whole, fraction, exponent⟩, text)

theorem scan_of_unsigned (atEnd : Error) {text : List Char}
    (unsigned : ∀ more, text ≠ '-' :: more) :
    scan atEnd text = scanMagnitude false atEnd text := by
  cases text with
  | nil => rfl
  | cons c rest =>
    have plain : c ≠ '-' := fun minus => unsigned rest (by rw [minus])
    simp only [scan, scanMagnitude]

/-- A numeral in its proper form is read back from its characters. -/
theorem scan_spell {n : Numeral} (formed : n.Formed) {rest : List Char} (ends : Ends rest)
    (atEnd : Error) : scan atEnd (n.spell ++ rest) = .ok (n, rest) := by
  obtain ⟨negative, whole, fraction, exponent⟩ := n
  have stops : ∀ c more, spellExponent exponent ++ rest = c :: more → _ :=
    stops_spellExponent ends
  have front : ∀ c more, (if fraction = [] then [] else '.' :: fraction) ++
      (spellExponent exponent ++ rest) = c :: more → Text.isDigit c = false :=
    stops_fraction fun c more same => (stops c more same).1
  have third : scanExponent atEnd (spellExponent exponent ++ rest) = .ok (exponent, rest) :=
    scanExponent_append formed.exponent ends atEnd
  have second : scanFraction atEnd _ = .ok (fraction, spellExponent exponent ++ rest) :=
    scanFraction_append formed.fraction stops atEnd
  have first : scanWhole atEnd (whole ++ _) = .ok (whole, _) :=
    scanWhole_append formed.whole front atEnd
  have scanned : scanMagnitude negative atEnd (whole ++
      ((if fraction = [] then [] else '.' :: fraction) ++ (spellExponent exponent ++ rest))) =
        .ok (⟨negative, whole, fraction, exponent⟩, rest) := by
    simp only [scanMagnitude, first, second, third, bind, Except.bind]
  simp only [spell, List.append_assoc]
  cases negative with
  | true => exact scanned
  | false => exact (scan_of_unsigned atEnd formed.whole.ne_minus).trans scanned

end Numeral

end PresenceSeal.Json
