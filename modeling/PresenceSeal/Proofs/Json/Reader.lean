import PresenceSeal.Json.Reader
import PresenceSeal.Proofs.Json.Number

/-! The readers of values, step by step: what a step of a successful reading was, how the first
character of a text decides what is read, and what every item or member of a container keeps. -/
namespace PresenceSeal.Json

/-! ### Programs that read -/

theorem bind_of_ok {f : Reader α} {g : α → Reader β} {text rest : List Char} {x : α}
    (first : f text = .ok (x, rest)) : (f >>= g) text = g x rest := by
  change (f text >>= fun p => g p.1 p.2) = g x rest
  rw [first]
  rfl

theorem andThen_eq_ok {x : Except ε α} {f : α → Except ε β} {y : β}
    (given : (x >>= f) = .ok y) : ∃ a, x = .ok a ∧ f a = .ok y := by
  cases x with
  | error e => cases given
  | ok a => exact ⟨a, rfl, given⟩

theorem bind_eq_ok {f : Reader α} {g : α → Reader β} {text : List Char} {result : β × List Char}
    (given : (f >>= g) text = .ok result) :
    ∃ x rest, f text = .ok (x, rest) ∧ g x rest = .ok result := by
  obtain ⟨⟨x, rest⟩, first, given⟩ := andThen_eq_ok given
  exact ⟨x, rest, first, given⟩

theorem map_eq_ok {x : Except Error α} {f : α → β} {y : β} (given : x.map f = .ok y) :
    ∃ a, x = .ok a ∧ f a = y := by
  cases x with
  | error e => cases given
  | ok a => exact ⟨a, rfl, Except.ok.inj given⟩

/-! ### Beginnings -/

/-- A text that begins with no blank and closes no list. -/
def Begins (text : List Char) : Prop := ∃ c rest, text = c :: rest ∧ isSpace c = false ∧ c ≠ ']'

theorem skipSpace_cons {c : Char} (visible : isSpace c = false) (rest : List Char) :
    skipSpace (c :: rest) = c :: rest := by
  rw [skipSpace, List.dropWhile_cons, visible]
  rfl

theorem Begins.append {text : List Char} (begins : Begins text) (rest : List Char) :
    Begins (text ++ rest) := by
  obtain ⟨c, more, rfl, visible, opened⟩ := begins
  exact ⟨c, more ++ rest, rfl, visible, opened⟩

/-- A numeral begins with a digit or a minus sign. -/
theorem Numeral.spell_head {n : Numeral} (formed : n.Formed) :
    ∃ c rest, n.spell = c :: rest ∧ (c = '-' ∨ Text.isDigit c = true) := by
  obtain ⟨c, rest, whole⟩ := List.exists_cons_of_ne_nil formed.whole.ne_nil
  have digit : Text.isDigit c = true := formed.whole.digits c (whole ▸ List.mem_cons_self)
  unfold spell
  rw [whole]
  cases n.negative with
  | true => exact ⟨'-', _, rfl, .inl rfl⟩
  | false => exact ⟨c, _, rfl, .inr digit⟩

theorem visible_of_isDigit {c : Char} (digit : Text.isDigit c = true) :
    isSpace c = false ∧ c ≠ ']' ∧ c ≠ 'n' ∧ c ≠ 't' ∧ c ≠ 'f' ∧ c ≠ '"' ∧ c ≠ '[' ∧ c ≠ '\x7b' := by
  refine ⟨?_, ?_, ?_, ?_, ?_, ?_, ?_, ?_⟩
  · by_contra space
    simp only [isSpace, Bool.not_eq_false, Bool.or_eq_true, beq_iff_eq] at space
    rcases space with ((rfl | rfl) | rfl) | rfl <;> exact absurd digit (by decide)
  all_goals
    rintro rfl
    revert digit
    decide

/-- What begins a number begins nothing else. -/
theorem visible_of_figure {c : Char} (first : c = '-' ∨ Text.isDigit c = true) :
    isSpace c = false ∧ c ≠ ']' ∧ c ≠ 'n' ∧ c ≠ 't' ∧ c ≠ 'f' ∧ c ≠ '"' ∧ c ≠ '[' ∧ c ≠ '\x7b' := by
  rcases first with rfl | digit
  · decide
  · exact visible_of_isDigit digit

theorem begins_render (j : Json) : Begins (render j) := by
  cases j with
  | null => exact ⟨_, _, rfl, rfl, by decide⟩
  | bool value => cases value <;> exact ⟨_, _, rfl, rfl, by decide⟩
  | string value => exact ⟨_, _, rfl, rfl, by decide⟩
  | array items => cases items <;> exact ⟨_, _, rfl, rfl, by decide⟩
  | object members =>
    rcases members with _ | ⟨⟨key, value⟩, rest⟩ <;> exact ⟨_, _, rfl, rfl, by decide⟩
  | number value =>
    obtain ⟨c, rest, spelled, first⟩ := Numeral.spell_head value.formed_numeral
    obtain ⟨visible, opened, -⟩ := visible_of_figure first
    exact ⟨c, rest, (render_number value).trans spelled, visible, opened⟩

theorem ends_of_head {c : Char} {rest : List Char}
    (head : Text.isDigit c = false ∧ c ≠ '.' ∧ c ≠ 'e' ∧ c ≠ 'E') : Numeral.Ends (c :: rest) := by
  intro d more same
  obtain ⟨rfl, -⟩ := List.cons.inj same
  exact head

/-! ### Values -/

/-- What becomes of a member whose key has been read. -/
def entry (item : Reader Json) (entries : List (String × Json)) (key : String) :
    Reader (List (String × Json)) := do
  Reader.colon
  let value ← item
  pure (entries ++ [(key, value)])

theorem value_array (budget : Nat) (text : List Char) :
    Reader.value (budget + 1) ('[' :: text) =
      (Reader.items (Reader.value budget) text).map fun (xs, rest) => (.array xs, rest) := rfl

theorem value_object (budget : Nat) {text rest : List Char} {entries : List (String × Json)}
    (read : Reader.members (entry (Reader.value budget)) [] text = .ok (entries, '\x7d' :: rest)) :
    Reader.value (budget + 1) ('\x7b' :: text) = .ok (ofEntries entries, rest) := by
  change (Reader.members (entry (Reader.value budget)) [] text >>= fun p =>
    Reader.closeObject p.2 >>= fun q => Except.ok (ofEntries p.1, q.2)) = _
  rw [read]
  rfl

theorem value_string (budget : Nat) (text : List Char) :
    Reader.value budget ('"' :: text) =
      (stringBody text).map fun (s, rest) => (.string s, rest) := by
  cases budget <;> rfl

theorem value_number (budget : Nat) {c : Char} (first : c = '-' ∨ Text.isDigit c = true)
    (text : List Char) : Reader.value budget (c :: text) =
      (Reader.number (c :: text)).map fun (n, rest) => (.number n, rest) := by
  obtain ⟨visible, -, n, t, f, quotation, bracket, brace⟩ := visible_of_figure first
  unfold Reader.value
  rw [skipSpace_cons visible]
  split
  case h_1 same => cases same
  case h_8 same =>
    obtain ⟨rfl, rfl⟩ := List.cons.inj same
    rw [if_pos first]
  all_goals
    rename_i same
    cases same
    contradiction

/-! ### What has been read -/

theorem mem_of_itemSteps {item : Reader α} {fuel : Nat} {first : Bool} {text rest : List Char}
    {xs : List α} (given : Reader.itemSteps item fuel first text = .ok (xs, rest)) :
    ∀ x ∈ xs, ∃ text rest, item text = .ok (x, rest) := by
  induction fuel generalizing first text xs rest with
  | zero => cases given
  | succ fuel ih =>
    rw [Reader.itemSteps] at given
    obtain ⟨more, text, -, given⟩ := bind_eq_ok given
    cases more with
    | false =>
      cases given
      nofun
    | true =>
      obtain ⟨x, text', read, given⟩ := bind_eq_ok given
      obtain ⟨others, text'', reads, given⟩ := bind_eq_ok given
      cases given
      exact List.forall_mem_cons.mpr ⟨⟨text, text', read⟩, ih reads⟩

theorem mem_of_items {item : Reader α} {text rest : List Char} {xs : List α}
    (given : Reader.items item text = .ok (xs, rest)) :
    ∀ x ∈ xs, ∃ text rest, item text = .ok (x, rest) := by
  obtain ⟨text', same, start, given⟩ := bind_eq_ok given
  cases start
  obtain ⟨read, text', reads, given⟩ := bind_eq_ok given
  obtain ⟨_, _, -, given⟩ := bind_eq_ok given
  cases given
  exact mem_of_itemSteps reads

/-- What each member keeps, the members of an object keep. -/
theorem memberSteps_keeps {member : σ → String → Reader σ} {P : σ → Prop}
    (keeps : ∀ gathered key text next rest, P gathered →
      member gathered key text = .ok (next, rest) → P next)
    {fuel : Nat} {first : Bool} {start final : σ} {text rest : List Char} (holds : P start)
    (given : Reader.memberSteps member fuel first start text = .ok (final, rest)) : P final := by
  induction fuel generalizing first start text with
  | zero => cases given
  | succ fuel ih =>
    rw [Reader.memberSteps] at given
    obtain ⟨key?, text', -, given⟩ := bind_eq_ok given
    cases key? with
    | none =>
      cases given
      exact holds
    | some key =>
      obtain ⟨next, text'', read, given⟩ := bind_eq_ok given
      exact ih (keeps start key text' next text'' holds read) given

theorem members_keeps {member : σ → String → Reader σ} {P : σ → Prop}
    (keeps : ∀ gathered key text next rest, P gathered →
      member gathered key text = .ok (next, rest) → P next)
    {start final : σ} {text rest : List Char} (holds : P start)
    (given : Reader.members member start text = .ok (final, rest)) : P final := by
  obtain ⟨text', same, begun, given⟩ := bind_eq_ok given
  cases begun
  exact memberSteps_keeps keeps holds given

end PresenceSeal.Json
