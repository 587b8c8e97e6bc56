import PresenceSeal.Json.Record
import PresenceSeal.Proofs.Json.Reader

/-! What the readers of a record's members keep, the record is finished from. -/
namespace PresenceSeal.Json.Record

variable {record : Record σ α} {P : σ → Prop} {depth : Nat}

/-- Reading keeps what each field and each member that is no field keep. -/
structure Keeps (record : Record σ α) (depth : Nat) (P : σ → Prop) : Prop where
  start : P record.start
  field : ∀ field ∈ record.fields, ∀ gathered text next rest, P gathered →
    field.read gathered depth text = .ok (next, rest) → P next
  other : ∀ gathered key text next rest, P gathered →
    record.other gathered key depth text = .ok (next, rest) → P next

theorem Keeps.readMember (keeps : record.Keeps depth P) {gathered next : σ} {key : String}
    {text rest : List Char} (holds : P gathered)
    (given : record.readMember depth gathered key text = .ok (next, rest)) : P next := by
  unfold Record.readMember at given
  cases found : record.fields.find? (·.name == key) with
  | none =>
    simp only [found] at given
    exact keeps.other gathered key text next rest holds given
  | some field =>
    simp only [found] at given
    cases seen : field.seen gathered with
    | true =>
      rw [seen] at given
      cases given
    | false =>
      rw [seen] at given
      obtain ⟨_, text', -, given⟩ := bind_eq_ok given
      exact keeps.field field (List.mem_of_find?_eq_some found) gathered text' next rest holds given

theorem Keeps.readFields (keeps : record.Keeps depth P) {fields : List (Field σ)}
    (inside : ∀ field ∈ fields, field ∈ record.fields) {index : Nat} {gathered next : σ}
    {text rest : List Char} (holds : P gathered)
    (given : record.readFields depth fields index gathered text = .ok (next, rest)) : P next := by
  induction fields generalizing index gathered text with
  | nil =>
    cases given
    exact holds
  | cons field fields ih =>
    obtain ⟨first, others⟩ := List.forall_mem_cons.mp inside
    rw [Record.readFields] at given
    obtain ⟨more, text', -, given⟩ := bind_eq_ok given
    cases more with
    | true =>
      obtain ⟨gathered', text'', read, given⟩ := bind_eq_ok given
      exact ih others (keeps.field field first gathered text' gathered' text'' holds read) given
    | false =>
      split at given
      · contradiction
      · split at given
        · cases given
        · exact ih others holds given

theorem lift_eq_ok {x : Except Error α} {text rest : List Char} {a : α}
    (given : (liftM x : Reader α) text = .ok (a, rest)) : x = .ok a := by
  cases x with
  | error e => cases given
  | ok b =>
    cases given
    rfl

/-- A record is finished from what has been kept. -/
theorem Keeps.read (keeps : record.Keeps depth P) {text rest : List Char} {x : α}
    (given : record.read (depth + 1) text = .ok (x, rest)) :
    ∃ gathered, P gathered ∧ record.finish gathered = .ok x := by
  unfold Record.read at given
  split at given
  · cases given
  · unfold readObject at given
    obtain ⟨gathered, text', read, given⟩ := bind_eq_ok given
    refine ⟨gathered, members_keeps (fun g key t n r => keeps.readMember) keeps.start read, ?_⟩
    cases absent : record.missing? gathered with
    | some name =>
      rw [absent] at given
      cases given
    | none =>
      rw [absent] at given
      obtain ⟨_, _, finished, given⟩ := bind_eq_ok given
      obtain ⟨_, _, -, given⟩ := bind_eq_ok given
      cases given
      exact lift_eq_ok finished
  · cases positional : record.positional with
    | false =>
      rw [positional] at given
      cases given
    | true =>
      rw [positional] at given
      obtain ⟨gathered, text', read, given⟩ := bind_eq_ok given
      refine ⟨gathered, keeps.readFields (fun _ inside => inside) keeps.start read, ?_⟩
      obtain ⟨_, _, finished, given⟩ := bind_eq_ok given
      obtain ⟨_, _, -, given⟩ := bind_eq_ok given
      cases given
      exact lift_eq_ok finished
  · cases given

end PresenceSeal.Json.Record
