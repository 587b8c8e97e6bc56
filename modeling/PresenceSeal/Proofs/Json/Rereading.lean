import PresenceSeal.Proofs.Json.Reading

/-! Reading what has been printed. A value that has been read can be printed and read again:
its texts come back as they were, its containers fit the depth they fitted before and its
numbers stay in range. -/
namespace PresenceSeal.Json

/-- A value that a document may hold: its containers nest at most so deep, and its numbers are
in range. -/
inductive Fits : Nat → Json → Prop
  | null {depth : Nat} : Fits depth .null
  | bool {depth : Nat} (value : Bool) : Fits depth (.bool value)
  | number {depth : Nat} {value : Json.Number} (inRange : value.InRange) :
    Fits depth (.number value)
  | string {depth : Nat} (value : String) : Fits depth (.string value)
  | array {depth : Nat} {items : List Json} (inside : ∀ item ∈ items, Fits depth item) :
    Fits (depth + 1) (.array items)
  | object {depth : Nat} {members : List (String × Json)}
    (inside : ∀ member ∈ members, Fits depth member.2) : Fits (depth + 1) (.object members)

/-- A value whose text tells it exactly: no container and no number with a fraction. -/
def Plain : Json → Prop
  | .null | .bool _ | .string _ => True
  | .number (.integer value) => -2 ^ 63 ≤ value ∧ value < 2 ^ 64
  | .number (.real _) | .array _ | .object _ => False

theorem Plain.fits {depth : Nat} {j : Json} (plain : j.Plain) : Fits depth j := by
  cases j with
  | null => exact .null
  | bool value => exact .bool value
  | string value => exact .string value
  | number value =>
    cases value with
    | integer value => exact .number plain
    | real value => exact plain.elim
  | array items => exact plain.elim
  | object members => exact plain.elim

/-- What is read of a plain value is the value. -/
def Kept (j read : Json) : Prop := j.Plain → read = j

theorem Plain.exact {depth : Nat} {j : Json} (plain : j.Plain) : Exact depth j := by
  cases j with
  | null => exact .null
  | bool value => exact .bool value
  | string value => exact .string value
  | number value =>
    cases value with
    | integer value => exact .integer plain.1 plain.2
    | real value => exact plain.elim
  | array items => exact plain.elim
  | object members => exact plain.elim

/-- A member and what is read of it. -/
def Entry (R : Json → Json → Prop) (member entry : String × Json) : Prop :=
  entry.1 = member.1 ∧ R member.2 entry.2

/-- What fits is read again from its text. -/
theorem Fits.rereads {depth : Nat} {j : Json} (fits : Fits depth j) :
    ∃ read, Kept j read ∧ Takes (Reader.value depth) read (render j) := by
  have exactly {depth : Nat} {j : Json} (exact : Exact depth j) :
      ∃ read, Kept j read ∧ Takes (Reader.value depth) read (render j) :=
    ⟨j, fun _ => rfl, exact.writes_render.takes exact⟩
  induction fits with
  | null => exact exactly .null
  | bool value => exact exactly (.bool value)
  | string value => exact exactly (.string value)
  | @number depth value inRange =>
    obtain ⟨read, made, same⟩ := value.exists_number inRange
    refine ⟨.number read, ?_, ?_⟩
    · intro plain
      cases value with
      | integer i => rw [same i rfl]
      | real x => exact plain.elim
    · rw [render, render_number]
      exact value.formed_numeral.takes made
  | array inside ih =>
    choose! read kept takes using ih
    exact ⟨_, fun plain => plain.elim, takes_render_array takes⟩
  | object inside ih =>
    choose! read kept takes using ih
    exact ⟨_, fun plain => plain.elim, takes_render_object takes⟩

/-! ### What has been read -/

theorem Fits.ofEntries {depth : Nat} {entries : List (String × Json)}
    (inside : ∀ entry ∈ entries, Fits depth entry.2) : Fits (depth + 1) (ofEntries entries) := by
  refine .object fun member inside' => ?_
  rcases mem_of_insertAll inside' with given | none
  · exact inside member given
  · cases none

theorem inRange_of_read {text rest : List Char} {n : Json.Number}
    (given : Reader.number text = .ok (n, rest)) : n.InRange := by
  obtain ⟨⟨numeral, rest'⟩, -, given⟩ := andThen_eq_ok given
  obtain ⟨value, made, given⟩ := andThen_eq_ok given
  cases given
  exact Numeral.inRange_of_number made

/-- What has been read fits. -/
theorem fits_of_value {depth : Nat} {text rest : List Char} {j : Json}
    (given : Reader.value depth text = .ok (j, rest)) : Fits depth j := by
  induction depth using Nat.strongRecOn generalizing text j rest with
  | _ depth ih =>
    unfold Reader.value at given
    split at given
    · cases given
    · obtain ⟨_, -, made⟩ := map_eq_ok given
      cases made
      exact .null
    · obtain ⟨_, -, made⟩ := map_eq_ok given
      cases made
      exact .bool true
    · obtain ⟨_, -, made⟩ := map_eq_ok given
      cases made
      exact .bool false
    · obtain ⟨_, -, made⟩ := map_eq_ok given
      cases made
      exact .string _
    · split at given
      · cases given
      · rename_i depth
        obtain ⟨xs, read, made⟩ := map_eq_ok given
        cases made
        refine .array fun item inside => ?_
        obtain ⟨text, rest, read⟩ := mem_of_items read item inside
        exact ih depth (Nat.lt_succ_self depth) read
    · split at given
      · cases given
      · rename_i depth
        obtain ⟨⟨entries, _⟩, read, given⟩ := andThen_eq_ok given
        obtain ⟨_, -, given⟩ := andThen_eq_ok given
        cases given
        refine .ofEntries (members_keeps (P := fun entries => ∀ entry ∈ entries, Fits depth entry.2)
          ?_ (List.forall_mem_nil _) read)
        intro gathered key text next rest fit read
        obtain ⟨_, _, -, read⟩ := bind_eq_ok read
        obtain ⟨value, _, read, made⟩ := bind_eq_ok read
        cases made
        exact List.forall_mem_append.mpr ⟨fit, List.forall_mem_singleton.mpr
          (ih depth (Nat.lt_succ_self depth) read)⟩
    · split at given
      · obtain ⟨number, read, made⟩ := map_eq_ok given
        cases made
        exact .number (inRange_of_read read)
      · cases given

/-! ### Documents -/

/-- A document of an object whose members fit is read again, member by member. -/
theorem parse_render {members : List (String × Json)}
    (fits : ∀ member ∈ members, Fits 126 member.2) :
    ∃ entries, List.Forall₂ (Entry Kept) members entries ∧
      parse (render (.object members)) = .ok (ofEntries entries) := by
  choose! read kept takes using fun member inside => (fits member inside).rereads
  refine ⟨members.map fun member => (member.1, read member), ?_, ?_⟩
  · rw [List.forall₂_map_right_iff]
    exact List.forall₂_same.mpr fun member inside => ⟨rfl, kept member inside⟩
  · exact (takes_render_object takes).document

end PresenceSeal.Json
