import PresenceSeal.Proofs.Json.Layout

/-! A record that is printed over several lines is written as its layout asks. -/
namespace PresenceSeal.Json

theorem blanks_newLine (level : Nat) : Blanks (newLine level) := by
  intro c inside
  rcases List.mem_cons.mp inside with rfl | inside
  · exact .inr (.inr (.inl rfl))
  · exact .inl (List.eq_of_mem_replicate inside)

/-- The members of an object as they are printed: each begins a line, and the new line in front
of the closing brace belongs to the last of them. -/
def lines (level : Nat) : List (String × Json) → List Slot
  | [] => []
  | (key, value) :: rest =>
    ⟨key, newLine (level + 1) ++ quote key.toList,
      ' ' :: pretty (level + 1) value ++ if rest = [] then newLine level else []⟩ ::
      lines level rest

theorem commas_lines (level : Nat) (member : String × Json) (rest : List (String × Json)) :
    commas ((lines level (member :: rest)).map Slot.spell) =
      newLine (level + 1) ++ quote member.1.toList ++ [':', ' '] ++ pretty (level + 1) member.2 ++
        prettyMembers (level + 1) rest ++ newLine level := by
  induction rest generalizing member with
  | nil => simp [lines, commas, Slot.spell, prettyMembers]
  | cons next rest ih =>
    have first : commas ((lines level (member :: next :: rest)).map Slot.spell) =
        newLine (level + 1) ++ quote member.1.toList ++
          ':' :: (' ' :: pretty (level + 1) member.2 ++
            if next :: rest = [] then newLine level else []) ++
        ',' :: commas ((lines level (next :: rest)).map Slot.spell) := rfl
    rw [first, ih next, if_neg (List.cons_ne_nil _ _), prettyMembers]
    simp

theorem pretty_object (level : Nat) {members : List (String × Json)} (filled : members ≠ []) :
    pretty level (.object members) =
      '\x7b' :: commas ((lines level members).map Slot.spell) ++ ['\x7d'] := by
  obtain ⟨⟨key, value⟩, rest, rfl⟩ := List.exists_cons_of_ne_nil filled
  rw [commas_lines, pretty]
  simp

theorem names_lines (level : Nat) (members : List (String × Json)) :
    (lines level members).map (·.name) = members.map (·.1) := by
  induction members with
  | nil => rfl
  | cons member members ih => rw [lines, List.map_cons, List.map_cons, ih]

/-- Each printed member has a name and the print of its value between blanks. -/
theorem mem_lines {level : Nat} {members : List (String × Json)} :
    ∀ slot ∈ lines level members, slot.Named ∧ ∃ value before after, (slot.name, value) ∈ members ∧
      Blanks before ∧ Blanks after ∧ slot.text = before ++ pretty (level + 1) value ++ after := by
  induction members with
  | nil => nofun
  | cons member members ih =>
    obtain ⟨key, value⟩ := member
    have space : Blanks [' '] := by
      intro c inside
      exact .inl (List.mem_singleton.mp inside)
    have none : Blanks [] := nofun
    refine List.forall_mem_cons.mpr ⟨⟨⟨_, spelled_escaped _, newLine (level + 1), [],
      blanks_newLine _, none, ?_⟩, value, [' '], if members = [] then newLine level else [],
      List.mem_cons_self, space, ?_, rfl⟩, ?_⟩
    · simp [quote]
    · split
      · exact blanks_newLine level
      · exact none
    · intro slot inside
      obtain ⟨named, value, before, after, listed, front, back, text⟩ := ih slot inside
      exact ⟨named, value, before, after, List.mem_cons_of_mem _ listed, front, back, text⟩

theorem Roomy.of_field {lang : β → List Char → Prop} (roomy : Roomy lang) (field : α → β) :
    Roomy fun x => lang (field x) :=
  fun _ _ _ _ front back => roomy front back

/-- A record whose fields are printed in their order, each as its clause has it, is written. -/
theorem Layout.renders_pretty {layout : Layout α} {x : α} {level : Nat} (values : List Json)
    (filled : values ≠ []) (distinct : layout.names.Nodup)
    (roomy : ∀ clause ∈ layout.clauses, Roomy clause.tells)
    (tells : List.Forall₂ (fun clause value => clause.tells x (pretty (level + 1) value))
      layout.clauses values) :
    layout.Renders x (pretty level (.object (layout.names.zip values))) := by
  obtain ⟨length, each⟩ := List.forall₂_iff_zip.mp tells
  have firsts : (layout.names.zip values).map (·.1) = layout.names := by
    apply List.map_fst_zip
    rw [Layout.names, List.length_map, length]
  have slotNames : (lines level (layout.names.zip values)).map (·.name) = layout.names :=
    (names_lines level _).trans firsts
  have told : layout.Told x (lines level (layout.names.zip values)) := by
    refine ⟨fun slot inside => (mem_lines slot inside).1, ?_, ?_, ?_, ?_⟩
    · intro clause listed slot inside same
      obtain ⟨-, value, before, after, member, front, back, text⟩ := mem_lines slot inside
      rw [Layout.names, List.zip_map_left] at member
      obtain ⟨⟨other, _⟩, also, pair⟩ := List.mem_map.mp member
      obtain ⟨name, rfl⟩ := Prod.mk.inj pair
      have among := (List.of_mem_zip also).1
      obtain rfl := List.inj_on_of_nodup_map distinct among listed (name.trans same)
      rw [text]
      exact roomy other among front back (each also)
    · intro slot inside unknown
      exact absurd (slotNames ▸ List.mem_map_of_mem inside) unknown
    · rw [slotNames]
      exact distinct.filter _
    · intro clause listed silent
      rw [slotNames] at silent
      exact absurd (List.mem_map_of_mem listed) silent
  have some : layout.names.zip values ≠ [] := by
    intro none
    rw [none, List.map_nil] at firsts
    have clauses : layout.clauses = [] := List.map_eq_nil_iff.mp firsts.symm
    rw [clauses, List.length_nil] at length
    exact filled (List.length_eq_zero_iff.mp length.symm)
  rw [pretty_object level some]
  refine .object (.inr ⟨_, ?_, told, rfl⟩)
  obtain ⟨first, others, same⟩ := List.exists_cons_of_ne_nil some
  rw [same]
  exact List.cons_ne_nil _ _

/-! ### Leaves -/

theorem writes_pretty_string (level : Nat) (value : String) :
    Writes (.string value) (pretty level (.string value)) := by
  rw [pretty, render]
  exact .string (spelled_escaped _)

theorem writes_pretty_bool (level : Nat) (value : Bool) :
    Writes (.bool value) (pretty level (.bool value)) := by
  cases value with
  | true =>
    rw [pretty, render]
    exact .true
  | false =>
    rw [pretty, render]
    exact .false

theorem variant_pretty {variants : List (String × α)} {x : α} {name : String} (level : Nat)
    (listed : variants.lookup name = some x) :
    Variant variants x (pretty level (.string name)) := by
  rw [pretty, render]
  exact .name listed (spelled_escaped _)

end PresenceSeal.Json
