import PresenceSeal.Proofs.Json.Keeping

/-! Readers of one type and the texts that they take: a reader takes a text if and only if the
text stands for a value of the type, and then it takes that value. -/
namespace PresenceSeal.Json

/-- The texts that `lang` has for a value are those from which the reader takes it. -/
structure Reads (reader : Reader α) (lang : α → List Char → Prop) : Prop where
  finds : Finds reader lang
  takes : ∀ {x text}, lang x text → Takes reader x text
  roomy : Roomy lang
  opens : ∀ {x text}, lang x text → Opens text

/-- A document is read if and only if it is one of the texts of what is read. -/
theorem Reads.document {decoder : Decoder α} {lang : α → List Char → Prop}
    (reads : Reads (decoder maxDepth) lang) {x : α} {text : List Char} :
    document decoder text = .ok x ↔ lang x text := by
  constructor
  · intro read
    obtain ⟨⟨y, left⟩, taken, read⟩ := andThen_eq_ok read
    dsimp only at read
    split at read
    · rename_i ended
      cases read
      obtain ⟨front, rfl, tells⟩ := reads.finds taken
      obtain ⟨after, blanks, left_eq⟩ := exists_blanks left
      rw [ended, List.append_nil] at left_eq
      have none : Blanks [] := nofun
      rw [left_eq]
      simpa using reads.roomy none blanks tells
    · cases read
  · exact fun tells => (reads.takes tells).document

/-! ### Leaves -/

theorem Writes.formed {j : Json} {text : List Char} (writes : Writes j text) : Formed text := by
  induction writes with
  | blanks front back _ ih => exact .blanks front back ih
  | null => exact .null
  | true => exact .true
  | false => exact .false
  | integer value =>
    rw [signedDecimal_eq_spell]
    exact .number (Figured.mk (proper_decimal _) (List.forall_mem_nil _) .absent).figures
  | string spelled => exact .string spelled.strung
  | noItems blanks => exact .noItems blanks
  | @array pieces filled _ ih => exact .array (by simpa using filled) (List.forall_mem_map.mpr ih)
  | noMembers blanks => exact .noMembers blanks
  | @object pieces _ filled named _ _ ih =>
    rw [show pieces.map (·.1.spell) = (pieces.map (·.1)).map Slot.spell by simp]
    exact Formed.of_slots (by simpa using filled) (List.forall_mem_map.mpr named)
      (List.forall_mem_map.mpr ih)

theorem roomy_writes (f : α → Json) : Roomy fun x => Writes (f x) :=
  fun _ _ _ _ front back => .blanks front back

/-- A string can be kept in the ways in which it can be written. -/
theorem retained_string_iff {depth : Nat} {value : String} {text : List Char} :
    Retained depth (.string value) text ↔ Writes (.string value) text := by
  constructor
  · intro kept
    generalize same : Json.string value = j at kept
    induction kept with
    | blanks front back _ ih => exact .blanks front back (ih same)
    | string spelled =>
      cases same
      exact .string spelled
    | _ => cases same
  · intro writes
    generalize same : Json.string value = j at writes
    induction writes with
    | blanks front back _ ih => exact .blanks front back (ih same)
    | string spelled =>
      cases same
      exact .string spelled
    | _ => cases same

theorem reads_string (expected : String) :
    Reads (Reader.string expected) fun value => Writes (.string value) where
  finds := by
    intro given value left read
    apply (roomy_writes Json.string).behind_blanks
    unfold Reader.string at read
    split at read
    · cases read
    · rename_i same
      obtain ⟨_, rfl, body, rfl, spelled⟩ := stringBody_finds read
      exact ⟨'"' :: body ++ ['"'], by simp [same], .string spelled⟩
    · cases read
  takes writes := writes.takes_string expected
  roomy := roomy_writes Json.string
  opens writes := writes.opens

theorem blind_bool : Blind Reader.bool := by
  intro given other same
  unfold Reader.bool
  rw [same]

theorem Writes.takes_bool {value : Bool} {text : List Char} (writes : Writes (.bool value) text) :
    Takes Reader.bool value text := by
  generalize same : Json.bool value = j at writes
  induction writes with
  | blanks front back _ ih => exact (ih same).blanks front back
  | true | false =>
    cases same
    exact .of_exact blind_bool fun _ _ => rfl
  | _ => cases same

theorem reads_bool : Reads Reader.bool fun value => Writes (.bool value) where
  finds := by
    intro given value left read
    apply (roomy_writes Json.bool).behind_blanks
    unfold Reader.bool at read
    split at read
    case h_1 => cases read
    case h_2 same =>
      obtain ⟨_, word, made⟩ := map_eq_ok read
      cases made
      exact ⟨_, same.trans (ident_finds_behind word), .true⟩
    case h_3 same =>
      obtain ⟨_, word, made⟩ := map_eq_ok read
      cases made
      exact ⟨_, same.trans (ident_finds_behind word), .false⟩
    case h_4 => cases read
  takes writes := writes.takes_bool
  roomy := roomy_writes Json.bool
  opens writes := writes.opens

theorem blind_unit : Blind Reader.unit := by
  intro given other same
  unfold Reader.unit
  rw [same]

theorem reads_unit : Reads Reader.unit fun _ => Writes .null where
  finds := by
    intro given value left read
    have roomy : Roomy fun (_ : Unit) => Writes .null := roomy_writes fun _ => .null
    refine roomy.behind_blanks (x := ()) ?_
    unfold Reader.unit at read
    split at read
    case h_1 => cases read
    case h_2 same => exact ⟨_, same.trans (ident_finds_behind read), .null⟩
    case h_3 => cases read
  takes {_ text} writes := by
    generalize same : Json.null = j at writes
    induction writes with
    | blanks front back _ ih => exact (ih same).blanks front back
    | null => exact .of_exact blind_unit fun _ _ => rfl
    | _ => cases same
  roomy := roomy_writes fun _ => .null
  opens writes := writes.opens

/-- A string or null. -/
def OptionalString (value : Option String) : List Char → Prop :=
  Writes (value.elim .null .string)

theorem roomy_optionalString : Roomy OptionalString :=
  roomy_writes fun (value : Option String) => value.elim .null .string

theorem OptionalString.takes {value : Option String} {text : List Char}
    (writes : OptionalString value text) (expected : String) :
    Takes (Reader.optional (Reader.string expected)) value text := by
  intro given rest ends same
  obtain ⟨c, more, begun, null, -⟩ := Writes.head writes
  have front : skipSpace given = c :: (more ++ rest) := by
    rw [same, writes.opens.skip, begun, List.cons_append]
  cases value with
  | none =>
    obtain rfl : c = 'n' := null.mpr rfl
    obtain ⟨left, read, remains⟩ := reads_unit.takes (x := ()) writes given rest ends same
    rw [Reader.unit, front] at read
    change ident _ _ = _ at read
    refine ⟨left, ?_, remains⟩
    rw [Reader.optional, front]
    change Except.map _ (ident _ _) = _
    rw [read]
    rfl
  | some value =>
    have visible : c ≠ 'n' := fun same => Json.noConfusion (null.mp same)
    have string : Takes (Reader.string expected) value text := Writes.takes_string writes expected
    obtain ⟨left, read, remains⟩ :=
      string (c :: (more ++ rest)) rest ends (by rw [← front, skipSpace_skipSpace, same])
    refine ⟨left, ?_, remains⟩
    rw [Reader.optional, front]
    split
    · rename_i found
      exact absurd (List.cons.inj found).1 visible
    · rw [read]
      rfl

theorem reads_optionalString (expected : String) :
    Reads (Reader.optional (Reader.string expected)) OptionalString where
  finds := by
    intro given value left read
    apply roomy_optionalString.behind_blanks
    unfold Reader.optional at read
    split at read
    · rename_i same
      obtain ⟨_, word, made⟩ := map_eq_ok read
      cases made
      exact ⟨_, same.trans (ident_finds_behind word), .null⟩
    · obtain ⟨_, string, made⟩ := map_eq_ok read
      cases made
      exact (reads_string expected).finds string
  takes writes := writes.takes expected
  roomy := roomy_optionalString
  opens writes := writes.opens

/-! ### Variants -/

/-- The ways to write one of some named variants: its name, or an object of its name and null. -/
inductive Variant (variants : List (String × α)) (x : α) : List Char → Prop where
  | blanks {before text after} : Blanks before → Blanks after → Variant variants x text →
      Variant variants x (before ++ text ++ after)
  | name {name : String} {body} : variants.lookup name = some x → Spelled name.toList body →
      Variant variants x ('"' :: body ++ ['"'])
  | object {slot : Slot} : variants.lookup slot.name = some x → slot.Named →
      Writes .null slot.text → Variant variants x ('\x7b' :: slot.spell ++ ['\x7d'])

section

variable {variants : List (String × α)} {budget : Nat}

theorem blind_choice : Blind (Reader.choice variants budget) := by
  intro given other same
  unfold Reader.choice
  rw [same]

theorem roomy_variant : Roomy (Variant variants) :=
  fun _ _ _ _ front back => .blanks front back

theorem Variant.opens {x : α} {text : List Char} (variant : Variant variants x text) :
    Opens text := by
  induction variant with
  | blanks front _ _ ih => exact .blanks front ih
  | _ => exact .of_begins ⟨_, _, rfl, rfl, by decide⟩

theorem Variant.formed {x : α} {text : List Char} (variant : Variant variants x text) :
    Formed text := by
  induction variant with
  | blanks front back _ ih => exact .blanks front back ih
  | name _ spelled => exact .string spelled.strung
  | @object slot _ named absent =>
    have one : commas [slot.spell] = slot.spell := List.append_nil _
    rw [← one]
    exact Formed.of_slots (List.cons_ne_nil slot []) (List.forall_mem_singleton.mpr named)
      (List.forall_mem_singleton.mpr absent.formed)

theorem variantNamed_iff {name : String} {x : α} :
    Reader.variantNamed variants name = .ok x ↔ variants.lookup name = some x := by
  unfold Reader.variantNamed
  cases variants.lookup name <;> simp

theorem choice_name {name : String} {x : α} {text left : List Char}
    (read : stringBody text = .ok (name, left)) (listed : variants.lookup name = some x) :
    Reader.choice variants budget ('"' :: text) = .ok (x, left) := by
  change (stringBody text >>= fun p => Reader.variantNamed variants p.1 >>= fun x =>
    .ok (x, p.2)) = _
  rw [read]
  change (Reader.variantNamed variants name >>= fun x => .ok (x, left)) = _
  rw [variantNamed_iff.mpr listed]
  rfl

theorem choice_object {name : String} {x : α} {given inside behind text after rest : List Char}
    (deep : budget ≠ 0) (begun : skipSpace given = '"' :: inside)
    (read : stringBody inside = .ok (name, behind)) (listed : variants.lookup name = some x)
    (colon : Reader.colon behind = .ok ((), text)) (nothing : Reader.unit text = .ok ((), after))
    (closed : skipSpace after = '\x7d' :: rest) :
    Reader.choice variants budget ('\x7b' :: given) = .ok (x, rest) := by
  unfold Reader.choice
  simp only [skipSpace_cons (c := '\x7b') rfl, if_neg deep, begun, bind, Except.bind, read,
    variantNamed_iff.mpr listed, colon, nothing, closed]

theorem Variant.takes {x : α} {text : List Char} (variant : Variant variants x text)
    (deep : budget ≠ 0) : Takes (Reader.choice variants budget) x text := by
  induction variant with
  | blanks front back _ ih => exact ih.blanks front back
  | name listed spelled =>
    apply Takes.of_exact blind_choice
    intro rest _
    rw [enclosed]
    exact choice_name (spelled.stringBody rest) listed
  | @object slot listed named absent =>
    apply Takes.of_exact blind_choice
    intro rest _
    obtain ⟨inside, left, begun, read, behind⟩ :=
      named.skip (':' :: (slot.text ++ '\x7d' :: rest))
    have colon := colon_behind (behind.trans (skipSpace_cons rfl _))
    obtain ⟨after, nothing, closed⟩ := reads_unit.takes (x := ()) absent
      (slot.text ++ '\x7d' :: rest) ('\x7d' :: rest) (ends_of_head (by decide)) rfl
    rw [enclosed, Slot.spell, List.append_assoc, List.cons_append]
    exact choice_object deep begun read listed colon nothing (closed.trans (skipSpace_cons rfl _))

/-- What is read of an object that stands for a variant is an object of its name and null. -/
theorem variant_of_parts {name : String} {x : α}
    {given inside behind afterColon afterNull rest : List Char}
    (begun : skipSpace given = '"' :: inside) (quoted : stringBody inside = .ok (name, behind))
    (listed : variants.lookup name = some x) (colon : Reader.colon behind = .ok ((), afterColon))
    (null : Reader.unit afterColon = .ok ((), afterNull))
    (closed : skipSpace afterNull = '\x7d' :: rest) :
    ∃ text, '\x7b' :: given = text ++ rest ∧ Variant variants x text := by
  obtain ⟨before, blanks, given_eq⟩ := exists_blanks given
  obtain ⟨_, rfl, body, rfl, spelled⟩ := stringBody_finds quoted
  obtain ⟨_, rfl, gap, gapBlanks, rfl⟩ := colon_finds colon
  obtain ⟨text, rfl, writes⟩ := reads_unit.finds null
  obtain ⟨back, backBlanks, afterNull_eq⟩ := exists_blanks afterNull
  rw [closed] at afterNull_eq
  rw [begun] at given_eq
  let slot : Slot := ⟨name, before ++ '"' :: body ++ '"' :: gap, text ++ back⟩
  have named : slot.Named := ⟨body, spelled, before, gap, blanks, gapBlanks, rfl⟩
  have none : Blanks [] := nofun
  have written : Writes .null slot.text := .blanks none backBlanks writes
  refine ⟨'\x7b' :: slot.spell ++ ['\x7d'], ?_, .object listed named written⟩
  rw [given_eq, afterNull_eq]
  simp [Slot.spell, slot]

theorem choice_finds : Finds (Reader.choice variants budget) (Variant variants) := by
  intro given x left read
  apply roomy_variant.behind_blanks
  unfold Reader.choice at read
  split at read
  case h_1 => cases read
  case h_2 same =>
    obtain ⟨⟨name, behind⟩, quoted, read⟩ := andThen_eq_ok read
    obtain ⟨y, listed, read⟩ := andThen_eq_ok read
    cases read
    obtain ⟨_, rfl, body, rfl, spelled⟩ := stringBody_finds quoted
    exact ⟨'"' :: body ++ ['"'], by simp [same], .name (variantNamed_iff.mp listed) spelled⟩
  case h_3 given same =>
    rw [same]
    split at read
    · cases read
    · split at read
      case h_1 => cases read
      case h_2 begun =>
        obtain ⟨⟨name, behind⟩, quoted, read⟩ := andThen_eq_ok read
        obtain ⟨y, listed, read⟩ := andThen_eq_ok read
        obtain ⟨⟨_, afterColon⟩, colon, read⟩ := andThen_eq_ok read
        obtain ⟨⟨_, afterNull⟩, null, read⟩ := andThen_eq_ok read
        dsimp only at read
        split at read
        · cases read
        · rename_i closed
          cases read
          exact variant_of_parts begun quoted (variantNamed_iff.mp listed) colon null closed
        · cases read
      case h_3 => cases read
      case h_4 => cases read
  case h_4 => cases read

theorem reads_choice (deep : budget ≠ 0) :
    Reads (Reader.choice variants budget) (Variant variants) where
  finds := choice_finds
  takes variant := variant.takes deep
  roomy := roomy_variant
  opens variant := variant.opens

end

end PresenceSeal.Json
