import PresenceSeal.Proofs.Json.Enclosing

/-! Values that are kept and values that are passed over, both exactly. A reader keeps a value
if and only if its text is one of those that are defined here, and passes over a text if and
only if it is well formed. -/
namespace PresenceSeal.Json

/-- The texts of the values that can be kept with so many containers inside each other. Numbers
must be in range and surrogates paired; of a name that is repeated the last value counts. -/
inductive Retained : Nat → Json → List Char → Prop where
  | blanks {depth j before text after} : Blanks before → Blanks after → Retained depth j text →
      Retained depth j (before ++ text ++ after)
  | null {depth} : Retained depth .null ['n', 'u', 'l', 'l']
  | true {depth} : Retained depth (.bool true) ['t', 'r', 'u', 'e']
  | false {depth} : Retained depth (.bool false) ['f', 'a', 'l', 's', 'e']
  | number {depth n value text} : Figured n text → n.number = .ok value →
      Retained depth (.number value) text
  | string {depth} {value : String} {body} : Spelled value.toList body →
      Retained depth (.string value) ('"' :: body ++ ['"'])
  | noItems {depth inside} : Blanks inside →
      Retained (depth + 1) (.array []) ('[' :: inside ++ [']'])
  | array {depth} {pieces : List (Json × List Char)} : pieces ≠ [] →
      (∀ piece ∈ pieces, Retained depth piece.1 piece.2) →
      Retained (depth + 1) (.array (pieces.map (·.1))) ('[' :: commas (pieces.map (·.2)) ++ [']'])
  | noMembers {depth inside} : Blanks inside →
      Retained (depth + 1) (.object []) ('\x7b' :: inside ++ ['\x7d'])
  | object {depth} {pieces : List (Slot × Json)} : pieces ≠ [] →
      (∀ piece ∈ pieces, piece.1.Named) →
      (∀ piece ∈ pieces, Retained depth piece.2 piece.1.text) →
      Retained (depth + 1) (ofEntries (pieces.map fun piece => (piece.1.name, piece.2)))
        ('\x7b' :: commas (pieces.map (·.1.spell)) ++ ['\x7d'])

theorem roomy_retained (depth : Nat) : Roomy (Retained depth) :=
  fun _ _ _ _ front back => .blanks front back

theorem roomy_formed : Roomy fun (_ : α) text => Formed text :=
  fun _ _ _ _ front back => .blanks front back

/-- Members with a name and a well-formed value make an object. -/
theorem Formed.of_slots {slots : List Slot} (filled : slots ≠ [])
    (named : ∀ slot ∈ slots, slot.Named) (each : ∀ slot ∈ slots, Formed slot.text) :
    Formed ('\x7b' :: commas (slots.map Slot.spell) ++ ['\x7d']) := by
  have written : Formed ('\x7b' :: commas ((slots.map fun slot => (slot.key, slot.text)).map
      fun piece => piece.1 ++ ':' :: piece.2) ++ ['\x7d']) := by
    refine .object (by simpa using filled) (List.forall_mem_map.mpr ?_)
      (List.forall_mem_map.mpr each)
    intro slot inside
    obtain ⟨body, spelled, quoted⟩ := named slot inside
    exact ⟨body, spelled.strung, quoted⟩
  rwa [List.map_map] at written

theorem Retained.formed {depth : Nat} {j : Json} {text : List Char} (kept : Retained depth j text) :
    Formed text := by
  induction kept with
  | blanks front back _ ih => exact .blanks front back ih
  | null => exact .null
  | true => exact .true
  | false => exact .false
  | number figured => exact .number figured.figures
  | string spelled => exact .string spelled.strung
  | noItems blanks => exact .noItems blanks
  | @array _ pieces filled _ ih =>
    exact .array (by simpa using filled) (List.forall_mem_map.mpr ih)
  | noMembers blanks => exact .noMembers blanks
  | @object _ pieces filled named _ ih =>
    rw [show pieces.map (·.1.spell) = (pieces.map (·.1)).map Slot.spell by simp]
    exact .of_slots (by simpa using filled) (List.forall_mem_map.mpr named)
      (List.forall_mem_map.mpr ih)

/-- Whatever can be kept is kept as it is. -/
theorem Retained.takes {depth : Nat} {j : Json} {text : List Char} (kept : Retained depth j text) :
    Takes (Reader.value depth) j text := by
  induction kept with
  | blanks front back _ ih => exact ih.blanks front back
  | @null depth | @true depth | @false depth =>
    apply Takes.of_exact (blind_value depth)
    intro rest _
    cases depth <;> rfl
  | @number depth n value text figured made =>
    apply Takes.of_exact (blind_value depth)
    intro rest ends
    obtain ⟨c, more, same, first⟩ := figured.figures.head
    have number : Reader.number (text ++ rest) = .ok (value, rest) := by
      simp only [Reader.number, figured.scan ends, made, bind, Except.bind]
    rw [same, List.cons_append, value_number depth first, ← List.cons_append, ← same, number]
    rfl
  | @string depth value body spelled =>
    apply Takes.of_exact (blind_value depth)
    intro rest _
    rw [enclosed, value_string, spelled.stringBody]
    rfl
  | noItems blanks => exact takes_noItems _ blanks
  | array _ each ih => exact takes_array ih fun piece member => (each piece member).formed.opens
  | noMembers blanks => exact takes_noMembers _ blanks
  | object _ named _ ih => exact takes_object named ih

/-! ### What has been kept -/

/-- What becomes of a member of an object that is kept. -/
def Entered (depth : Nat) (gathered : List (String × Json)) (name : String)
    (next : List (String × Json)) (text : List Char) : Prop :=
  ∃ value, Retained depth value text ∧ next = gathered ++ [(name, value)]

theorem roomy_entered (depth : Nat) (gathered : List (String × Json)) (name : String) :
    Roomy (Entered depth gathered name) := by
  rintro next before text after front back ⟨value, kept, rfl⟩
  exact ⟨value, kept.blanks front back, rfl⟩

theorem Trail.entries {depth : Nat} {slots : List Slot} {start last : List (String × Json)}
    (trail : Trail (Entered depth) start slots last) :
    ∃ pieces : List (Slot × Json), pieces.map (·.1) = slots ∧
      (∀ piece ∈ pieces, piece.1.Named) ∧ (∀ piece ∈ pieces, Retained depth piece.2 piece.1.text) ∧
      last = start ++ pieces.map fun piece => (piece.1.name, piece.2) := by
  induction trail with
  | nil => exact ⟨[], rfl, nofun, nofun, (List.append_nil _).symm⟩
  | @cons gathered slot next slots last named step _ ih =>
    obtain ⟨value, kept, rfl⟩ := step
    obtain ⟨pieces, rfl, names, each, rfl⟩ := ih
    refine ⟨(slot, value) :: pieces, rfl, List.forall_mem_cons.mpr ⟨named, names⟩,
      List.forall_mem_cons.mpr ⟨kept, each⟩, ?_⟩
    simp

theorem entry_finds {depth : Nat} (finds : Finds (Reader.value depth) (Retained depth)) :
    FindsMember (entry (Reader.value depth)) (Entered depth) := by
  intro gathered key
  refine (finds.followed (f := fun value => gathered ++ [(key, value)])).behind_colon.mono ?_
  rintro next text ⟨before, inside, blanks, same, value, made, kept⟩
  exact ⟨before, inside, blanks, same, value, kept, made⟩

/-- Blanks in front of what has been found belong to it. -/
theorem Roomy.behind_blanks {lang : α → List Char → Prop} (roomy : Roomy lang)
    {given left : List Char} {x : α}
    (found : ∃ text, skipSpace given = text ++ left ∧ lang x text) :
    ∃ text, given = text ++ left ∧ lang x text := by
  obtain ⟨text, same, tells⟩ := found
  obtain ⟨before, blanks, given_eq⟩ := exists_blanks given
  have none : Blanks [] := nofun
  refine ⟨before ++ text, ?_, ?_⟩
  · rw [given_eq, same, List.append_assoc]
  · simpa using roomy blanks none tells

theorem value_items_finds {depth : Nat} (finds : Finds (Reader.value depth) (Retained depth))
    {given left : List Char} {j : Json}
    (read : (Reader.items (Reader.value depth) given).map (fun p => (Json.array p.1, p.2)) =
      .ok (j, left)) :
    ∃ text, '[' :: given = text ++ left ∧ Retained (depth + 1) j text := by
  obtain ⟨⟨items, behind⟩, items_eq, made⟩ := map_eq_ok read
  cases made
  obtain ⟨_, rfl, inside, rfl, row⟩ := items_finds finds (roomy_retained depth) items_eq
  refine ⟨'[' :: inside ++ [']'], by simp, ?_⟩
  rcases row with ⟨rfl, blanks⟩ | ⟨pieces, filled, rfl, rfl, each⟩
  · exact .noItems blanks
  · exact .array filled each

theorem value_members_finds {depth : Nat} (finds : Finds (Reader.value depth) (Retained depth))
    {given left behind : List Char} {entries : List (String × Json)}
    (read : Reader.members (entry (Reader.value depth)) [] given = .ok (entries, behind))
    (closed : Reader.closeObject behind = .ok ((), left)) :
    ∃ text, '\x7b' :: given = text ++ left ∧ Retained (depth + 1) (ofEntries entries) text := by
  obtain ⟨inside, rest, rfl, rfl, roll⟩ :=
    members_finds (entry_finds finds) (roomy_entered depth) read
  cases closed
  refine ⟨'\x7b' :: inside ++ ['\x7d'], by simp, ?_⟩
  rcases roll with ⟨rfl, blanks⟩ | ⟨slots, filled, trail, rfl⟩
  · exact .noMembers blanks
  · obtain ⟨pieces, rfl, named, each, rfl⟩ := trail.entries
    rw [List.map_map]
    exact .object (by simpa using filled) named each

/-- A word whose first letter has been seen. -/
theorem ident_finds_behind {c : Char} {word given left : List Char} {nothing : Unit}
    (read : ident word given = .ok (nothing, left)) : c :: given = (c :: word) ++ left := by
  obtain ⟨_, rfl, rfl⟩ := ident_finds word read
  rfl

theorem number_finds :
    Finds Reader.number fun value text => ∃ n, Figured n text ∧ n.number = .ok value := by
  intro given value left read
  obtain ⟨⟨n, behind⟩, scanned, read⟩ := andThen_eq_ok read
  obtain ⟨made, number, read⟩ := andThen_eq_ok read
  cases read
  obtain ⟨text, same, figured⟩ := Numeral.scan_finds _ scanned
  exact ⟨text, same, n, figured, number⟩

theorem value_finds_of {depth : Nat}
    (inner : ∀ below, depth = below + 1 → Finds (Reader.value below) (Retained below)) :
    Finds (Reader.value depth) (Retained depth) := by
  intro given j left read
  apply (roomy_retained depth).behind_blanks
  unfold Reader.value at read
  split at read
  case h_1 => cases read
  case h_2 same =>
    obtain ⟨_, word, made⟩ := map_eq_ok read
    cases made
    exact ⟨_, same.trans (ident_finds_behind word), .null⟩
  case h_3 same =>
    obtain ⟨_, word, made⟩ := map_eq_ok read
    cases made
    exact ⟨_, same.trans (ident_finds_behind word), .true⟩
  case h_4 same =>
    obtain ⟨_, word, made⟩ := map_eq_ok read
    cases made
    exact ⟨_, same.trans (ident_finds_behind word), .false⟩
  case h_5 same =>
    obtain ⟨_, body, made⟩ := map_eq_ok read
    cases made
    obtain ⟨_, rfl, inside, rfl, spelled⟩ := stringBody_finds body
    exact ⟨'"' :: inside ++ ['"'], by simp [same], .string spelled⟩
  case h_6 same =>
    rw [same]
    split at read
    · cases read
    · exact value_items_finds (inner _ rfl) read
  case h_7 same =>
    rw [same]
    split at read
    · cases read
    · obtain ⟨⟨entries, behind⟩, members, read⟩ := andThen_eq_ok read
      obtain ⟨⟨_, after⟩, closed, read⟩ := andThen_eq_ok read
      cases read
      exact value_members_finds (inner _ rfl) members closed
  case h_8 same =>
    rw [same]
    split at read
    · obtain ⟨⟨value, behind⟩, number, made⟩ := map_eq_ok read
      cases made
      obtain ⟨text, given_eq, n, figured, value⟩ := number_finds number
      exact ⟨text, given_eq, .number figured value⟩
    · cases read

/-- What has been kept had one of its texts. -/
theorem value_finds (depth : Nat) : Finds (Reader.value depth) (Retained depth) := by
  induction depth with
  | zero => exact value_finds_of nofun
  | succ depth ih =>
    apply value_finds_of
    intro below same
    cases same
    exact ih

/-! ### What has been passed over -/

/-- When the rest of a container has been passed over, it ended at the closing character or went
on behind a comma with an item. -/
def Looped (loop : Nat → Reader Unit) (item : Reader Unit) (close : Char) : Prop :=
  ∀ ⦃fuel given left⦄, loop fuel given = .ok ((), left) → ∃ less, fuel = less + 1 ∧
    (skipSpace given = close :: left ∨ ∃ text behind, skipSpace given = ',' :: text ∧
      item text = .ok ((), behind) ∧ loop less behind = .ok ((), left))

theorem looped_items (item : Reader Unit) : Looped (Reader.skipItems item) item ']' := by
  intro fuel given left read
  cases fuel with
  | zero => cases read
  | succ fuel =>
    refine ⟨fuel, rfl, ?_⟩
    unfold Reader.skipItems at read
    split at read
    case h_1 => cases read
    case h_2 same =>
      cases read
      exact .inl same
    case h_3 same =>
      split at read
      · cases read
      · rename_i passed
        exact .inr ⟨_, _, same, passed, read⟩
    case h_4 => cases read

theorem looped_members (item : Reader Unit) :
    Looped (Reader.skipMembers item) (Reader.skipMember item) '\x7d' := by
  intro fuel given left read
  cases fuel with
  | zero => cases read
  | succ fuel =>
    refine ⟨fuel, rfl, ?_⟩
    unfold Reader.skipMembers at read
    split at read
    case h_1 => cases read
    case h_2 same =>
      cases read
      exact .inl same
    case h_3 same =>
      split at read
      · cases read
      · rename_i passed
        exact .inr ⟨_, _, same, passed, read⟩
    case h_4 => cases read

section

variable {loop : Nat → Reader Unit} {item : Reader Unit} {close : Char}
  {lang : Unit → List Char → Prop}

theorem Looped.finds (looped : Looped loop item close) (finds : Finds item lang)
    (roomy : Roomy lang) {fuel : Nat} {given left : List Char}
    (read : loop fuel given = .ok ((), left)) :
    ∃ before texts, Blanks before ∧ (∀ text ∈ texts, lang () text) ∧
      given = before ++ joined false texts ++ close :: left := by
  induction fuel generalizing given with
  | zero =>
    obtain ⟨less, same, -⟩ := looped read
    cases same
  | succ fuel ih =>
    obtain ⟨before, blanks, given_eq⟩ := exists_blanks given
    obtain ⟨less, same, closed | ⟨inside, behind, begun, passed, others⟩⟩ := looped read
    · refine ⟨before, [], blanks, nofun, ?_⟩
      rw [given_eq, closed, joined_nil, List.append_nil]
    · cases same
      obtain ⟨text, rfl, tells⟩ := finds passed
      obtain ⟨back, texts, more, each, rfl⟩ := ih others
      have none : Blanks [] := nofun
      refine ⟨before, (text ++ back) :: texts, blanks,
        List.forall_mem_cons.mpr ⟨roomy none more tells, each⟩, ?_⟩
      rw [given_eq, begun, joined_cons]
      simp [comma]

/-- The first of the texts in a container, and the others behind it. -/
theorem Looped.finds_all (looped : Looped loop item close) (finds : Finds item lang)
    (roomy : Roomy lang) {fuel : Nat} {given behind left : List Char}
    (first : item (skipSpace given) = .ok ((), behind)) (read : loop fuel behind = .ok ((), left)) :
    ∃ texts, texts ≠ [] ∧ (∀ text ∈ texts, lang () text) ∧
      given = commas texts ++ close :: left := by
  obtain ⟨before, blanks, given_eq⟩ := exists_blanks given
  obtain ⟨text, same, tells⟩ := finds first
  obtain ⟨back, texts, more, each, rfl⟩ := looped.finds finds roomy read
  refine ⟨(before ++ text ++ back) :: texts, List.cons_ne_nil _ _,
    List.forall_mem_cons.mpr ⟨roomy blanks more tells, each⟩, ?_⟩
  rw [given_eq, same]
  simp [commas, joined]

end

/-- A member that is passed over: both sides of its colon are well formed. -/
def FormedMember (member : List Char) : Prop :=
  ∃ body key text, Strung body ∧ Quoted body key ∧ Formed text ∧ member = key ++ ':' :: text

theorem roomy_formedMember : Roomy fun (_ : α) => FormedMember := by
  rintro _ before _ after front back
    ⟨body, key, text, strung, ⟨left, right, leftBlanks, rightBlanks, rfl⟩, formed, rfl⟩
  have none : Blanks [] := nofun
  have spaced : Formed (text ++ after) := .blanks none back formed
  refine ⟨body, before ++ (left ++ '"' :: body ++ '"' :: right), text ++ after, strung,
    ⟨before ++ left, right, front.append leftBlanks, rightBlanks, by simp⟩, spaced, by simp⟩

theorem skipMember_finds {item : Reader Unit} (finds : Finds item fun _ => Formed) :
    Finds (Reader.skipMember item) fun _ => FormedMember := by
  intro given nothing left read
  have roomy : Roomy fun (_ : Unit) => FormedMember := roomy_formedMember
  refine roomy.behind_blanks (x := ()) ?_
  unfold Reader.skipMember at read
  split at read
  · cases read
  · rename_i same
    split at read
    · cases read
    · rename_i behind strung
      split at read
      · cases read
      · rename_i colon
        obtain ⟨_, rfl, inside, rfl, quoted⟩ := skippedString_finds strung
        obtain ⟨_, rfl, before, blanks, rfl⟩ := colon_finds colon
        obtain ⟨text, rfl, formed⟩ := finds read
        refine ⟨'"' :: inside ++ '"' :: before ++ ':' :: text, by simp [same], ?_⟩
        have none : Blanks [] := nofun
        exact ⟨inside, _, text, quoted, ⟨[], before, none, blanks, rfl⟩, formed, by simp⟩
  · cases read

theorem Formed.of_members {texts : List (List Char)} (filled : texts ≠ [])
    (each : ∀ text ∈ texts, FormedMember text) : Formed ('\x7b' :: commas texts ++ ['\x7d']) := by
  have pieces : ∃ pieces : List (List Char × List Char),
      (∀ piece ∈ pieces, ∃ body, Strung body ∧ Quoted body piece.1) ∧
      (∀ piece ∈ pieces, Formed piece.2) ∧
      pieces.map (fun piece => piece.1 ++ ':' :: piece.2) = texts := by
    clear filled
    induction texts with
    | nil => exact ⟨[], nofun, nofun, rfl⟩
    | cons text texts ih =>
      obtain ⟨⟨body, key, inside, strung, quoted, formed, rfl⟩, others⟩ :=
        List.forall_mem_cons.mp each
      obtain ⟨pieces, names, values, rfl⟩ := ih others
      exact ⟨(key, inside) :: pieces, List.forall_mem_cons.mpr ⟨⟨body, strung, quoted⟩, names⟩,
        List.forall_mem_cons.mpr ⟨formed, values⟩, rfl⟩
  obtain ⟨pieces, named, values, rfl⟩ := pieces
  exact .object (by simpa using filled) named values

theorem skipSteps_finds_of {depth : Nat}
    (inner : ∀ below, depth = below + 1 → Finds (Reader.skipSteps below) fun _ => Formed) :
    Finds (Reader.skipSteps depth) fun _ => Formed := by
  intro given nothing left read
  have roomy : Roomy fun (_ : Unit) => Formed := roomy_formed
  refine roomy.behind_blanks (x := ()) ?_
  unfold Reader.skipSteps at read
  split at read
  case h_1 => cases read
  case h_2 same => exact ⟨_, same.trans (ident_finds_behind read), .null⟩
  case h_3 same => exact ⟨_, same.trans (ident_finds_behind read), .true⟩
  case h_4 same => exact ⟨_, same.trans (ident_finds_behind read), .false⟩
  case h_5 same =>
    obtain ⟨_, rfl, inside, rfl, strung⟩ := skippedString_finds read
    exact ⟨'"' :: inside ++ ['"'], by simp [same], .string strung⟩
  case h_6 given same =>
    rw [same]
    split at read
    · cases read
    · obtain ⟨before, blanks, given_eq⟩ := exists_blanks given
      split at read
      · cases read
      · rename_i closed
        cases read
        rw [closed] at given_eq
        exact ⟨'[' :: before ++ [']'], by simp [given_eq], .noItems blanks⟩
      · split at read
        · cases read
        · rename_i behind first
          have finds := inner _ rfl
          obtain ⟨texts, filled, each, rfl⟩ :=
            (looped_items _).finds_all finds roomy_formed first read
          exact ⟨'[' :: commas texts ++ [']'], by simp, .array filled each⟩
  case h_7 given same =>
    rw [same]
    split at read
    · cases read
    · obtain ⟨before, blanks, given_eq⟩ := exists_blanks given
      split at read
      · cases read
      · rename_i closed
        cases read
        rw [closed] at given_eq
        exact ⟨'\x7b' :: before ++ ['\x7d'], by simp [given_eq], .noMembers blanks⟩
      · split at read
        · cases read
        · rename_i behind first
          have finds := skipMember_finds (inner _ rfl)
          obtain ⟨texts, filled, each, rfl⟩ :=
            (looped_members _).finds_all finds roomy_formedMember first read
          exact ⟨'\x7b' :: commas texts ++ ['\x7d'], by simp, .of_members filled each⟩
  case h_8 same =>
    rw [same]
    split at read
    · obtain ⟨⟨n, behind⟩, scanned, read⟩ := andThen_eq_ok read
      cases read
      obtain ⟨text, given_eq, figured⟩ := Numeral.scan_finds _ scanned
      exact ⟨text, given_eq, .number figured.figures⟩
    · cases read

theorem skipSteps_finds (depth : Nat) : Finds (Reader.skipSteps depth) fun _ => Formed := by
  induction depth with
  | zero => exact skipSteps_finds_of nofun
  | succ depth ih =>
    apply skipSteps_finds_of
    intro below same
    cases same
    exact ih

/-- What has been passed over was well formed. -/
theorem skip_finds : Finds Reader.skip fun _ => Formed :=
  fun given _ _ read => skipSteps_finds given.length read

end PresenceSeal.Json
