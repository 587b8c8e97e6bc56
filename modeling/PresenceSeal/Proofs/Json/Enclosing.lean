import PresenceSeal.Proofs.Json.Finding

/-! What has been read of a container was there: items or members with commas between them,
each with blanks around it. -/
namespace PresenceSeal.Json

/-- With blanks around it a text tells the same. -/
def Roomy (lang : α → List Char → Prop) : Prop :=
  ∀ ⦃x before text after⦄, Blanks before → Blanks after → lang x text →
    lang x (before ++ text ++ after)

/-- Where a text stands among the others: a comma goes in front of it, unless it is the first. -/
def comma (first : Bool) : List Char := if first then [] else [',']

/-- Texts of which the first is the very first of all or stands behind a comma. -/
def joined (first : Bool) (texts : List (List Char)) : List Char :=
  if first then commas texts else texts.flatMap (',' :: ·)

theorem joined_cons (first : Bool) (text : List Char) (texts : List (List Char)) :
    joined first (text :: texts) = comma first ++ text ++ joined false texts := by
  cases first <;> simp [joined, comma, commas]

theorem joined_nil (first : Bool) : joined first [] = [] := by
  cases first <;> rfl

/-- Blanks in front of texts belong to the first of them. -/
theorem commas_cons_append (before text : List Char) (texts : List (List Char)) :
    before ++ commas (text :: texts) = commas ((before ++ text) :: texts) := by
  simp [commas]

/-! ### Lists -/

theorem anotherItem_false {first : Bool} {given left : List Char}
    (read : Reader.anotherItem first given = .ok (false, left)) :
    ∃ before rest, Blanks before ∧ left = ']' :: rest ∧ given = before ++ left := by
  obtain ⟨before, blanks, given_eq⟩ := exists_blanks given
  unfold Reader.anotherItem at read
  split at read
  · cases read
  · rename_i rest same
    cases read
    rw [same] at given_eq
    exact ⟨before, rest, blanks, rfl, given_eq⟩
  · split at read
    · cases read
    · split at read
      · split at read <;> cases read
      · cases read

theorem anotherItem_true {first : Bool} {given left : List Char}
    (read : Reader.anotherItem first given = .ok (true, left)) :
    ∃ before after, Blanks before ∧ Blanks after ∧
      given = before ++ (comma first ++ after) ++ left := by
  obtain ⟨before, blanks, given_eq⟩ := exists_blanks given
  unfold Reader.anotherItem at read
  split at read
  · cases read
  · cases read
  · rename_i c rest _ same
    rw [same] at given_eq
    cases first with
    | true =>
      cases read
      exact ⟨before, [], blanks, nofun, by simpa [comma] using given_eq⟩
    | false =>
      rw [if_neg Bool.false_ne_true] at read
      split at read
      · rename_i isComma
        obtain ⟨after, more, rest_eq⟩ := exists_blanks rest
        split at read
        · cases read
        · cases read
        · cases read
          rw [rest_eq, isComma] at given_eq
          exact ⟨before, after, blanks, more, by simpa [comma] using given_eq⟩
      · cases read

/-- The items of a list: none and blanks, or some with commas between their texts. -/
def Row (lang : α → List Char → Prop) (xs : List α) (inside : List Char) : Prop :=
  (xs = [] ∧ Blanks inside) ∨
    ∃ pieces : List (α × List Char), pieces ≠ [] ∧ xs = pieces.map (·.1) ∧
      inside = commas (pieces.map (·.2)) ∧ ∀ piece ∈ pieces, lang piece.1 piece.2

section

variable {α : Type} {item : Reader α} {lang : α → List Char → Prop}

theorem itemSteps_finds (finds : Finds item lang) (roomy : Roomy lang) {fuel : Nat} {first : Bool}
    {given left : List Char} {xs : List α}
    (read : Reader.itemSteps item fuel first given = .ok (xs, left)) :
    ∃ (before : List Char) (pieces : List (α × List Char)) (rest : List Char),
      Blanks before ∧ left = ']' :: rest ∧
      given = before ++ joined first (pieces.map (·.2)) ++ left ∧
      xs = pieces.map (·.1) ∧ ∀ piece ∈ pieces, lang piece.1 piece.2 := by
  induction fuel generalizing first given xs with
  | zero => cases read
  | succ fuel ih =>
    rw [Reader.itemSteps] at read
    obtain ⟨more, middle, another, read⟩ := bind_eq_ok read
    cases more with
    | false =>
      cases read
      obtain ⟨before, rest, blanks, closed, rfl⟩ := anotherItem_false another
      refine ⟨before, [], rest, blanks, closed, ?_, rfl, List.forall_mem_nil _⟩
      rw [List.map_nil, joined_nil, List.append_nil]
    | true =>
      obtain ⟨x, behind, one, read⟩ := bind_eq_ok read
      obtain ⟨others, left', reads, read⟩ := bind_eq_ok read
      cases read
      obtain ⟨before, front, blanks, frontBlanks, rfl⟩ := anotherItem_true another
      obtain ⟨text, rfl, tells⟩ := finds one
      obtain ⟨back, pieces, rest, backBlanks, closed, rfl, rfl, each⟩ := ih reads
      -- The blanks behind an item are in front of the comma that follows, and belong to the item.
      refine ⟨before, (x, front ++ text ++ back) :: pieces, rest, blanks, closed, ?_, rfl, ?_⟩
      · rw [List.map_cons, joined_cons]
        simp only [List.append_assoc]
      · exact List.forall_mem_cons.mpr ⟨roomy frontBlanks backBlanks tells, each⟩

theorem items_finds (finds : Finds item lang) (roomy : Roomy lang) :
    Finds (Reader.items item) fun xs text =>
      ∃ inside, text = inside ++ [']'] ∧ Row lang xs inside := by
  intro given xs left read
  obtain ⟨_, _, start, read⟩ := bind_eq_ok read
  cases start
  obtain ⟨found, behind, reads, read⟩ := bind_eq_ok read
  obtain ⟨_, _, closes, read⟩ := bind_eq_ok read
  cases read
  obtain ⟨before, pieces, rest, blanks, rfl, given_eq, rfl, each⟩ :=
    itemSteps_finds finds roomy reads
  cases closes
  cases pieces with
  | nil =>
    refine ⟨before ++ [']'], ?_, before, rfl, .inl ⟨rfl, blanks⟩⟩
    rw [given_eq, List.map_nil, joined_nil]
    simp
  | cons piece pieces =>
    obtain ⟨tells, others⟩ := List.forall_mem_cons.mp each
    have front : lang piece.1 (before ++ piece.2) := by
      have none : Blanks [] := List.forall_mem_nil _
      simpa using roomy blanks none tells
    refine ⟨commas ((before ++ piece.2) :: pieces.map (·.2)) ++ [']'], ?_, _, rfl,
      .inr ⟨(piece.1, before ++ piece.2) :: pieces, List.cons_ne_nil _ _, rfl, rfl,
        List.forall_mem_cons.mpr ⟨front, others⟩⟩⟩
    rw [given_eq, List.map_cons, joined, if_pos rfl, commas_cons_append]
    simp

end

/-! ### Objects -/

theorem colon_finds :
    Finds Reader.colon fun _ text => ∃ before, Blanks before ∧ text = before ++ [':'] := by
  intro given _ left read
  obtain ⟨before, blanks, given_eq⟩ := exists_blanks given
  unfold Reader.colon at read
  split at read
  · cases read
  · rename_i rest same
    cases read
    rw [same] at given_eq
    exact ⟨before ++ [':'], by simpa using given_eq, before, blanks, rfl⟩
  · cases read

theorem Finds.behind_colon {reader : Reader α} {lang : α → List Char → Prop}
    (finds : Finds reader lang) :
    Finds (Reader.colon >>= fun _ => reader) fun x text =>
      ∃ before inside, Blanks before ∧ text = before ++ ':' :: inside ∧ lang x inside := by
  intro given x left read
  obtain ⟨_, behind, colon, value⟩ := bind_eq_ok read
  obtain ⟨_, rfl, before, blanks, rfl⟩ := colon_finds colon
  obtain ⟨text, rfl, tells⟩ := finds value
  exact ⟨before ++ ':' :: text, by simp, before, text, blanks, rfl, tells⟩

theorem anotherKey_visible (first : Bool) {given rest : List Char} {c : Char}
    (same : skipSpace given = c :: rest) (opened : c ≠ '\x7d') :
    Reader.anotherKey first given =
      ((if first then Reader.openKey (c :: rest)
        else if c = ',' then Reader.openKey (skipSpace rest)
        else .error .expectedObjectEnd) >>= fun inside =>
          stringBody inside >>= fun found => .ok (some found.1, found.2)) := by
  unfold Reader.anotherKey
  rw [same]
  split
  · contradiction
  · rename_i brace
    exact absurd (List.cons.inj brace).1 opened
  · rename_i found
    obtain ⟨rfl, rfl⟩ := List.cons.inj found
    cases first with
    | true => rfl
    | false => by_cases isComma : c = ',' <;> simp only [isComma] <;> rfl

theorem anotherKey_none {first : Bool} {given left : List Char}
    (read : Reader.anotherKey first given = .ok (none, left)) :
    ∃ before rest, Blanks before ∧ left = '\x7d' :: rest ∧ given = before ++ left := by
  obtain ⟨before, blanks, given_eq⟩ := exists_blanks given
  cases same : skipSpace given with
  | nil => simp only [Reader.anotherKey, same, reduceCtorEq] at read
  | cons c rest =>
    by_cases closed : c = '\x7d'
    · subst closed
      rw [Reader.anotherKey, same] at read
      cases read
      rw [same] at given_eq
      exact ⟨before, rest, blanks, rfl, given_eq⟩
    · rw [anotherKey_visible first same closed] at read
      obtain ⟨_, _, bodied⟩ := andThen_eq_ok read
      obtain ⟨_, _, made⟩ := andThen_eq_ok bodied
      cases made

theorem openKey_eq_ok {text inside : List Char} (opened : Reader.openKey text = .ok inside) :
    text = '"' :: inside := by
  unfold Reader.openKey at opened
  split at opened <;> cases opened
  rfl

theorem anotherKey_some {first : Bool} {given left : List Char} {key : String}
    (read : Reader.anotherKey first given = .ok (some key, left)) :
    ∃ before after body, Blanks before ∧ Blanks after ∧ Spelled key.toList body ∧
      given = before ++ (comma first ++ (after ++ '"' :: body ++ ['"'])) ++ left := by
  obtain ⟨before, blanks, given_eq⟩ := exists_blanks given
  cases same : skipSpace given with
  | nil => simp only [Reader.anotherKey, same, reduceCtorEq] at read
  | cons c rest =>
    rw [same] at given_eq
    by_cases closed : c = '\x7d'
    · subst closed
      rw [Reader.anotherKey, same] at read
      cases read
    · rw [anotherKey_visible first same closed] at read
      obtain ⟨inside, opened, bodied⟩ := andThen_eq_ok read
      obtain ⟨⟨text, behind⟩, found, made⟩ := andThen_eq_ok bodied
      cases made
      obtain ⟨_, rfl, body, rfl, spelled⟩ := stringBody_finds found
      cases first with
      | true =>
        have quotation := openKey_eq_ok opened
        rw [quotation] at given_eq
        exact ⟨before, [], body, blanks, List.forall_mem_nil _, spelled,
          by simpa [comma] using given_eq⟩
      | false =>
        rw [if_neg Bool.false_ne_true] at opened
        split at opened
        · rename_i isComma
          obtain ⟨after, more, rest_eq⟩ := exists_blanks rest
          rw [rest_eq, openKey_eq_ok opened, isComma] at given_eq
          exact ⟨before, after, body, blanks, more, spelled, by simpa [comma] using given_eq⟩
        · cases opened

/-- How the members of an object go, one after another: `step` says what becomes of a member
of that name whose text stands behind its colon. -/
inductive Trail (step : σ → String → σ → List Char → Prop) : σ → List Slot → σ → Prop where
  | nil {gathered} : Trail step gathered [] gathered
  | cons {gathered slot next slots last} : slot.Named →
      step gathered slot.name next slot.text → Trail step next slots last →
      Trail step gathered (slot :: slots) last

/-- The members of an object: none and blanks, or some with commas between their texts. -/
def Roll (step : σ → String → σ → List Char → Prop) (start last : σ) (inside : List Char) : Prop :=
  (last = start ∧ Blanks inside) ∨
    ∃ slots : List Slot, slots ≠ [] ∧ Trail step start slots last ∧
      inside = commas (slots.map Slot.spell)

/-- A member is a colon and a text that `step` allows for. -/
def FindsMember (member : σ → String → Reader σ) (step : σ → String → σ → List Char → Prop) :
    Prop :=
  ∀ gathered key, Finds (member gathered key) fun next text =>
    ∃ before inside, Blanks before ∧ text = before ++ ':' :: inside ∧ step gathered key next inside

section

variable {member : σ → String → Reader σ} {step : σ → String → σ → List Char → Prop}

theorem memberSteps_finds (finds : FindsMember member step)
    (roomy : ∀ gathered key, Roomy (step gathered key)) {fuel : Nat} {first : Bool}
    {given left : List Char} {start last : σ}
    (read : Reader.memberSteps member fuel first start given = .ok (last, left)) :
    ∃ before slots rest, Blanks before ∧ left = '\x7d' :: rest ∧
      given = before ++ joined first (slots.map Slot.spell) ++ left ∧
      Trail step start slots last := by
  induction fuel generalizing first given start with
  | zero => cases read
  | succ fuel ih =>
    rw [Reader.memberSteps] at read
    obtain ⟨key?, middle, another, read⟩ := bind_eq_ok read
    cases key? with
    | none =>
      cases read
      obtain ⟨before, rest, blanks, closed, rfl⟩ := anotherKey_none another
      refine ⟨before, [], rest, blanks, closed, ?_, .nil⟩
      rw [List.map_nil, joined_nil, List.append_nil]
    | some key =>
      obtain ⟨next, behind, one, reads⟩ := bind_eq_ok read
      obtain ⟨before, front, body, blanks, frontBlanks, spelled, rfl⟩ := anotherKey_some another
      obtain ⟨_, rfl, gap, inside, gapBlanks, rfl, tells⟩ := finds start key one
      obtain ⟨back, slots, rest, backBlanks, closed, rfl, trail⟩ := ih reads
      -- The blanks in front of the colon belong to the name, those behind the value to it.
      let slot : Slot := ⟨key, front ++ '"' :: body ++ '"' :: gap, inside ++ back⟩
      have named : slot.Named := ⟨body, spelled, front, gap, frontBlanks, gapBlanks, rfl⟩
      have none : Blanks [] := List.forall_mem_nil _
      refine ⟨before, slot :: slots, rest, blanks, closed, ?_, .cons named ?_ trail⟩
      · rw [List.map_cons, joined_cons]
        simp [Slot.spell, slot]
      · exact roomy start key none backBlanks tells

theorem members_finds (finds : FindsMember member step)
    (roomy : ∀ gathered key, Roomy (step gathered key)) {given left : List Char} {start last : σ}
    (read : Reader.members member start given = .ok (last, left)) :
    ∃ inside rest, left = '\x7d' :: rest ∧ given = inside ++ left ∧
      Roll step start last inside := by
  obtain ⟨_, _, begun, read⟩ := bind_eq_ok read
  cases begun
  obtain ⟨before, slots, rest, blanks, rfl, given_eq, trail⟩ := memberSteps_finds finds roomy read
  cases trail with
  | nil =>
    rw [List.map_nil, joined_nil, List.append_nil] at given_eq
    exact ⟨before, rest, rfl, given_eq, .inl ⟨rfl, blanks⟩⟩
  | @cons _ slot next slots _ named tells others =>
    obtain ⟨body, spelled, front, gap, frontBlanks, gapBlanks, key⟩ := named
    let moved : Slot := ⟨slot.name, before ++ slot.key, slot.text⟩
    have renamed : moved.Named :=
      ⟨body, spelled, before ++ front, gap, blanks.append frontBlanks, gapBlanks, by
        simp [moved, key]⟩
    refine ⟨commas ((moved :: slots).map Slot.spell), rest, rfl, ?_,
      .inr ⟨moved :: slots, List.cons_ne_nil _ _, .cons renamed tells others, rfl⟩⟩
    rw [given_eq, List.map_cons, joined, if_pos rfl, commas_cons_append, List.map_cons]
    simp [moved, Slot.spell]

/-- If every step is taken from its text, so are the members. -/
theorem Trail.gathers (takes : ∀ gathered key next text, step gathered key next text →
      Takes (member gathered key) next (':' :: text)) {slots : List Slot} {start last : σ}
    (trail : Trail step start slots last) : Gathers member start slots last := by
  induction trail with
  | nil => exact .nil
  | cons named tells _ ih => exact .cons named (takes _ _ _ _ tells) ih

end

end PresenceSeal.Json
