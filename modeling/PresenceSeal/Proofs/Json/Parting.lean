import PresenceSeal.Proofs.Json.Layout

/-! A text comes apart in one way only. Where well-formed texts stand between commas, each of
them ends where it has to, and so an object has the members that it has: no text can be taken for
an object with other members, and what stands deeper is not among them. -/
namespace PresenceSeal.Json

/-! ### Containers -/

/-- Of what is given, a reader takes one text off the front. -/
theorem eq_of_takes {reader : Reader α} {x y : α} {text other rest behind : List Char}
    (takes : Takes reader x text) (also : Takes reader y other)
    (ends : Numeral.Ends rest) (endsToo : Numeral.Ends behind)
    (visible : skipSpace rest = rest) (visibleToo : skipSpace behind = behind)
    (same : text ++ rest = other ++ behind) : text = other ∧ rest = behind := by
  obtain ⟨left, read, remains⟩ := takes (text ++ rest) rest ends rfl
  obtain ⟨left', read', remains'⟩ := also (text ++ rest) behind endsToo (by rw [same])
  rw [read] at read'
  cases read'
  rw [visible] at remains
  rw [visibleToo, remains] at remains'
  subst remains'
  exact ⟨List.append_cancel_right same, rfl⟩

section

variable {item : Reader Unit} {close : Char} {texts others : List (List Char)}
  {rest behind : List Char}

theorem eq_of_behind_commas (closes : close = ']' ∨ close = '\x7d')
    (takes : ∀ text ∈ texts, Takes item () text) (also : ∀ text ∈ others, Takes item () text)
    (same : texts.flatMap (',' :: ·) ++ close :: rest =
      others.flatMap (',' :: ·) ++ close :: behind) : texts = others ∧ rest = behind := by
  have noComma : close ≠ ',' := by rcases closes with rfl | rfl <;> decide
  induction texts generalizing others with
  | nil =>
    cases others with
    | nil => exact ⟨rfl, (List.cons.inj same).2⟩
    | cons other others => exact absurd (List.cons.inj same).1 noComma
  | cons text texts ih =>
    cases others with
    | nil => exact absurd (List.cons.inj same).1.symm noComma
    | cons other others =>
      obtain ⟨first, laters⟩ := List.forall_mem_cons.mp takes
      obtain ⟨firstToo, latersToo⟩ := List.forall_mem_cons.mp also
      simp only [List.flatMap_cons, List.cons_append, List.append_assoc, List.cons.injEq,
        true_and] at same
      obtain ⟨rfl, left⟩ := eq_of_takes first firstToo (ends_commas _ closes _)
        (ends_commas _ closes _) (skipSpace_commas _ closes _) (skipSpace_commas _ closes _) same
      obtain ⟨rfl, rfl⟩ := ih laters latersToo left
      exact ⟨rfl, rfl⟩

theorem eq_of_commas (closes : close = ']' ∨ close = '\x7d') (filled : texts ≠ [])
    (filledToo : others ≠ []) (takes : ∀ text ∈ texts, Takes item () text)
    (also : ∀ text ∈ others, Takes item () text)
    (same : commas texts ++ close :: rest = commas others ++ close :: behind) :
    texts = others ∧ rest = behind := by
  obtain ⟨text, texts, rfl⟩ := List.exists_cons_of_ne_nil filled
  obtain ⟨other, others, rfl⟩ := List.exists_cons_of_ne_nil filledToo
  apply eq_of_behind_commas closes takes also
  simp only [List.flatMap_cons, List.cons_append]
  rw [← commas, ← commas, same]

/-- What stands in a text behind blanks: a container of these texts, and then the rest. -/
def Encloses (opening close : Char) (texts : List (List Char)) (rest whole : List Char) : Prop :=
  ∃ before inside, Blanks before ∧ whole = before ++ opening :: (inside ++ close :: rest) ∧
    if texts = [] then Blanks inside else inside = commas texts

variable {opening : Char} {whole : List Char}

theorem Encloses.append (encloses : Encloses opening close texts rest whole) (more : List Char) :
    Encloses opening close texts (rest ++ more) (whole ++ more) := by
  obtain ⟨before, inside, blanks, rfl, filled⟩ := encloses
  exact ⟨before, inside, blanks, by simp, filled⟩

theorem Encloses.behind_blanks {before : List Char} (blanks : Blanks before)
    (encloses : Encloses opening close texts rest whole) :
    Encloses opening close texts rest (before ++ whole) := by
  obtain ⟨front, inside, more, rfl, filled⟩ := encloses
  exact ⟨before ++ front, inside, blanks.append more, by simp, filled⟩

theorem Encloses.visible (visible : isSpace opening = false)
    (encloses : Encloses opening close texts rest whole) : ∃ inside,
      skipSpace whole = opening :: (inside ++ close :: rest) ∧
        if texts = [] then Blanks inside else inside = commas texts := by
  obtain ⟨before, inside, blanks, rfl, filled⟩ := encloses
  exact ⟨inside, by rw [blanks.skip, skipSpace_cons visible], filled⟩

/-- One character tells the kinds of containers. -/
theorem Encloses.opening_eq {second closing : Char} (visible : isSpace opening = false)
    (visibleToo : isSpace second = false) (encloses : Encloses opening close texts rest whole)
    (again : Encloses second closing others behind whole) : opening = second := by
  obtain ⟨inside, begun, -⟩ := encloses.visible visible
  obtain ⟨inside', begun', -⟩ := again.visible visibleToo
  exact (List.cons.inj (begun.symm.trans begun')).1

/-- That a reader of items does not take the end of their container for one of them. -/
def Stops (item : Reader Unit) (close : Char) : Prop :=
  ∀ given more, skipSpace given = close :: more → ∀ left, item given ≠ .ok ((), left)

theorem stops_skip : Stops Reader.skip ']' := by
  intro given more same left read
  unfold Reader.skip Reader.skipSteps at read
  rw [same] at read
  split at read
  case h_8 visible =>
    cases visible
    have other : ¬ ((']' : Char) = '-' ∨ Text.isDigit ']' = true) := by decide
    rw [if_neg other] at read
    cases read
  all_goals
    rename_i visible
    cases visible

theorem stops_skipMember (item : Reader Unit) : Stops (Reader.skipMember item) '\x7d' := by
  intro given more same left read
  rw [Reader.skipMember, same] at read
  cases read

theorem commas_ne_blanks (closes : close = ']' ∨ close = '\x7d') (stops : Stops item close)
    (filled : texts ≠ []) (takes : ∀ text ∈ texts, Takes item () text) {inside : List Char}
    (blanks : Blanks inside) : commas texts ++ close :: rest ≠ inside ++ close :: behind := by
  intro same
  obtain ⟨text, texts, rfl⟩ := List.exists_cons_of_ne_nil filled
  have visible : isSpace close = false := by rcases closes with rfl | rfl <;> rfl
  have closed : skipSpace (commas (text :: texts) ++ close :: rest) = close :: behind := by
    rw [same, blanks.skip, skipSpace_cons visible]
  obtain ⟨left, read, -⟩ := takes text List.mem_cons_self
    (commas (text :: texts) ++ close :: rest) _
    (ends_commas texts closes rest) (by rw [commas, List.append_assoc])
  exact stops _ _ closed left read

/-- No text is two containers of the same kind, and the container ends at one place. -/
theorem Encloses.unique (closes : close = ']' ∨ close = '\x7d') (visible : isSpace opening = false)
    (stops : Stops item close) (takes : ∀ text ∈ texts, Takes item () text)
    (also : ∀ text ∈ others, Takes item () text)
    (encloses : Encloses opening close texts rest whole)
    (again : Encloses opening close others behind whole) : texts = others ∧ rest = behind := by
  have closed : isSpace close = false := by rcases closes with rfl | rfl <;> rfl
  obtain ⟨inside, begun, filled⟩ := encloses.visible visible
  obtain ⟨inside', begun', filled'⟩ := again.visible visible
  have same : inside ++ close :: rest = inside' ++ close :: behind :=
    (List.cons.inj (begun.symm.trans begun')).2
  by_cases none : texts = []
  · by_cases none' : others = []
    · rw [if_pos none] at filled
      rw [if_pos none'] at filled'
      have rests := congrArg skipSpace same
      rw [filled.skip, filled'.skip, skipSpace_cons closed, skipSpace_cons closed] at rests
      exact ⟨none.trans none'.symm, (List.cons.inj rests).2⟩
    · rw [if_pos none] at filled
      rw [if_neg none'] at filled'
      subst filled'
      exact absurd same.symm (commas_ne_blanks closes stops none' also filled)
  · by_cases none' : others = []
    · rw [if_neg none] at filled
      rw [if_pos none'] at filled'
      subst filled
      exact absurd same (commas_ne_blanks closes stops none takes filled')
    · rw [if_neg none] at filled
      rw [if_neg none'] at filled'
      subst filled filled'
      exact eq_of_commas closes none none' takes also same

end

/-! ### Members -/

/-- A member whose name is written and whose value is well formed. -/
def Slot.Sound (slot : Slot) : Prop := slot.Named ∧ Formed slot.text

theorem Slot.Sound.takes {slot : Slot} (sound : slot.Sound) :
    Takes (Reader.skipMember Reader.skip) () slot.spell := by
  obtain ⟨⟨body, spelled, quoted⟩, formed⟩ := sound
  exact takes_skipMember spelled.strung quoted formed.skips

/-- What is written tells the name and the text of a member. -/
theorem Slot.Named.eq_of_spell {slot other : Slot} (named : slot.Named) (also : other.Named)
    (same : slot.spell = other.spell) : slot = other := by
  obtain ⟨inside, left, begun, read, remains⟩ := named.skip (':' :: slot.text)
  obtain ⟨inside', left', begun', read', remains'⟩ := also.skip (':' :: other.text)
  have insides : inside = inside' :=
    (List.cons.inj (begun.symm.trans ((congrArg skipSpace same).trans begun'))).2
  rw [insides, read', Except.ok.injEq, Prod.mk.injEq] at read
  obtain ⟨names, lefts⟩ := read
  rw [← lefts, remains', skipSpace_cons rfl, skipSpace_cons rfl, List.cons.injEq] at remains
  have texts : other.text = slot.text := remains.2
  have keys : slot.key = other.key := by
    rw [Slot.spell, Slot.spell, texts] at same
    exact List.append_cancel_right same
  obtain ⟨name, key, text⟩ := slot
  obtain ⟨name', key', text'⟩ := other
  cases names
  cases keys
  cases texts
  rfl

theorem eq_of_spells {slots others : List Slot} (named : ∀ slot ∈ slots, slot.Named)
    (also : ∀ slot ∈ others, slot.Named) (same : slots.map Slot.spell = others.map Slot.spell) :
    slots = others := by
  induction slots generalizing others with
  | nil => exact (List.map_eq_nil_iff.mp same.symm).symm
  | cons slot slots ih =>
    obtain ⟨other, others, rfl, spell, spells⟩ := List.map_eq_cons_iff.mp same.symm
    obtain ⟨first, laters⟩ := List.forall_mem_cons.mp named
    obtain ⟨firstToo, latersToo⟩ := List.forall_mem_cons.mp also
    rw [first.eq_of_spell firstToo spell.symm, ih laters latersToo spells.symm]

/-- An object of these members, with blanks around it. -/
def IsObject (slots : List Slot) (whole : List Char) : Prop :=
  (∀ slot ∈ slots, slot.Sound) ∧
    ∃ after, Blanks after ∧ Encloses '\x7b' '\x7d' (slots.map Slot.spell) after whole

/-- A list of these items, with blanks around it. -/
def IsList (texts : List (List Char)) (whole : List Char) : Prop :=
  (∀ text ∈ texts, Formed text) ∧
    ∃ after, Blanks after ∧ Encloses '[' ']' texts after whole

theorem IsObject.of_commas {slots : List Slot} {text : List Char} (filled : slots ≠ [])
    (sound : ∀ slot ∈ slots, slot.Sound)
    (spelled : text = '\x7b' :: commas (slots.map Slot.spell) ++ ['\x7d']) :
    IsObject slots text := by
  have several : slots.map Slot.spell ≠ [] := by simpa using filled
  exact ⟨sound, [], nofun, [], commas (slots.map Slot.spell), nofun, by simp [spelled],
    (if_neg several).mpr rfl⟩

theorem takes_sound {slots : List Slot} (sound : ∀ slot ∈ slots, slot.Sound) :
    ∀ text ∈ slots.map Slot.spell, Takes (Reader.skipMember Reader.skip) () text :=
  List.forall_mem_map.mpr fun slot inside => (sound slot inside).takes

/-- What is an object is one object, and nothing can be added to it. -/
theorem IsObject.unique {slots others : List Slot} {whole more : List Char}
    (object : IsObject slots whole) (also : IsObject others (whole ++ more)) :
    slots = others ∧ Blanks more := by
  obtain ⟨sound, after, blanks, encloses⟩ := object
  obtain ⟨soundToo, after', blanks', encloses'⟩ := also
  obtain ⟨spells, rfl⟩ := Encloses.unique (.inr rfl) rfl (stops_skipMember _) (takes_sound sound)
    (takes_sound soundToo) (encloses.append more) encloses'
  refine ⟨eq_of_spells (fun slot inside => (sound slot inside).1)
    (fun slot inside => (soundToo slot inside).1) spells, ?_⟩
  exact fun c inside => blanks' c (List.mem_append_right _ inside)

theorem IsList.unique {texts others : List (List Char)} {whole more : List Char}
    (list : IsList texts whole) (also : IsList others (whole ++ more)) :
    texts = others ∧ Blanks more := by
  obtain ⟨formed, after, blanks, encloses⟩ := list
  obtain ⟨formedToo, after', blanks', encloses'⟩ := also
  obtain ⟨same, rfl⟩ := Encloses.unique (.inl rfl) rfl stops_skip
    (fun text inside => (formed text inside).skips)
    (fun text inside => (formedToo text inside).skips) (encloses.append more) encloses'
  exact ⟨same, fun c inside => blanks' c (List.mem_append_right _ inside)⟩

theorem IsObject.blanks {slots : List Slot} {before whole after : List Char} (front : Blanks before)
    (back : Blanks after) (object : IsObject slots whole) :
    IsObject slots (before ++ whole ++ after) := by
  obtain ⟨sound, behind, more, encloses⟩ := object
  exact ⟨sound, behind ++ after, more.append back, (encloses.behind_blanks front).append after⟩

theorem IsList.blanks {texts : List (List Char)} {before whole after : List Char}
    (front : Blanks before) (back : Blanks after) (list : IsList texts whole) :
    IsList texts (before ++ whole ++ after) := by
  obtain ⟨formed, behind, more, encloses⟩ := list
  exact ⟨formed, behind ++ after, more.append back, (encloses.behind_blanks front).append after⟩

theorem IsObject.formed {slots : List Slot} {whole : List Char} (object : IsObject slots whole) :
    Formed whole := by
  obtain ⟨sound, after, back, before, inside, front, rfl, filled⟩ := object
  have core : Formed ('\x7b' :: inside ++ ['\x7d']) := by
    by_cases empty : slots = []
    · subst empty
      exact .noMembers filled
    · rw [if_neg (by simpa using empty)] at filled
      subst filled
      exact .of_slots empty (fun slot inside => (sound slot inside).1)
        fun slot inside => (sound slot inside).2
  simpa using Formed.blanks front back core

theorem IsList.formed {texts : List (List Char)} {whole : List Char} (list : IsList texts whole) :
    Formed whole := by
  obtain ⟨formed, after, back, before, inside, front, rfl, filled⟩ := list
  have core : Formed ('[' :: inside ++ [']']) := by
    by_cases empty : texts = []
    · subst empty
      exact .noItems filled
    · rw [if_neg empty] at filled
      subst filled
      exact .array empty formed
  simpa using Formed.blanks front back core

theorem IsObject.not_isList {slots : List Slot} {texts : List (List Char)} {whole more : List Char}
    (object : IsObject slots whole) : ¬ IsList texts (whole ++ more) := by
  rintro ⟨-, after, -, list⟩
  obtain ⟨-, after', -, object⟩ := object
  exact absurd ((object.append more).opening_eq rfl rfl list) (by decide)

theorem IsList.not_isObject {slots : List Slot} {texts : List (List Char)} {whole more : List Char}
    (list : IsList texts whole) : ¬ IsObject slots (whole ++ more) := by
  rintro ⟨-, after, -, object⟩
  obtain ⟨-, after', -, list⟩ := list
  exact absurd ((list.append more).opening_eq rfl rfl object) (by decide)

/-! ### Records -/

namespace Layout

/-- That only well-formed texts are asked for. -/
structure Sound (layout : Layout α) : Prop where
  field : ∀ clause ∈ layout.clauses, ∀ x text, clause.tells x text → Formed text
  other : ∀ text, layout.other text → Formed text

variable {layout : Layout α} {x y : α} {text : List Char}

theorem Told.sound (sound : layout.Sound) {slots : List Slot} (told : layout.Told x slots) :
    ∀ slot ∈ slots, slot.Sound := by
  intro slot inside
  refine ⟨told.named slot inside, ?_⟩
  by_cases known : slot.name ∈ layout.names
  · obtain ⟨clause, listed, same⟩ := List.mem_map.mp known
    exact sound.field clause listed x _ (told.field clause listed slot inside same.symm)
  · exact sound.other _ (told.other slot inside known)

theorem Listed.formed {clauses : List (Clause α)}
    (sound : ∀ clause ∈ clauses, ∀ x text, clause.tells x text → Formed text)
    {texts : List (List Char)} (listed : Listed x clauses texts) : ∀ text ∈ texts, Formed text := by
  induction listed with
  | short => nofun
  | cons tells _ ih =>
    obtain ⟨first, others⟩ := List.forall_mem_cons.mp sound
    exact List.forall_mem_cons.mpr ⟨first x _ tells, ih others⟩

theorem Members.object (sound : layout.Sound) {inside : List Char}
    (members : layout.Members x inside) :
    ∃ slots, IsObject slots ('\x7b' :: inside ++ ['\x7d']) ∧ layout.Told x slots := by
  have none : Blanks [] := nofun
  rcases members with ⟨blanks, told⟩ | ⟨slots, filled, told, rfl⟩
  · exact ⟨[], ⟨nofun, [], none, [], inside, none, by simp, blanks⟩, told⟩
  · exact ⟨slots, .of_commas filled (told.sound sound) rfl, told⟩

theorem Items.list (sound : layout.Sound) {inside : List Char} (items : layout.Items x inside) :
    ∃ texts, IsList texts ('[' :: inside ++ [']']) ∧ Listed x layout.clauses texts := by
  have none : Blanks [] := nofun
  rcases items with ⟨blanks, listed⟩ | ⟨texts, filled, listed, rfl⟩
  · exact ⟨[], ⟨nofun, [], none, [], inside, none, by simp, blanks⟩, listed⟩
  · exact ⟨texts, ⟨listed.formed sound.field, [], none, [], commas texts, none, by simp,
      (if_neg filled).mpr rfl⟩, listed⟩

theorem Told.renders {slots : List Slot} (told : layout.Told x slots)
    (object : IsObject slots text) : layout.Renders x text := by
  obtain ⟨-, after, back, before, inside, front, rfl, filled⟩ := object
  have members : layout.Members x inside := by
    by_cases empty : slots = []
    · subst empty
      exact .inl ⟨filled, told⟩
    · rw [if_neg (by simpa using empty)] at filled
      exact .inr ⟨slots, empty, told, filled⟩
  simpa using Renders.blanks front back (.object members)

theorem Listed.renders (positional : layout.positional = true) {texts : List (List Char)}
    (listed : Listed x layout.clauses texts) (list : IsList texts text) :
    layout.Renders x text := by
  obtain ⟨-, after, back, before, inside, front, rfl, filled⟩ := list
  have items : layout.Items x inside := by
    by_cases empty : texts = []
    · subst empty
      exact .inl ⟨filled, listed⟩
    · rw [if_neg empty] at filled
      exact .inr ⟨texts, empty, listed, filled⟩
  simpa using Renders.blanks front back (.list positional items)

/-- A record is an object that tells it, or a list that does. -/
theorem renders_iff (sound : layout.Sound) : layout.Renders x text ↔
    (∃ slots, IsObject slots text ∧ layout.Told x slots) ∨
      (layout.positional = true ∧ ∃ texts, IsList texts text ∧ Listed x layout.clauses texts) := by
  constructor
  · intro renders
    induction renders with
    | blanks front back _ ih =>
      rcases ih with ⟨slots, object, told⟩ | ⟨positional, texts, list, listed⟩
      · exact .inl ⟨slots, object.blanks front back, told⟩
      · exact .inr ⟨positional, texts, list.blanks front back, listed⟩
    | object members => exact .inl (members.object sound)
    | list positional items => exact .inr ⟨positional, items.list sound⟩
  · rintro (⟨slots, object, told⟩ | ⟨positional, texts, list, listed⟩)
    · exact told.renders object
    · exact listed.renders positional list

/-- An object tells what its members tell. -/
theorem told_iff_renders (sound : layout.Sound) {slots : List Slot} (object : IsObject slots text) :
    layout.Renders x text ↔ layout.Told x slots := by
  refine ⟨fun renders => ?_, fun told => told.renders object⟩
  have same : text = text ++ [] := (List.append_nil text).symm
  rw [same] at object
  rcases (renders_iff sound).mp renders with ⟨others, also, told⟩ | ⟨-, texts, list, -⟩
  · rw [← (also.unique object).1]
    exact told
  · exact absurd object list.not_isObject

/-- A list tells what its items tell, if a record may be a list. -/
theorem listed_iff_renders (sound : layout.Sound) {texts : List (List Char)}
    (list : IsList texts text) : layout.Renders x text ↔
      layout.positional = true ∧ Listed x layout.clauses texts := by
  refine ⟨fun renders => ?_, fun listed => listed.2.renders listed.1 list⟩
  have same : text = text ++ [] := (List.append_nil text).symm
  rw [same] at list
  rcases (renders_iff sound).mp renders with ⟨slots, object, -⟩ | ⟨positional, others, also, listed⟩
  · exact absurd list object.not_isList
  · rw [← (also.unique list).1]
    exact ⟨positional, listed⟩

/-- Behind a record stand at most blanks. -/
theorem Renders.blanks_behind (sound : layout.Sound) {more : List Char}
    (renders : layout.Renders x text) (longer : layout.Renders y (text ++ more)) : Blanks more := by
  rcases (renders_iff sound).mp renders with ⟨slots, object, -⟩ | ⟨-, texts, list, -⟩ <;>
    rcases (renders_iff sound).mp longer with ⟨slots', object', -⟩ | ⟨-, texts', list', -⟩
  · exact (object.unique object').2
  · exact absurd list' object.not_isList
  · exact absurd object' list.not_isObject
  · exact (list.unique list').2

theorem Renders.formed (sound : layout.Sound) (renders : layout.Renders x text) : Formed text := by
  rcases (renders_iff sound).mp renders with ⟨slots, object, -⟩ | ⟨-, texts, list, -⟩
  · exact object.formed
  · exact list.formed

theorem Listed.tells {clauses : List (Clause α)} {texts : List (List Char)}
    (listed : Listed x clauses texts) {index : Nat} {part : List Char}
    (item : texts[index]? = some part) :
    ∃ clause, clauses[index]? = some clause ∧ clause.tells x part := by
  induction listed generalizing index with
  | short => simp at item
  | @cons clause _ _ _ tells _ ih =>
    cases index with
    | zero =>
      obtain rfl := Option.some.inj item
      exact ⟨clause, rfl, tells⟩
    | succ index => exact ih item

theorem Listed.length_le {clauses : List (Clause α)} {texts : List (List Char)}
    (listed : Listed x clauses texts) : texts.length ≤ clauses.length := by
  induction listed with
  | short => exact Nat.zero_le _
  | cons _ _ ih => exact Nat.succ_le_succ ih

/-- An object has a member of that name with that text. -/
def HasMember (name : String) (part whole : List Char) : Prop :=
  ∃ slots, IsObject slots whole ∧ ∃ slot ∈ slots, slot.name = name ∧ slot.text = part

/-- A list has that text in that place. -/
def HasItem (index : Nat) (part whole : List Char) : Prop :=
  ∃ texts, IsList texts whole ∧ texts[index]? = some part

theorem Listed.tells_of_unusual {clauses : List (Clause α)} {texts : List (List Char)}
    (listed : Listed x clauses texts) {index : Nat} {clause : Clause α}
    (place : clauses[index]? = some clause) (unusual : ¬ clause.usual x) :
    ∃ part, texts[index]? = some part ∧ clause.tells x part := by
  induction listed generalizing index with
  | short usual => exact absurd (usual clause (List.mem_of_getElem? place)) unusual
  | @cons _ _ text _ tells _ ih =>
    cases index with
    | zero =>
      obtain rfl := Option.some.inj place
      exact ⟨text, rfl, tells⟩
    | succ index => exact ih place

/-- What is not as usual in a record has been told. -/
theorem Renders.tells_of_unusual (sound : layout.Sound) (renders : layout.Renders x text)
    {index : Nat} {clause : Clause α} (place : layout.clauses[index]? = some clause)
    (unusual : ¬ clause.usual x) :
    ∃ part, (HasMember clause.name part text ∨ layout.positional = true ∧ HasItem index part text) ∧
      clause.tells x part := by
  have inside := List.mem_of_getElem? place
  rcases (renders_iff sound).mp renders with
    ⟨slots, object, told⟩ | ⟨positional, texts, list, listed⟩
  · have named : clause.name ∈ slots.map (·.name) :=
      Classical.byContradiction fun silent => unusual (told.silent clause inside silent)
    obtain ⟨slot, member, same⟩ := List.mem_map.mp named
    exact ⟨slot.text, .inl ⟨slots, object, slot, member, same, rfl⟩,
      told.field clause inside slot member same⟩
  · obtain ⟨part, item, tells⟩ := listed.tells_of_unusual place unusual
    exact ⟨part, .inr ⟨positional, texts, list, item⟩, tells⟩

/-- The ways in which a text fails to be a record: it is no JSON text, or it breaks off, or more
stands behind it; it is a value of another type; it tells a field twice, or tells something in
its place that no record has there. -/
inductive Spoilt (layout : Layout α) : List Char → Prop where
  | malformed {given} : ¬ Formed given → layout.Spoilt given
  | truncated {x given more} : layout.Renders x (given ++ more) → ¬ Blanks more →
      layout.Spoilt given
  | trailing {x given more} : layout.Renders x given → ¬ Blanks more →
      layout.Spoilt (given ++ more)
  | mistyped {given} : (∀ slots, ¬ IsObject slots given) →
      (layout.positional = true → ∀ texts, ¬ IsList texts given) → layout.Spoilt given
  | duplicate {slots given} : IsObject slots given →
      ¬ ((slots.map (·.name)).filter (· ∈ layout.names)).Nodup → layout.Spoilt given
  | member {slots slot clause given} : IsObject slots given → slot ∈ slots →
      clause ∈ layout.clauses → slot.name = clause.name → (∀ x, ¬ clause.tells x slot.text) →
      layout.Spoilt given
  | item {texts part clause given} {index : Nat} : IsList texts given →
      texts[index]? = some part → layout.clauses[index]? = some clause →
      (∀ x, ¬ clause.tells x part) → layout.Spoilt given
  | surplus {texts given} : IsList texts given → layout.clauses.length < texts.length →
      layout.Spoilt given

/-- What is spoilt is no record. -/
theorem Spoilt.not_renders (sound : layout.Sound) (spoilt : layout.Spoilt text) (x : α) :
    ¬ layout.Renders x text := by
  intro renders
  cases spoilt with
  | malformed bad => exact bad (renders.formed sound)
  | truncated whole shown => exact shown (renders.blanks_behind sound whole)
  | trailing part shown => exact shown (part.blanks_behind sound renders)
  | mistyped noObject noList =>
    rcases (renders_iff sound).mp renders with ⟨slots, object, -⟩ | ⟨positional, texts, list, -⟩
    · exact noObject slots object
    · exact noList positional texts list
  | duplicate object twice => exact twice ((told_iff_renders sound object).mp renders).once
  | member object inside listed same never =>
    exact never x (((told_iff_renders sound object).mp renders).field _ listed _ inside same)
  | item list inside listed never =>
    obtain ⟨clause, found, tells⟩ := ((listed_iff_renders sound list).mp renders).2.tells inside
    cases listed.symm.trans found
    exact never x tells
  | surplus list long =>
    exact absurd ((listed_iff_renders sound list).mp renders).2.length_le (by omega)

end Layout

end PresenceSeal.Json
