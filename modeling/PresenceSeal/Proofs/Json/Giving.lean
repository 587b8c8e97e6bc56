import Mathlib.Data.List.Forall2
import PresenceSeal.Proofs.Json.Parting

/-! Documents that give some of the fields of a record and leave out the others. What they give
does not depend on the order of their members, nor on members that are no fields: a document that
is written anew, with the same members for the fields, gives the same. -/
namespace PresenceSeal.Json

/-- What a document has for a field: the texts that give it, if it is given at all. -/
structure Offer where
  name : String
  tells? : Option (List Char → Prop)

/-- The names of the fields, whether they are given or not. -/
def Offer.names (offers : List Offer) : List String := offers.map (·.name)

/-- Members that give these offers, each once and no other field. -/
structure Gives (offers : List Offer) (other : List Char → Prop) (slots : List Slot) : Prop where
  named : ∀ slot ∈ slots, slot.Named
  once : ((slots.map (·.name)).filter (· ∈ Offer.names offers)).Nodup
  present_iff : ∀ offer ∈ offers, offer.tells?.isSome ↔ offer.name ∈ slots.map (·.name)
  valid : ∀ offer ∈ offers, ∀ tells, offer.tells? = some tells →
    ∀ slot ∈ slots, slot.name = offer.name → tells slot.text
  other : ∀ slot ∈ slots, slot.name ∉ Offer.names offers → other slot.text

/-- Items that give the first of these offers, one by one, and no other field. -/
inductive Starts : List Offer → List (List Char) → Prop where
  | stop {offers} : (∀ offer ∈ offers, offer.tells? = none) → Starts offers []
  | next {name tells offers text texts} : tells text → Starts offers texts →
      Starts (⟨name, some tells⟩ :: offers) (text :: texts)

/-- An object that gives these offers. -/
def ObjectGives (offers : List Offer) (other : List Char → Prop) (text : List Char) : Prop :=
  ∃ slots, IsObject slots text ∧ Gives offers other slots

/-- A list that gives these offers. -/
def ListGives (offers : List Offer) (text : List Char) : Prop :=
  ∃ texts, IsList texts text ∧ Starts offers texts

theorem map_eq_of_forall₂ {R : α → β → Prop} {f : α → γ} {g : β → γ} {xs : List α} {ys : List β}
    (related : List.Forall₂ R xs ys) (same : ∀ x y, R x y → f x = g y) : xs.map f = ys.map g := by
  have equal : List.Forall₂ (· = ·) (xs.map f) (ys.map g) :=
    List.forall₂_map_left_iff.mpr (List.forall₂_map_right_iff.mpr (related.imp same))
  rwa [List.forall₂_eq_eq_eq] at equal

theorem exists_of_forall₂ {R : α → β → Prop} {xs : List α} {ys : List β}
    (related : List.Forall₂ R xs ys) {x : α} (inside : x ∈ xs) : ∃ y ∈ ys, R x y := by
  induction related with
  | nil => cases inside
  | cons first _ ih =>
    rcases List.mem_cons.mp inside with rfl | later
    · exact ⟨_, List.mem_cons_self, first⟩
    · obtain ⟨y, listed, here⟩ := ih later
      exact ⟨y, List.mem_cons_of_mem _ listed, here⟩

/-! ### Records -/

section

variable {offers : List Offer} {slots : List Slot} {text : List Char} {layout : Layout α} {x : α}

/-- That a record has in a field what is given there, or is as usual if nothing is. -/
structure Clause.Meets (x : α) (clause : Clause α) (offer : Offer) : Prop where
  name : clause.name = offer.name
  told : ∀ tells, offer.tells? = some tells → ∀ text, tells text → clause.tells x text
  usual : offer.tells? = none → clause.usual x

/-- What has been given comes over what is usual. -/
theorem Clause.Meets.of_upon {name : String} {lang : β → List Char → Prop}
    {tells : γ → List Char → Prop} {get : α → γ} {usual : γ} {given : Option β} (upon : β → γ)
    (told : ∀ v text, lang v text → tells (upon v) text)
    (has : get x = (given.map upon).getD usual) :
    Clause.Meets x ⟨name, fun x => tells (get x), fun x => get x = usual⟩
      ⟨name, given.map lang⟩ where
  name := rfl
  told := by
    cases given with
    | none => nofun
    | some v =>
      intro _ same text here
      cases same
      change tells (get x) text
      rw [has]
      exact told v text here
  usual := by
    cases given with
    | none => exact fun _ => has
    | some v => nofun

theorem Clause.Meets.of_given {name : String} {usual : β} {given : Option β} (get : α → β)
    (lang : β → List Char → Prop) (has : get x = given.getD usual) :
    Clause.Meets x ⟨name, fun x => lang (get x), fun x => get x = usual⟩ ⟨name, given.map lang⟩ :=
  .of_upon id (fun _ _ told => told) (by rwa [Option.map_id])

/-- A record that has what is given in every field, field by field. -/
def Layout.Meets (layout : Layout α) (x : α) (offers : List Offer) : Prop :=
  List.Forall₂ (Clause.Meets x) layout.clauses offers

theorem Layout.Meets.names (meets : layout.Meets x offers) : layout.names = Offer.names offers :=
  map_eq_of_forall₂ meets fun _ _ meets => meets.name

/-- Members tell the record that has what they give. -/
theorem Gives.told (gives : Gives offers layout.other slots) (meets : layout.Meets x offers) :
    layout.Told x slots where
  named := gives.named
  field clause inside slot member same := by
    obtain ⟨offer, listed, meets⟩ := exists_of_forall₂ meets inside
    have here : offer.name ∈ slots.map (·.name) :=
      List.mem_map.mpr ⟨slot, member, same.trans meets.name⟩
    obtain ⟨tells, given⟩ := Option.isSome_iff_exists.mp ((gives.present_iff offer listed).mpr here)
    exact meets.told tells given _
      (gives.valid offer listed tells given slot member (same.trans meets.name))
  other := by
    rw [meets.names]
    exact gives.other
  once := by
    rw [meets.names]
    exact gives.once
  silent clause inside silent := by
    obtain ⟨offer, listed, meets⟩ := exists_of_forall₂ meets inside
    rw [meets.name, ← gives.present_iff offer listed] at silent
    exact meets.usual (Option.not_isSome_iff_eq_none.mp silent)

theorem Starts.listed {clauses : List (Clause α)} {texts : List (List Char)}
    (starts : Starts offers texts) (meets : List.Forall₂ (Clause.Meets x) clauses offers) :
    Layout.Listed x clauses texts := by
  induction starts generalizing clauses with
  | @stop offers absent =>
    refine .short ?_
    induction meets with
    | nil => nofun
    | cons meets _ ih =>
      obtain ⟨first, others⟩ := List.forall_mem_cons.mp absent
      exact List.forall_mem_cons.mpr ⟨meets.usual first, ih others⟩
  | next told _ ih =>
    cases meets with
    | cons first others => exact .cons (first.told _ rfl _ told) (ih others)

theorem ObjectGives.renders (gives : ObjectGives offers layout.other text)
    (meets : layout.Meets x offers) : layout.Renders x text := by
  obtain ⟨slots, object, gives⟩ := gives
  exact (gives.told meets).renders object

theorem ListGives.renders (gives : ListGives offers text) (positional : layout.positional = true)
    (meets : layout.Meets x offers) : layout.Renders x text := by
  obtain ⟨texts, list, starts⟩ := gives
  exact (starts.listed meets).renders positional list

end

/-! ### Writing anew -/

/-- Members that are written anew: the fields among them are in some order the fields that were
there, with texts that are the same; what is no field has come, gone or changed. -/
structure Anew (names : List String) (other : List Char → Prop)
    (same : String → List Char → List Char → Prop) (slots slots' : List Slot) : Prop where
  named : ∀ slot ∈ slots', slot.Named
  other : ∀ slot ∈ slots', slot.name ∉ names → other slot.text
  known : ∃ ordered, (slots.filter (·.name ∈ names)).Perm ordered ∧
    List.Forall₂ (fun old new => new.name = old.name ∧ same old.name old.text new.text)
      ordered (slots'.filter (·.name ∈ names))

/-- An object that is written anew. -/
def ObjectAnew (names : List String) (other : List Char → Prop)
    (same : String → List Char → List Char → Prop) (text text' : List Char) : Prop :=
  ∃ slots slots', IsObject slots text ∧ IsObject slots' text' ∧ Anew names other same slots slots'

section

variable {names : List String} {offers : List Offer} {other : List Char → Prop}
  {same : String → List Char → List Char → Prop} {slots slots' : List Slot} {text text' : List Char}

theorem filter_map_names (names : List String) (slots : List Slot) :
    (slots.map (·.name)).filter (· ∈ names) = (slots.filter (·.name ∈ names)).map (·.name) := by
  rw [List.filter_map]
  rfl

/-- A new order is a new writing, and so is whatever comes and goes without being a field. -/
theorem Anew.of_perm (same_refl : ∀ name text, same name text text)
    (named : ∀ slot ∈ slots', slot.Named)
    (others : ∀ slot ∈ slots', slot.name ∉ names → other slot.text)
    (perm : (slots.filter (·.name ∈ names)).Perm (slots'.filter (·.name ∈ names))) :
    Anew names other same slots slots' where
  named := named
  other := others
  known := ⟨_, perm, List.forall₂_same.mpr fun slot _ => ⟨rfl, same_refl slot.name slot.text⟩⟩

/-- The names of the fields stay the same, but for their order. -/
theorem Anew.perm (anew : Anew names other same slots slots') :
    ((slots.map (·.name)).filter (· ∈ names)).Perm ((slots'.map (·.name)).filter (· ∈ names)) := by
  obtain ⟨ordered, perm, alike⟩ := anew.known
  have kept : ordered.map (·.name) = (slots'.filter (·.name ∈ names)).map (·.name) :=
    map_eq_of_forall₂ alike fun _ _ same => same.1.symm
  rw [filter_map_names, filter_map_names, ← kept]
  exact perm.map _

theorem Anew.mem_iff (anew : Anew names other same slots slots') {name : String}
    (known : name ∈ names) : name ∈ slots.map (·.name) ↔ name ∈ slots'.map (·.name) := by
  have listed := anew.perm.mem_iff (a := name)
  simpa [List.mem_filter, known] using listed

/-- Every field was there before, with a text that is the same. -/
theorem Anew.exists_old (anew : Anew names other same slots slots') {new : Slot}
    (inside : new ∈ slots') (known : new.name ∈ names) :
    ∃ old ∈ slots, new.name = old.name ∧ same old.name old.text new.text := by
  obtain ⟨ordered, perm, alike⟩ := anew.known
  have among : new ∈ slots'.filter (·.name ∈ names) :=
    List.mem_filter.mpr ⟨inside, decide_eq_true known⟩
  obtain ⟨old, listed, kept⟩ := exists_of_forall₂ alike.flip among
  exact ⟨old, List.mem_of_mem_filter (perm.mem_iff.mpr listed), kept⟩

/-- That texts which are the same give the same to a field. -/
def Offer.Closed (same : String → List Char → List Char → Prop) (offer : Offer) : Prop :=
  ∀ tells, offer.tells? = some tells →
    ∀ text text', tells text → same offer.name text text' → tells text'

theorem Offer.Closed.of_map {name : String} {given : Option β} {lang : β → List Char → Prop}
    (closed : ∀ v text text', lang v text → same name text text' → lang v text') :
    Closed same ⟨name, given.map lang⟩ := by
  intro tells told
  obtain ⟨v, -, rfl⟩ := Option.map_eq_some_iff.mp told
  exact closed v

/-- What is given stays the same, if the texts that are the same give the same. -/
theorem Gives.anew (gives : Gives offers other slots)
    (anew : Anew (Offer.names offers) other same slots slots')
    (closed : ∀ offer ∈ offers, offer.Closed same) :
    Gives offers other slots' where
  named := anew.named
  once := anew.perm.nodup_iff.mp gives.once
  present_iff offer listed := by
    rw [gives.present_iff offer listed]
    exact anew.mem_iff (List.mem_map_of_mem listed)
  valid offer listed tells given slot inside named := by
    have known : slot.name ∈ Offer.names offers := named ▸ List.mem_map_of_mem listed
    obtain ⟨old, before, kept, alike⟩ := anew.exists_old inside known
    have told := gives.valid offer listed tells given old before (kept.symm.trans named)
    exact closed offer listed tells given _ _ told (kept.symm.trans named ▸ alike)
  other := anew.other

theorem ObjectGives.anew (gives : ObjectGives offers other text)
    (anew : ObjectAnew (Offer.names offers) other same text text')
    (closed : ∀ offer ∈ offers, offer.Closed same) :
    ObjectGives offers other text' := by
  obtain ⟨slots, object, gives⟩ := gives
  obtain ⟨olds, news, before, after, anew⟩ := anew
  have whole : text = text ++ [] := (List.append_nil text).symm
  obtain ⟨rfl, -⟩ := object.unique (whole ▸ before)
  exact ⟨news, after, gives.anew anew closed⟩

theorem ListGives.not_anew (gives : ListGives offers text) :
    ¬ObjectAnew names other same text text' := by
  obtain ⟨texts, list, -⟩ := gives
  rintro ⟨olds, news, before, -⟩
  have whole : text = text ++ [] := (List.append_nil text).symm
  exact list.not_isObject (whole ▸ before)

end

end PresenceSeal.Json
