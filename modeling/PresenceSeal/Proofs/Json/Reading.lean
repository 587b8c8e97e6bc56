import PresenceSeal.Proofs.Json.Grammar
import PresenceSeal.Proofs.Json.Members
import PresenceSeal.Proofs.Json.Reader
import PresenceSeal.Proofs.Text.Utf16

/-! However a value is written, it is read. A reader takes the text of a value off the front
of what is given to it, and may leave blanks that stood behind; so two texts count as the same
here if they are the same behind their blanks. -/
namespace PresenceSeal.Json

/-! ### Blanks -/

theorem Blanks.isSpace {text : List Char} (blanks : Blanks text) :
    ∀ c ∈ text, Json.isSpace c = true := by
  intro c member
  rcases blanks c member with rfl | rfl | rfl | rfl <;> rfl

theorem Blanks.skip {text : List Char} (blanks : Blanks text) (rest : List Char) :
    skipSpace (text ++ rest) = skipSpace rest := by
  rw [skipSpace, List.dropWhile_append_of_pos blanks.isSpace]
  rfl

theorem skipSpace_skipSpace (text : List Char) : skipSpace (skipSpace text) = skipSpace text := by
  induction text with
  | nil => rfl
  | cons c text ih =>
    cases blank : isSpace c with
    | true =>
      have skipped : skipSpace (c :: text) = skipSpace text := by
        rw [skipSpace, List.dropWhile_cons, blank]
        rfl
      rw [skipped, ih]
    | false => rw [skipSpace_cons blank, skipSpace_cons blank]

theorem Blanks.ends {text : List Char} (blanks : Blanks text) {rest : List Char}
    (ends : Numeral.Ends rest) : Numeral.Ends (text ++ rest) := by
  cases text with
  | nil => exact ends
  | cons c text =>
    apply ends_of_head
    rcases blanks c List.mem_cons_self with rfl | rfl | rfl | rfl <;> decide

/-- A reader takes a text off whatever it is given behind blanks, and reads `x`. -/
def Takes (reader : Reader α) (x : α) (text : List Char) : Prop :=
  ∀ given rest, Numeral.Ends rest → skipSpace given = skipSpace (text ++ rest) →
    ∃ left, reader given = .ok (x, left) ∧ skipSpace left = skipSpace rest

/-- A reader that does not look at the blanks in front. -/
def Blind (reader : Reader α) : Prop :=
  ∀ given other, skipSpace given = skipSpace other → reader given = reader other

theorem Takes.of_exact {reader : Reader α} {x : α} {text : List Char} (blind : Blind reader)
    (exact : ∀ rest, Numeral.Ends rest → reader (text ++ rest) = .ok (x, rest)) :
    Takes reader x text := by
  intro given rest ends same
  exact ⟨rest, (blind given _ same).trans (exact rest ends), rfl⟩

theorem Takes.blanks {reader : Reader α} {x : α} {before text after : List Char}
    (front : Blanks before) (back : Blanks after) (takes : Takes reader x text) :
    Takes reader x (before ++ text ++ after) := by
  intro given rest ends same
  rw [List.append_assoc, List.append_assoc, front.skip] at same
  obtain ⟨left, read, remains⟩ := takes given (after ++ rest) (back.ends ends) same
  exact ⟨left, read, remains.trans (back.skip rest)⟩

theorem blind_value (depth : Nat) : Blind (Reader.value depth) := by
  intro given other same
  unfold Reader.value
  rw [same]

/-! ### Strings -/

theorem hexValue?_hexDigit : ∀ n < 16, Scan.hexValue? (hexDigit n) = some n := by decide

theorem hexValue?_upperHexDigit : ∀ n < 16, Scan.hexValue? (Text.upperHexDigit n) = some n := by
  decide

theorem Hex.value {c : Char} {n : Nat} (hex : Hex c n) : Scan.hexValue? c = some n := by
  obtain ⟨small, rfl | rfl⟩ := hex
  · exact hexValue?_hexDigit n small
  · exact hexValue?_upperHexDigit n small

theorem Quad.hex4 {digits : List Char} {unit : Nat} (quad : Quad digits unit) (rest : List Char) :
    Scan.hex4 (digits ++ rest) = .ok (unit, rest) := by
  obtain ⟨a, b, c, d, rfl, first, second, third, fourth⟩ := quad
  simp only [List.cons_append, List.nil_append, Scan.hex4, first.value, second.value, third.value,
    fourth.value]
  have whole : ((unit / 0x1000 * 16 + unit / 0x100 % 0x10) * 16 + unit / 0x10 % 0x10) * 16 +
      unit % 0x10 = unit := by
    omega
  rw [whole]

theorem Quad.lt {digits : List Char} {unit : Nat} (quad : Quad digits unit) : unit < 0x10000 := by
  obtain ⟨a, b, c, d, -, ⟨small, -⟩, -⟩ := quad
  omega

theorem escape_short {c letter : Char} (listed : (c, letter) ∈ shortEscapes) (rest : List Char) :
    Scan.escape (letter :: rest) = .ok (c, rest) := by
  have all : ∀ pair ∈ shortEscapes, ∀ rest, Scan.escape (pair.2 :: rest) = .ok (pair.1, rest) := by
    simp only [shortEscapes, List.forall_mem_cons, List.not_mem_nil, false_implies, implies_true,
      and_true]
    exact ⟨fun _ => rfl, fun _ => rfl, fun _ => rfl, fun _ => rfl, fun _ => rfl, fun _ => rfl,
      fun _ => rfl, fun _ => rfl⟩
  exact all (c, letter) listed rest

section Units

open Text.Utf16

theorem escape_unit {c : Char} {digits : List Char} (small : c.toNat < 0x10000)
    (quad : Quad digits c.toNat) (rest : List Char) :
    Scan.escape ('u' :: (digits ++ rest)) = .ok (c, rest) := by
  have bounds := toNat_bounds c
  have number := toNat_ofNat small
  have high : isHighSurrogate (UInt16.ofNat c.toNat) = false := by
    rw [Bool.eq_false_iff, ne_eq, isHighSurrogate_iff, number]
    omega
  have low : isLowSurrogate (UInt16.ofNat c.toNat) = false := by
    rw [Bool.eq_false_iff, ne_eq, isLowSurrogate_iff, number]
    omega
  simp only [Scan.escape, quad.hex4, high, low, Bool.false_eq_true, ↓reduceIte, Char.ofNat_toNat]

/-- The two halves of a pair are the code units of the character. -/
theorem escape_pair {c : Char} {first second : List Char} (large : 0x10000 ≤ c.toNat)
    (upper : Quad first (0xD800 + (c.toNat - 0x10000) / 0x400))
    (lower : Quad second (0xDC00 + (c.toNat - 0x10000) % 0x400)) (rest : List Char) :
    Scan.escape ('u' :: (first ++ '\\' :: 'u' :: (second ++ rest))) = .ok (c, rest) := by
  have bounds := toNat_bounds c
  have upperNumber := toNat_ofNat upper.lt
  have lowerNumber := toNat_ofNat lower.lt
  have high := isHighSurrogate_iff.mpr (show _ ∧ _ by rw [upperNumber]; omega)
  have notLow : isLowSurrogate (UInt16.ofNat (0xD800 + (c.toNat - 0x10000) / 0x400)) = false := by
    rw [Bool.eq_false_iff, ne_eq, isLowSurrogate_iff, upperNumber]
    omega
  have low := isLowSurrogate_iff.mpr (show _ ∧ _ by rw [lowerNumber]; omega)
  have whole : 0x10000 + (0xD800 + (c.toNat - 0x10000) / 0x400 - 0xD800) * 0x400 +
      (0xDC00 + (c.toNat - 0x10000) % 0x400 - 0xDC00) = c.toNat := by
    omega
  simp only [Scan.escape, Scan.lowHalf, upper.hex4, lower.hex4, high, notLow, low,
    Bool.false_eq_true, ↓reduceIte, joined, upperNumber, lowerNumber, whole, Char.ofNat_toNat]

end Units

theorem stringSteps_escaped {c : Char} {given rest : List Char}
    (escaped : Scan.escape given = .ok (c, rest)) (fuel : Nat) :
    Scan.stringSteps (fuel + 1) ('\\' :: given) =
      (Scan.stringSteps fuel rest).map fun (text, rest) => (c :: text, rest) := by
  rw [Scan.stringSteps, if_neg (by decide), if_pos rfl, escaped]

/-- However a character is written, it is read in one step. -/
theorem Spells.stringSteps {c : Char} {piece : List Char} (spells : Spells c piece) (fuel : Nat)
    (rest : List Char) :
    Scan.stringSteps (fuel + 1) (piece ++ rest) =
      (Scan.stringSteps fuel rest).map fun (text, rest) => (c :: text, rest) := by
  cases spells with
  | bare bare =>
    obtain ⟨visible, quotation, backslash⟩ := bare
    rw [List.singleton_append, Scan.stringSteps, if_neg quotation, if_neg backslash,
      if_neg (Nat.not_lt.mpr visible)]
  | short listed => exact stringSteps_escaped (escape_short listed rest) fuel
  | unit small quad => exact stringSteps_escaped (escape_unit small quad rest) fuel
  | pair large upper lower =>
    simp only [List.cons_append, List.append_assoc]
    exact stringSteps_escaped (escape_pair large upper lower rest) fuel

theorem Spells.ne_nil {c : Char} {piece : List Char} (spells : Spells c piece) : piece ≠ [] := by
  cases spells <;> exact List.cons_ne_nil _ _

theorem Spelled.stringSteps {text body : List Char} (spelled : Spelled text body)
    (rest : List Char) {fuel : Nat} (enough : text.length < fuel) :
    Scan.stringSteps fuel (body ++ '"' :: rest) = .ok (text, rest) := by
  induction spelled generalizing fuel with
  | nil =>
    cases fuel with
    | zero => omega
    | succ fuel => rfl
  | cons spells spelled ih =>
    cases fuel with
    | zero => omega
    | succ fuel =>
      rw [List.length_cons] at enough
      rw [List.append_assoc, spells.stringSteps, ih (by omega)]
      rfl

theorem Spelled.length_le {text body : List Char} (spelled : Spelled text body) :
    text.length ≤ body.length := by
  induction spelled with
  | nil => exact le_rfl
  | cons spells spelled ih =>
    have filled := List.length_pos_of_ne_nil spells.ne_nil
    rw [List.length_cons, List.length_append]
    omega

theorem Spelled.stringBody {text : String} {body : List Char} (spelled : Spelled text.toList body)
    (rest : List Char) : Json.stringBody (body ++ '"' :: rest) = .ok (text, rest) := by
  have longer := spelled.length_le
  have enough : text.toList.length < (body ++ '"' :: rest).length + 1 := by
    rw [List.length_append, List.length_cons]
    omega
  rw [Json.stringBody, spelled.stringSteps rest enough]
  simp only [Except.map, String.ofList_toList]

/-! ### Lists -/

theorem enclosed (opening closing : Char) (inside rest : List Char) :
    (opening :: inside ++ [closing]) ++ rest = opening :: (inside ++ closing :: rest) := by
  simp

/-- A text that is more than blanks, and does not close a list. -/
def Opens (text : List Char) : Prop := Begins (skipSpace text)

theorem Opens.skip {text : List Char} (opens : Opens text) (rest : List Char) :
    skipSpace (text ++ rest) = skipSpace text ++ rest := by
  obtain ⟨c, more, begun, -⟩ := opens
  rw [skipSpace] at begun
  rw [skipSpace, List.dropWhile_append, begun]
  rw [List.isEmpty_cons, if_neg Bool.false_ne_true, skipSpace, begun]

theorem Opens.append {text : List Char} (opens : Opens text) (rest : List Char) :
    Opens (text ++ rest) := by
  rw [Opens, opens.skip]
  exact Begins.append opens rest

theorem Opens.blanks {before text after : List Char} (front : Blanks before) (opens : Opens text) :
    Opens (before ++ text ++ after) := by
  rw [Opens, List.append_assoc, front.skip]
  exact opens.append after

theorem Opens.of_begins {text : List Char} (begins : Begins text) : Opens text := by
  obtain ⟨c, more, rfl, visible, opened⟩ := begins
  exact ⟨c, more, skipSpace_cons visible more, visible, opened⟩

theorem Writes.opens {j : Json} {text : List Char} (writes : Writes j text) : Opens text := by
  induction writes with
  | blanks front _ _ ih => exact .blanks front ih
  | integer value => exact .of_begins (begins_render (.int value))
  | _ => exact .of_begins ⟨_, _, rfl, rfl, by decide⟩

/-- The texts of a list behind its first item, and the bracket. -/
theorem ends_commas (texts : List (List Char)) {close : Char}
    (closes : close = ']' ∨ close = '\x7d') (rest : List Char) :
    Numeral.Ends (texts.flatMap (',' :: ·) ++ close :: rest) := by
  cases texts with
  | nil => rcases closes with rfl | rfl <;> exact ends_of_head (by decide)
  | cons text texts => exact ends_of_head (by decide)

theorem skipSpace_commas (texts : List (List Char)) {close : Char}
    (closes : close = ']' ∨ close = '\x7d') (rest : List Char) :
    skipSpace (texts.flatMap (',' :: ·) ++ close :: rest) =
      texts.flatMap (',' :: ·) ++ close :: rest := by
  cases texts with
  | nil => rcases closes with rfl | rfl <;> exact skipSpace_cons rfl _
  | cons text texts => exact skipSpace_cons rfl _

theorem anotherItem_opens {text given : List Char} (opens : Opens text)
    (same : skipSpace given = skipSpace text) :
    Reader.anotherItem true given = .ok (true, skipSpace text) := by
  obtain ⟨c, more, begun, visible, opened⟩ := opens
  simp only [Reader.anotherItem, same, begun, ↓reduceIte]

theorem anotherItem_behind {text given : List Char} (opens : Opens text)
    (same : skipSpace given = ',' :: text) :
    Reader.anotherItem false given = .ok (true, skipSpace text) := by
  obtain ⟨c, more, begun, visible, opened⟩ := opens
  rw [Reader.anotherItem, same]
  split
  · contradiction
  · rename_i bracket
    exact absurd (List.cons.inj bracket).1 (by decide)
  · rename_i comma
    obtain ⟨rfl, rfl⟩ := List.cons.inj comma
    rw [if_neg Bool.false_ne_true, if_pos rfl, begun]
    split
    · contradiction
    · rename_i bracket
      exact absurd (List.cons.inj bracket).1 opened
    · rfl

/-- What is given inside a container: texts with a comma in front of each, but for the very first
of all, and the closing character. -/
def Stands (first : Bool) (texts : List (List Char)) (close : Char) (rest given : List Char) :
    Prop :=
  skipSpace given =
    skipSpace ((if first then commas texts else texts.flatMap (',' :: ·)) ++ close :: rest)

section

variable {first : Bool} {text : List Char} {texts : List (List Char)} {close : Char}
  {rest given : List Char}

theorem Stands.closed (stands : Stands first [] close rest given)
    (closes : close = ']' ∨ close = '\x7d') : skipSpace given = close :: rest := by
  have none : (if first then commas [] else ([] : List (List Char)).flatMap (',' :: ·)) = [] := by
    cases first <;> rfl
  rw [Stands, none] at stands
  rw [stands]
  rcases closes with rfl | rfl <;> exact skipSpace_cons rfl rest

theorem Stands.inFront (stands : Stands true (text :: texts) close rest given) :
    skipSpace given = skipSpace (text ++ (texts.flatMap (',' :: ·) ++ close :: rest)) := by
  rw [Stands, if_pos rfl, commas, List.append_assoc] at stands
  exact stands

theorem Stands.behind (stands : Stands false (text :: texts) close rest given) :
    skipSpace given = ',' :: (text ++ (texts.flatMap (',' :: ·) ++ close :: rest)) := by
  rw [Stands, if_neg Bool.false_ne_true, List.flatMap_cons, List.cons_append, List.cons_append,
    skipSpace_cons rfl, List.append_assoc] at stands
  exact stands

/-- Behind a text that has been taken off stand the others. -/
theorem Takes.stands {reader : Reader α} {x : α} (takes : Takes reader x text)
    (closes : close = ']' ∨ close = '\x7d')
    (same : skipSpace given = skipSpace (text ++ (texts.flatMap (',' :: ·) ++ close :: rest))) :
    ∃ left, reader given = .ok (x, left) ∧ Stands false texts close rest left :=
  takes given _ (ends_commas texts closes rest) same

theorem Stands.anotherItem (stands : Stands first (text :: texts) ']' rest given)
    (opens : Opens text) : Reader.anotherItem first given =
      .ok (true, skipSpace (text ++ (texts.flatMap (',' :: ·) ++ ']' :: rest))) := by
  cases first with
  | true => exact anotherItem_opens (opens.append _) stands.inFront
  | false => exact anotherItem_behind (opens.append _) stands.behind

theorem Stands.noItem (stands : Stands first [] ']' rest given) :
    Reader.anotherItem first given = .ok (false, ']' :: rest) := by
  rw [Reader.anotherItem, stands.closed (.inl rfl)]
  rfl

theorem length_le_flatMap (texts : List (List Char)) :
    texts.length ≤ (texts.flatMap (',' :: ·)).length := by
  induction texts with
  | nil => exact le_rfl
  | cons text texts ih =>
    rw [List.flatMap_cons, List.length_append, List.length_cons, List.length_cons]
    omega

theorem length_lt_commas (texts : List (List Char)) (close : Char) (rest : List Char) :
    texts.length < (commas texts ++ close :: rest).length + 1 := by
  cases texts with
  | nil => exact Nat.succ_pos _
  | cons text texts =>
    have longer := length_le_flatMap texts
    rw [commas, List.length_append, List.length_append, List.length_cons, List.length_cons]
    omega

variable {item : Reader α} {pieces : List (α × List Char)}

theorem Stands.itemSteps (takes : ∀ piece ∈ pieces, Takes item piece.1 piece.2)
    (opens : ∀ piece ∈ pieces, Opens piece.2)
    (stands : Stands first (pieces.map (·.2)) ']' rest given) {fuel : Nat}
    (enough : pieces.length < fuel) :
    Reader.itemSteps item fuel first given = .ok (pieces.map (·.1), ']' :: rest) := by
  induction pieces generalizing fuel first given with
  | nil =>
    cases fuel with
    | zero => omega
    | succ fuel =>
      rw [Reader.itemSteps, bind_of_ok stands.noItem]
      rfl
  | cons piece pieces ih =>
    cases fuel with
    | zero => omega
    | succ fuel =>
      rw [List.length_cons] at enough
      obtain ⟨one, others⟩ := List.forall_mem_cons.mp takes
      obtain ⟨opened, openeds⟩ := List.forall_mem_cons.mp opens
      obtain ⟨left, read, remains⟩ := one.stands (.inl rfl) (skipSpace_skipSpace _)
      have reads := ih others openeds remains (show pieces.length < fuel by omega)
      rw [Reader.itemSteps, bind_of_ok (stands.anotherItem opened), if_pos rfl, bind_of_ok read,
        bind_of_ok reads]
      rfl

/-- The items of a list are read, however each of them is written. -/
theorem Stands.items (takes : ∀ piece ∈ pieces, Takes item piece.1 piece.2)
    (opens : ∀ piece ∈ pieces, Opens piece.2)
    (stands : Stands true (pieces.map (·.2)) ']' rest given)
    (enough : pieces.length < given.length + 1) :
    Reader.items item given = .ok (pieces.map (·.1), rest) := by
  have closed (xs : List α) : (do Reader.closeList; pure xs : Reader (List α)) (']' :: rest) =
      .ok (xs, rest) := rfl
  rw [Reader.items, bind_of_ok (f := get) rfl,
    bind_of_ok (stands.itemSteps takes opens enough), closed]

theorem items_commas (takes : ∀ piece ∈ pieces, Takes item piece.1 piece.2)
    (opens : ∀ piece ∈ pieces, Opens piece.2) (rest : List Char) :
    Reader.items item (commas (pieces.map (·.2)) ++ ']' :: rest) =
      .ok (pieces.map (·.1), rest) := by
  have enough := length_lt_commas (pieces.map (·.2)) ']' rest
  rw [List.length_map] at enough
  exact Stands.items takes opens rfl enough

end

/-! ### Objects -/

/-- Behind its blanks a name begins with a quotation mark. -/
theorem Slot.Named.skip {slot : Slot} (named : slot.Named) (rest : List Char) :
    ∃ inside left, skipSpace (slot.key ++ rest) = '"' :: inside ∧
      stringBody inside = .ok (slot.name, left) ∧ skipSpace left = skipSpace rest := by
  obtain ⟨body, spelled, before, after, front, back, key⟩ := named
  refine ⟨body ++ '"' :: (after ++ rest), after ++ rest, ?_, spelled.stringBody _, back.skip rest⟩
  rw [key]
  simp only [List.append_assoc, List.cons_append]
  rw [front.skip, skipSpace_cons rfl]

theorem Slot.Named.anotherKey_first {slot : Slot} (named : slot.Named) {given rest : List Char}
    (same : skipSpace given = skipSpace (slot.key ++ rest)) :
    ∃ left, Reader.anotherKey true given = .ok (some slot.name, left) ∧
      skipSpace left = skipSpace rest := by
  obtain ⟨inside, left, begun, read, remains⟩ := named.skip rest
  refine ⟨left, ?_, remains⟩
  rw [Reader.anotherKey, same, begun]
  change (stringBody inside >>= fun p => Except.ok (some p.1, p.2)) = _
  rw [read]
  rfl

theorem Slot.Named.anotherKey_behind {slot : Slot} (named : slot.Named) {given rest : List Char}
    (same : skipSpace given = ',' :: (slot.key ++ rest)) :
    ∃ left, Reader.anotherKey false given = .ok (some slot.name, left) ∧
      skipSpace left = skipSpace rest := by
  obtain ⟨inside, left, begun, read, remains⟩ := named.skip rest
  refine ⟨left, ?_, remains⟩
  rw [Reader.anotherKey, same]
  change (Reader.openKey (skipSpace (slot.key ++ rest)) >>= fun inside =>
    stringBody inside >>= fun p => Except.ok (some p.1, p.2)) = _
  rw [begun]
  change (stringBody inside >>= fun p => Except.ok (some p.1, p.2)) = _
  rw [read]
  rfl

theorem Slot.Named.anotherKey {slot : Slot} (named : slot.Named) {first : Bool}
    {texts : List (List Char)} {rest given : List Char}
    (stands : Stands first (slot.spell :: texts) '\x7d' rest given) :
    ∃ left, Reader.anotherKey first given = .ok (some slot.name, left) ∧
      skipSpace left =
        skipSpace (':' :: slot.text ++ (texts.flatMap (',' :: ·) ++ '\x7d' :: rest)) := by
  cases first with
  | true =>
    have same := stands.inFront
    rw [Slot.spell, List.append_assoc] at same
    exact named.anotherKey_first same
  | false =>
    have same := stands.behind
    rw [Slot.spell, List.append_assoc] at same
    exact named.anotherKey_behind same

/-- The members of an object are gathered one after another, however they are written. -/
inductive Gathers (member : σ → String → Reader σ) : σ → List Slot → σ → Prop where
  | nil {gathered} : Gathers member gathered [] gathered
  | cons {gathered slot next slots last} : slot.Named →
      Takes (member gathered slot.name) next (':' :: slot.text) →
      Gathers member next slots last → Gathers member gathered (slot :: slots) last

section

variable {member : σ → String → Reader σ} {slots : List Slot} {start last : σ}
  {rest given : List Char}

theorem Gathers.memberSteps (gathers : Gathers member start slots last) {first : Bool}
    (stands : Stands first (slots.map Slot.spell) '\x7d' rest given) {fuel : Nat}
    (enough : slots.length < fuel) :
    Reader.memberSteps member fuel first start given = .ok (last, '\x7d' :: rest) := by
  induction gathers generalizing fuel first given with
  | nil =>
    cases fuel with
    | zero => omega
    | succ fuel =>
      have closed : Reader.anotherKey first given = .ok (none, '\x7d' :: rest) := by
        rw [Reader.anotherKey, stands.closed (.inr rfl)]
        rfl
      rw [Reader.memberSteps, bind_of_ok closed]
      rfl
  | @cons gathered slot next slots last named takes _ ih =>
    cases fuel with
    | zero => omega
    | succ fuel =>
      rw [List.length_cons] at enough
      obtain ⟨left, key, same⟩ := named.anotherKey stands
      obtain ⟨left', read, remains⟩ := takes.stands (.inr rfl) same
      rw [Reader.memberSteps, bind_of_ok key]
      dsimp only
      rw [bind_of_ok read, ih remains (by omega)]

theorem Gathers.members (gathers : Gathers member start slots last)
    (stands : Stands true (slots.map Slot.spell) '\x7d' rest given)
    (enough : slots.length < given.length + 1) :
    Reader.members member start given = .ok (last, '\x7d' :: rest) := by
  rw [Reader.members, bind_of_ok (f := get) rfl, gathers.memberSteps stands enough]

theorem Gathers.members_commas (gathers : Gathers member start slots last) (rest : List Char) :
    Reader.members member start (commas (slots.map Slot.spell) ++ '\x7d' :: rest) =
      .ok (last, '\x7d' :: rest) := by
  have enough := length_lt_commas (slots.map Slot.spell) '\x7d' rest
  rw [List.length_map] at enough
  exact gathers.members rfl enough

end

theorem colon_behind {given text : List Char} (same : skipSpace given = ':' :: text) :
    Reader.colon given = .ok ((), text) := by
  rw [Reader.colon, same]
  rfl

theorem Takes.behind_colon {reader : Reader α} {x : α} {text : List Char}
    (takes : Takes reader x text) :
    Takes (Reader.colon >>= fun _ => reader) x (':' :: text) := by
  intro given rest ends same
  have colon : skipSpace given = ':' :: (text ++ rest) := same.trans (skipSpace_cons rfl _)
  obtain ⟨left, read, remains⟩ := takes (text ++ rest) rest ends rfl
  refine ⟨left, ?_, remains⟩
  rw [bind_of_ok (colon_behind colon), read]

/-- What is made of a value takes nothing off. -/
theorem Takes.followed {reader : Reader α} {f : α → Reader β} {x : α} {y : β} {text : List Char}
    (takes : Takes reader x text) (made : ∀ left, f x left = .ok (y, left)) :
    Takes (reader >>= f) y text := by
  intro given rest ends same
  obtain ⟨left, read, remains⟩ := takes given rest ends same
  refine ⟨left, ?_, remains⟩
  rw [bind_of_ok read, made]

theorem gathers_entries {item : Reader Json} {pieces : List (Slot × Json)}
    (named : ∀ piece ∈ pieces, piece.1.Named)
    (takes : ∀ piece ∈ pieces, Takes item piece.2 piece.1.text)
    (gathered : List (String × Json)) :
    Gathers (entry item) gathered (pieces.map (·.1))
      (gathered ++ pieces.map fun piece => (piece.1.name, piece.2)) := by
  induction pieces generalizing gathered with
  | nil =>
    rw [List.map_nil, List.map_nil, List.append_nil]
    exact .nil
  | cons piece pieces ih =>
    obtain ⟨name, names⟩ := List.forall_mem_cons.mp named
    obtain ⟨first, others⟩ := List.forall_mem_cons.mp takes
    have rest := ih names others (gathered ++ [(piece.1.name, piece.2)])
    rw [List.append_assoc, List.singleton_append] at rest
    exact .cons name (first.followed fun left => rfl).behind_colon rest

/-- An object of whatever members is read as the object of what was read of them. -/
theorem takes_object {depth : Nat} {pieces : List (Slot × Json)}
    (named : ∀ piece ∈ pieces, piece.1.Named)
    (takes : ∀ piece ∈ pieces, Takes (Reader.value depth) piece.2 piece.1.text) :
    Takes (Reader.value (depth + 1)) (ofEntries (pieces.map fun piece => (piece.1.name, piece.2)))
      ('\x7b' :: commas (pieces.map (·.1.spell)) ++ ['\x7d']) := by
  apply Takes.of_exact (blind_value _)
  intro rest _
  have read := (gathers_entries named takes []).members_commas rest
  rw [List.map_map, List.nil_append] at read
  rw [enclosed]
  exact value_object depth read

/-! ### Values -/

theorem Numeral.Formed.takes {n : Numeral} (formed : n.Formed) {value : Json.Number}
    (made : n.number = .ok value) {depth : Nat} :
    Takes (Reader.value depth) (.number value) n.spell := by
  apply Takes.of_exact (blind_value depth)
  intro rest ends
  obtain ⟨c, more, spelled, first⟩ := Numeral.spell_head formed
  have number : Reader.number (n.spell ++ rest) = .ok (value, rest) := by
    change (Numeral.scan .endInValue (n.spell ++ rest) >>= fun p =>
      p.1.number >>= fun v => Except.ok (v, p.2)) = _
    rw [Numeral.scan_spell formed ends]
    change (n.number >>= fun v => Except.ok (v, rest)) = _
    rw [made]
    rfl
  rw [spelled, List.cons_append, value_number depth first, ← List.cons_append, ← spelled, number]
  rfl

theorem takes_noItems (depth : Nat) {inside : List Char} (blanks : Blanks inside) :
    Takes (Reader.value (depth + 1)) (.array []) ('[' :: inside ++ [']']) := by
  apply Takes.of_exact (blind_value _)
  intro rest _
  have stands : Stands true [] ']' rest (inside ++ ']' :: rest) := blanks.skip _
  have read : Reader.items (Reader.value depth) (inside ++ ']' :: rest) = .ok ([], rest) :=
    Stands.items (List.forall_mem_nil _) (List.forall_mem_nil _) stands (Nat.succ_pos _)
  rw [enclosed, value_array, read]
  rfl

theorem takes_array {depth : Nat} {pieces : List (Json × List Char)}
    (takes : ∀ piece ∈ pieces, Takes (Reader.value depth) piece.1 piece.2)
    (opens : ∀ piece ∈ pieces, Opens piece.2) :
    Takes (Reader.value (depth + 1)) (.array (pieces.map (·.1)))
      ('[' :: commas (pieces.map (·.2)) ++ [']']) := by
  apply Takes.of_exact (blind_value _)
  intro rest _
  rw [enclosed, value_array, items_commas takes opens]
  rfl

theorem takes_noMembers (depth : Nat) {inside : List Char} (blanks : Blanks inside) :
    Takes (Reader.value (depth + 1)) (.object []) ('\x7b' :: inside ++ ['\x7d']) := by
  apply Takes.of_exact (blind_value _)
  intro rest _
  have stands : Stands true [] '\x7d' rest (inside ++ '\x7d' :: rest) := blanks.skip _
  have read : Reader.members (entry (Reader.value depth)) [] (inside ++ '\x7d' :: rest) =
      .ok ([], '\x7d' :: rest) := Gathers.nil.members stands (Nat.succ_pos _)
  rw [enclosed]
  exact value_object depth read

/-- However a value is written, it is read as it is, as long as it is exact. -/
theorem Writes.takes {j : Json} {text : List Char} (writes : Writes j text) {depth : Nat}
    (exact : Exact depth j) : Takes (Reader.value depth) j text := by
  -- The induction is on how the value is written; every container takes one off the depth.
  induction writes generalizing depth with
  | blanks front back _ ih => exact (ih exact).blanks front back
  | null =>
    apply Takes.of_exact (blind_value depth)
    intro rest _
    cases depth <;> rfl
  | true | false =>
    apply Takes.of_exact (blind_value depth)
    intro rest _
    cases depth <;> rfl
  | integer value =>
    cases exact with
    | integer least most =>
      rw [signedDecimal_eq_spell]
      exact (formed_integerNumeral value).takes (Numeral.number_integerNumeral least most)
  | string spelled =>
    apply Takes.of_exact (blind_value depth)
    intro rest _
    rw [enclosed, value_string, spelled.stringBody]
    rfl
  | noItems blanks =>
    cases exact with
    | array => exact takes_noItems _ blanks
  | @array pieces filled each ih =>
    cases exact with
    | @array depth _ inside =>
      have takes : ∀ piece ∈ pieces, Takes (Reader.value depth) piece.1 piece.2 :=
        fun piece member => ih piece member (inside piece.1 (List.mem_map_of_mem member))
      exact takes_array takes fun piece member => (each piece member).opens
  | noMembers blanks =>
    cases exact with
    | object => exact takes_noMembers _ blanks
  | @object pieces members filled named each same ih =>
    cases exact with
    | @object depth _ ascending inside =>
      have takes : ∀ piece ∈ pieces, Takes (Reader.value depth) piece.2 piece.1.text := by
        intro piece member
        have entered : (piece.1.name, piece.2) ∈ members :=
          same.mem_iff.mp (List.mem_map_of_mem (f := fun piece => (piece.1.name, piece.2)) member)
        exact ih piece member (inside _ entered)
      rw [← ofEntries_of_perm same ascending]
      exact takes_object named takes

/-! ### Printing -/

theorem spells_escapeChar (c : Char) : Spells c (escapeChar c) := by
  unfold escapeChar
  split
  case h_8 quotation backslash _ _ _ _ _ =>
    split
    · rename_i control
      have zero : Hex '0' 0 := ⟨by decide, .inl rfl⟩
      apply Spells.unit (by omega)
      refine ⟨_, _, _, _, rfl, ?_, ?_, ⟨by omega, .inl ?_⟩, ⟨by omega, .inl rfl⟩⟩
      · rw [show c.toNat / 0x1000 = 0 by omega]
        exact zero
      · rw [show c.toNat / 0x100 % 0x10 = 0 by omega]
        exact zero
      · rw [show c.toNat / 0x10 % 0x10 = c.toNat / 16 by omega]
    · rename_i visible
      exact .bare ⟨Nat.not_lt.mp visible, quotation, backslash⟩
  all_goals exact .short (by decide)

theorem spelled_escaped (text : List Char) : Spelled text (text.flatMap escapeChar) := by
  induction text with
  | nil => exact .nil
  | cons c text ih =>
    rw [List.flatMap_cons]
    exact .cons (spells_escapeChar c) ih

theorem render_array (items : List Json) :
    render (.array items) = '[' :: commas (items.map render) ++ [']'] := by
  have others (items : List Json) :
      renderItems items = (items.map render).flatMap (',' :: ·) := by
    induction items with
    | nil => rfl
    | cons item items ih => rw [renderItems, ih, List.map_cons, List.flatMap_cons]
  cases items with
  | nil => rfl
  | cons item items =>
    rw [render, others, List.map_cons, commas]
    rfl

/-- A member as it is printed. -/
def printed (member : String × Json) : Slot := ⟨member.1, quote member.1.toList, render member.2⟩

theorem printed_named (member : String × Json) : (printed member).Named := by
  exact ⟨_, spelled_escaped _, [], [], nofun, nofun, rfl⟩

theorem render_object (members : List (String × Json)) :
    render (.object members) =
      '\x7b' :: commas (members.map fun member => (printed member).spell) ++ ['\x7d'] := by
  have others (members : List (String × Json)) : renderMembers members =
      (members.map fun member => (printed member).spell).flatMap (',' :: ·) := by
    induction members with
    | nil => rfl
    | cons member members ih =>
      rw [renderMembers, ih, List.map_cons, List.flatMap_cons, Slot.spell, printed]
      simp
  cases members with
  | nil => rfl
  | cons member members =>
    rw [render, others, List.map_cons, commas, Slot.spell, printed]
    simp

/-- A list is read from its print if its items are. -/
theorem takes_render_array {depth : Nat} {items : List Json} {read : Json → Json}
    (takes : ∀ item ∈ items, Takes (Reader.value depth) (read item) (render item)) :
    Takes (Reader.value (depth + 1)) (.array (items.map read)) (render (.array items)) := by
  have each : ∀ piece ∈ items.map fun item => (read item, render item),
      Takes (Reader.value depth) piece.1 piece.2 := List.forall_mem_map.mpr takes
  have opens : ∀ piece ∈ items.map fun item => (read item, render item), Opens piece.2 :=
    List.forall_mem_map.mpr fun item _ => .of_begins (begins_render item)
  have taken := takes_array each opens
  rw [List.map_map, List.map_map] at taken
  rw [render_array]
  exact taken

theorem takes_render_object {depth : Nat} {members : List (String × Json)}
    {read : String × Json → Json}
    (takes : ∀ member ∈ members, Takes (Reader.value depth) (read member) (render member.2)) :
    Takes (Reader.value (depth + 1)) (ofEntries (members.map fun member => (member.1, read member)))
      (render (.object members)) := by
  have named : ∀ piece ∈ members.map fun member => (printed member, read member),
      piece.1.Named := List.forall_mem_map.mpr fun member _ => printed_named member
  have each : ∀ piece ∈ members.map fun member => (printed member, read member),
      Takes (Reader.value depth) piece.2 piece.1.text := List.forall_mem_map.mpr takes
  have taken := takes_object named each
  rw [List.map_map, List.map_map] at taken
  rw [render_object]
  exact taken

/-- To print a value is one way to write it. -/
theorem Exact.writes_render {depth : Nat} {j : Json} (exact : Exact depth j) :
    Writes j (render j) := by
  induction exact with
  | null => exact .null
  | bool value =>
    cases value with
    | true => exact .true
    | false => exact .false
  | integer => exact .integer _
  | string value => exact .string (spelled_escaped _)
  | @array depth items inside ih =>
    by_cases filled : items = []
    · have none : Blanks [] := nofun
      rw [filled]
      exact .noItems none
    · have written : Writes (.array ((items.map fun item => (item, render item)).map (·.1))) _ :=
        .array (by simpa using filled) (List.forall_mem_map.mpr ih)
      rw [render_array]
      simpa only [List.map_map, Function.comp_def, List.map_id'] using written
  | @object depth members ascending inside ih =>
    by_cases filled : members = []
    · have none : Blanks [] := nofun
      rw [filled]
      exact .noMembers none
    · have same : ((members.map fun member => (printed member, member.2)).map
          fun piece => (piece.1.name, piece.2)).Perm members := by
        simp [Function.comp_def, printed]
      have written : Writes (.object members) _ :=
        .object (by simpa using filled)
          (List.forall_mem_map.mpr fun member _ => printed_named member)
          (List.forall_mem_map.mpr ih) same
      rw [render_object]
      simpa only [List.map_map, Function.comp_def] using written

theorem Exact.mono {depth more : Nat} {j : Json} (exact : Exact depth j) (deeper : depth ≤ more) :
    Exact more j := by
  induction exact generalizing more with
  | null => exact .null
  | bool value => exact .bool value
  | integer least most => exact .integer least most
  | string value => exact .string value
  | array _ ih =>
    cases more with
    | zero => omega
    | succ more => exact .array fun item inside => ih item inside (by omega)
  | object ascending _ ih =>
    cases more with
    | zero => omega
    | succ more => exact .object ascending fun member inside => ih member inside (by omega)

theorem Takes.document {decoder : Decoder α} {x : α} {text : List Char}
    (takes : Takes (decoder maxDepth) x text) : Json.document decoder text = .ok x := by
  obtain ⟨left, read, remains⟩ := takes text [] nofun (by rw [List.append_nil])
  rw [Json.document, read]
  simp only [bind, Except.bind, remains]
  rfl

/-- What is exact comes back from its print. -/
theorem Exact.parse_render {j : Json} (exact : Exact maxDepth j) : parse (render j) = .ok j :=
  (exact.writes_render.takes exact).document

/-- An object of exact values comes back from its print with its members in their order. -/
theorem parse_render_of_exact {members : List (String × Json)}
    (exact : ∀ member ∈ members, Exact 126 member.2) :
    parse (render (.object members)) = .ok (ofEntries members) := by
  have takes : ∀ member ∈ members, Takes (Reader.value 126) member.2 (render member.2) :=
    fun member inside => (exact member inside).writes_render.takes (exact member inside)
  have read := takes_render_object takes
  rw [List.map_id'] at read
  exact read.document

/-! ### Typed readers -/

/-- The first visible character of a value tells null and texts from everything else. -/
theorem Writes.head {j : Json} {text : List Char} (writes : Writes j text) :
    ∃ c more, skipSpace text = c :: more ∧ (c = 'n' ↔ j = .null) ∧
      (c = '"' ↔ ∃ value, j = .string value) := by
  induction writes with
  | @blanks j before text after front back writes ih =>
    obtain ⟨c, more, begun, null, string⟩ := ih
    refine ⟨c, more ++ after, ?_, null, string⟩
    rw [List.append_assoc, front.skip, writes.opens.skip, begun, List.cons_append]
  | integer value =>
    obtain ⟨c, more, spelled, first⟩ := Numeral.spell_head (formed_integerNumeral value)
    obtain ⟨visible, -, null, -, -, quotation, -⟩ := visible_of_figure first
    refine ⟨c, more, ?_, ?_, ?_⟩
    · rw [signedDecimal_eq_spell, spelled, skipSpace_cons visible]
    · simp [null, int]
    · simp [quotation, int]
  | string => exact ⟨'"', _, skipSpace_cons rfl _, by simp, by simp⟩
  | null => exact ⟨'n', _, skipSpace_cons rfl _, by simp, by simp⟩
  | _ => exact ⟨_, _, skipSpace_cons rfl _, by simp, by simp⟩

theorem Writes.takes_string {value : String} {text : List Char}
    (writes : Writes (.string value) text) (expected : String) :
    Takes (Reader.string expected) value text := by
  intro given rest ends same
  obtain ⟨c, more, begun, -, string⟩ := writes.head
  obtain rfl : c = '"' := string.mpr ⟨value, rfl⟩
  have front : skipSpace given = '"' :: (more ++ rest) := by
    rw [same, writes.opens.skip, begun, List.cons_append]
  have takes : Takes (Reader.value 0) (.string value) text := writes.takes (.string value)
  obtain ⟨left, read, remains⟩ := takes given rest ends same
  rw [blind_value 0 given ('"' :: (more ++ rest)) (front.trans (skipSpace_cons rfl _).symm),
    value_string] at read
  obtain ⟨⟨found, left'⟩, body, made⟩ := map_eq_ok read
  cases made
  refine ⟨left, ?_, remains⟩
  rw [Reader.string, front]
  exact body

/-- What is kept of an optional value: null counts as none. -/
def optional? : Json → Option Json
  | .null => none
  | j => some j

theorem value_null (depth : Nat) (text : List Char) : Reader.value depth ('n' :: text) =
    (ident ['u', 'l', 'l'] text).map fun (_, rest) => (.null, rest) := by
  cases depth <;> rfl

theorem Writes.takes_optional {j : Json} {text : List Char} (writes : Writes j text) {depth : Nat}
    (exact : Exact depth j) :
    Takes (Reader.optional (Reader.value depth)) (optional? j) text := by
  intro given rest ends same
  obtain ⟨c, more, begun, null, -⟩ := writes.head
  have front : skipSpace given = c :: (more ++ rest) := by
    rw [same, writes.opens.skip, begun, List.cons_append]
  obtain ⟨left, read, remains⟩ := writes.takes exact given rest ends same
  rw [blind_value depth given (skipSpace given) (skipSpace_skipSpace given).symm, front] at read
  refine ⟨left, ?_, remains⟩
  rw [Reader.optional, front]
  by_cases absent : j = .null
  · obtain rfl := null.mpr absent
    subst absent
    rw [value_null] at read
    obtain ⟨⟨_, left'⟩, word, made⟩ := map_eq_ok read
    cases made
    simp only [word, Except.map, optional?]
  · have present : c ≠ 'n' := fun same => absent (null.mp same)
    have kept : optional? j = some j := by
      cases j <;> first | exact absurd rfl absent | rfl
    split
    · rename_i found
      exact absurd (List.cons.inj found).1 present
    · rw [read, kept]
      rfl

end PresenceSeal.Json
