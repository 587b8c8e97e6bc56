import PresenceSeal.Proofs.Json.Reading

/-! Whatever is well formed is passed over. Nobody looks at what it stands for, so neither its
size nor its depth matters. -/
namespace PresenceSeal.Json

/-! ### Numbers -/

theorem Figures.head {text : List Char} (figures : Figures text) :
    ∃ c more, text = c :: more ∧ (c = '-' ∨ Text.isDigit c = true) := by
  obtain ⟨signed, proper, -, -⟩ := figures
  rename_i minus whole fraction exponent
  obtain ⟨c, more, same⟩ := List.exists_cons_of_ne_nil proper.ne_nil
  have digit : Text.isDigit c = true := proper.digits c (same ▸ List.mem_cons_self)
  rcases signed with rfl | rfl
  · exact ⟨c, _, by rw [same]; rfl, .inr digit⟩
  · exact ⟨'-', _, rfl, .inl rfl⟩

/-- The ways to write an exponent: the letter in either case, the plus sign or none. -/
inductive Exponent : Option (Bool × List Char) → List Char → Prop where
  | absent : Exponent none []
  | present {letter sign digits} {negative : Bool} : letter = 'e' ∨ letter = 'E' →
      (if negative then sign = ['-'] else sign = [] ∨ sign = ['+']) → Digits digits →
      Exponent (some (negative, digits)) (letter :: (sign ++ digits))

/-- The figures of a numeral, part by part. -/
inductive Figured : Numeral → List Char → Prop where
  | mk {negative : Bool} {whole fraction exponent tail} : Numeral.Proper whole →
      (∀ d ∈ fraction, Text.isDigit d = true) → Exponent exponent tail →
      Figured ⟨negative, whole, fraction, exponent⟩ ((if negative then ['-'] else []) ++ whole ++
        (if fraction = [] then [] else '.' :: fraction) ++ tail)

/-- Figures are those of a numeral. -/
theorem Figures.figured {text : List Char} (figures : Figures text) : ∃ n, Figured n text := by
  obtain ⟨signed, proper, fractional, exponential⟩ := figures
  rename_i minus whole fraction exponent
  obtain ⟨negative, rfl⟩ : ∃ negative : Bool, minus = if negative then ['-'] else [] := by
    rcases signed with rfl | rfl
    · exact ⟨false, rfl⟩
    · exact ⟨true, rfl⟩
  obtain ⟨digits, all, rfl⟩ : ∃ digits, (∀ d ∈ digits, Text.isDigit d = true) ∧
      fraction = if digits = [] then [] else '.' :: digits := by
    rcases fractional with rfl | ⟨digits, filled, rfl⟩
    · exact ⟨[], nofun, rfl⟩
    · exact ⟨digits, filled.2, (if_neg filled.1).symm⟩
  obtain ⟨e, written⟩ : ∃ e, Exponent e exponent := by
    rcases exponential with rfl | ⟨letter, sign, digits, lettered, rfl | rfl | rfl, filled, rfl⟩
    · exact ⟨none, .absent⟩
    · exact ⟨_, @Exponent.present letter [] digits false lettered (.inl rfl) filled⟩
    · exact ⟨_, @Exponent.present letter ['+'] digits false lettered (.inr rfl) filled⟩
    · exact ⟨_, @Exponent.present letter ['-'] digits true lettered rfl filled⟩
  exact ⟨_, .mk proper all written⟩

theorem Exponent.figures {exponent : Option (Bool × List Char)} {tail : List Char}
    (written : Exponent exponent tail) :
    tail = [] ∨ ∃ letter sign digits, (letter = 'e' ∨ letter = 'E') ∧
      (sign = [] ∨ sign = ['+'] ∨ sign = ['-']) ∧ Digits digits ∧
      tail = letter :: (sign ++ digits) := by
  cases written with
  | absent => exact .inl rfl
  | @present letter sign digits negative lettered signed filled =>
    refine .inr ⟨letter, sign, digits, lettered, ?_, filled, rfl⟩
    cases negative with
    | true => exact .inr (.inr signed)
    | false => exact signed.imp_right .inl

theorem Figured.figures {n : Numeral} {text : List Char} (figured : Figured n text) :
    Figures text := by
  cases figured with
  | @mk negative whole fraction exponent tail proper digits written =>
    refine .mk ?_ proper ?_ written.figures
    · cases negative with
      | true => exact .inr rfl
      | false => exact .inl rfl
    · by_cases empty : fraction = []
      · exact .inl (if_pos empty)
      · exact .inr ⟨fraction, ⟨empty, digits⟩, if_neg empty⟩

/-- What may stand behind the digits in front of a fraction or an exponent. -/
theorem Digits.stops {digits : List Char} (filled : Digits digits) {c : Char} {more : List Char}
    (same : digits = c :: more) : c ≠ '+' ∧ c ≠ '-' := by
  have digit := filled.2 c (same ▸ List.mem_cons_self)
  constructor <;>
  · rintro rfl
    revert digit
    decide

theorem scanSign_digits {sign digits : List Char} {negative : Bool}
    (signed : if negative then sign = ['-'] else sign = [] ∨ sign = ['+'])
    (filled : Digits digits) (rest : List Char) :
    Numeral.scanSign (sign ++ digits ++ rest) = (negative, digits ++ rest) := by
  cases negative with
  | true =>
    obtain rfl : sign = ['-'] := signed
    rfl
  | false =>
    rcases signed with rfl | rfl
    · obtain ⟨c, more, same⟩ := List.exists_cons_of_ne_nil filled.1
      obtain ⟨plus, minus⟩ := filled.stops same
      rw [List.nil_append, same, List.cons_append]
      unfold Numeral.scanSign
      split
      · rename_i found
        exact absurd (List.cons.inj found).1 plus
      · rename_i found
        exact absurd (List.cons.inj found).1 minus
      · rfl
    · rfl

theorem Exponent.scan {exponent : Option (Bool × List Char)} {tail : List Char}
    (written : Exponent exponent tail) {rest : List Char} (ends : Numeral.Ends rest)
    (atEnd : Error) : Numeral.scanExponent atEnd (tail ++ rest) = .ok (exponent, rest) := by
  cases written with
  | absent =>
    have formed : ∀ negative digits, (none : Option (Bool × List Char)) = some (negative, digits) →
        digits ≠ [] ∧ ∀ d ∈ digits, Text.isDigit d = true := nofun
    exact Numeral.scanExponent_append formed ends atEnd
  | present lettered signed filled =>
    have counted := Numeral.scanDigits_append filled.1 filled.2
      (fun c more same => (ends c more same).1) atEnd
    rw [List.cons_append, Numeral.scanExponent, if_pos lettered, scanSign_digits signed filled]
    dsimp only
    rw [counted]
    rfl

/-- No character of an exponent goes on with what stands in front of it. -/
theorem Exponent.stops {exponent : Option (Bool × List Char)} {tail : List Char}
    (written : Exponent exponent tail) {rest : List Char} (ends : Numeral.Ends rest) :
    ∀ c more, tail ++ rest = c :: more → Text.isDigit c = false ∧ c ≠ '.' := by
  intro c more same
  cases written with
  | absent => exact ⟨(ends c more same).1, (ends c more same).2.1⟩
  | present lettered =>
    obtain ⟨rfl, -⟩ := List.cons.inj same
    rcases lettered with rfl | rfl <;> decide

/-- A numeral is scanned from its figures, however they are written. -/
theorem Figured.scan {n : Numeral} {text : List Char} (figured : Figured n text)
    {rest : List Char} (ends : Numeral.Ends rest) (atEnd : Error) :
    Numeral.scan atEnd (text ++ rest) = .ok (n, rest) := by
  cases figured with
  | @mk negative whole fraction exponent tail proper digits written =>
    -- Each part ends where a character stands that cannot go on with it.
    have stops := written.stops ends
    have front : ∀ c more, (if fraction = [] then [] else '.' :: fraction) ++ (tail ++ rest) =
        c :: more → Text.isDigit c = false :=
      Numeral.stops_fraction fun c more same => (stops c more same).1
    have third := written.scan ends atEnd
    have second := Numeral.scanFraction_append digits stops atEnd
    have first := Numeral.scanWhole_append proper front atEnd
    have scanned : Numeral.scanMagnitude negative atEnd (whole ++
        ((if fraction = [] then [] else '.' :: fraction) ++ (tail ++ rest))) =
          .ok (⟨negative, whole, fraction, exponent⟩, rest) := by
      simp only [Numeral.scanMagnitude, first, second, third, bind, Except.bind]
    simp only [List.append_assoc]
    cases negative with
    | true => exact scanned
    | false => exact (Numeral.scan_of_unsigned atEnd proper.ne_minus).trans scanned

theorem Figures.scan {text : List Char} (figures : Figures text) {rest : List Char}
    (ends : Numeral.Ends rest) (atEnd : Error) :
    ∃ n, Numeral.scan atEnd (text ++ rest) = .ok (n, rest) := by
  obtain ⟨n, figured⟩ := figures.figured
  exact ⟨n, figured.scan ends atEnd⟩

theorem Formed.opens {text : List Char} (formed : Formed text) : Opens text := by
  induction formed with
  | blanks front _ _ ih => exact .blanks front ih
  | number figures =>
    obtain ⟨c, more, rfl, first⟩ := figures.head
    obtain ⟨visible, opened, -⟩ := visible_of_figure first
    exact .of_begins ⟨_, _, rfl, visible, opened⟩
  | _ => exact .of_begins ⟨_, _, rfl, rfl, by decide⟩

/-! ### Strings -/

theorem skippedEscape_unit {digits : List Char} {unit : Nat} (quad : Quad digits unit)
    (rest : List Char) : Scan.skippedEscape ('u' :: (digits ++ rest)) = .ok ((), rest) := by
  simp only [Scan.skippedEscape, quad.hex4]

theorem skippedEscape_short {c letter : Char} (listed : (c, letter) ∈ shortEscapes)
    (rest : List Char) : Scan.skippedEscape (letter :: rest) = .ok ((), rest) := by
  have all : ∀ pair ∈ shortEscapes, ∀ rest,
      Scan.skippedEscape (pair.2 :: rest) = .ok ((), rest) := by
    simp only [shortEscapes, List.forall_mem_cons, List.not_mem_nil, false_implies, implies_true,
      and_true]
    exact ⟨fun _ => rfl, fun _ => rfl, fun _ => rfl, fun _ => rfl, fun _ => rfl, fun _ => rfl,
      fun _ => rfl, fun _ => rfl⟩
  exact all (c, letter) listed rest

theorem skippedStringSteps_escaped {given rest : List Char}
    (escaped : Scan.skippedEscape given = .ok ((), rest)) (fuel : Nat) :
    Scan.skippedStringSteps (fuel + 1) ('\\' :: given) = Scan.skippedStringSteps fuel rest := by
  rw [Scan.skippedStringSteps, if_neg (by decide), if_pos rfl, escaped]

theorem Strung.steps {body : List Char} (strung : Strung body) (rest : List Char) {fuel : Nat}
    (enough : body.length < fuel) :
    Scan.skippedStringSteps fuel (body ++ '"' :: rest) = .ok ((), rest) := by
  induction strung generalizing fuel with
  | nil =>
    cases fuel with
    | zero => omega
    | succ fuel => rfl
  | bare bare _ ih =>
    cases fuel with
    | zero => omega
    | succ fuel =>
      obtain ⟨visible, quotation, backslash⟩ := bare
      rw [List.length_cons] at enough
      rw [List.cons_append, Scan.skippedStringSteps, if_neg quotation, if_neg backslash,
        if_neg (Nat.not_lt.mpr visible), ih (by omega)]
  | short listed _ ih =>
    cases fuel with
    | zero => omega
    | succ fuel =>
      rw [List.length_cons, List.length_cons] at enough
      rw [List.cons_append, List.cons_append,
        skippedStringSteps_escaped (skippedEscape_short listed _), ih (by omega)]
  | unit quad _ ih =>
    cases fuel with
    | zero => omega
    | succ fuel =>
      simp only [List.length_cons, List.length_append] at enough
      simp only [List.cons_append, List.append_assoc]
      rw [skippedStringSteps_escaped (skippedEscape_unit quad _), ih (by omega)]

theorem Strung.skippedString {body : List Char} (strung : Strung body) (rest : List Char) :
    Json.skippedString (body ++ '"' :: rest) = .ok ((), rest) := by
  have enough : body.length < (body ++ '"' :: rest).length + 1 := by
    rw [List.length_append]
    omega
  rw [Json.skippedString, strung.steps rest enough]

/-! ### Containers -/

/-- What passes over the rest of a container: it ends at the closing character, and behind a
comma it goes on with another item. -/
structure Loops (loop : Nat → Reader Unit) (item : Reader Unit) (close : Char) : Prop where
  closes : ∀ {fuel given rest}, skipSpace given = close :: rest →
    loop (fuel + 1) given = .ok ((), rest)
  goes : ∀ {fuel given text left}, skipSpace given = ',' :: text → item text = .ok ((), left) →
    loop (fuel + 1) given = loop fuel left

theorem loops_items (item : Reader Unit) : Loops (Reader.skipItems item) item ']' := by
  constructor
  · intro fuel given rest same
    simp only [Reader.skipItems, same]
  · intro fuel given text left same read
    simp only [Reader.skipItems, same, read]

theorem loops_members (item : Reader Unit) :
    Loops (Reader.skipMembers item) (Reader.skipMember item) '\x7d' := by
  constructor
  · intro fuel given rest same
    simp only [Reader.skipMembers, same]
  · intro fuel given text left same read
    simp only [Reader.skipMembers, same, read]

theorem length_skipSpace_le (text : List Char) : (skipSpace text).length ≤ text.length :=
  (List.dropWhile_suffix _).length_le

theorem Loops.takes {loop : Nat → Reader Unit} {item : Reader Unit} {close : Char}
    (loops : Loops loop item close) (closes : close = ']' ∨ close = '\x7d')
    {texts : List (List Char)} (takes : ∀ text ∈ texts, Takes item () text)
    {given rest : List Char} (stands : Stands false texts close rest given) {fuel : Nat}
    (enough : texts.length < fuel) : loop fuel given = .ok ((), rest) := by
  induction texts generalizing fuel given with
  | nil =>
    cases fuel with
    | zero => omega
    | succ fuel => exact loops.closes (stands.closed closes)
  | cons text texts ih =>
    cases fuel with
    | zero => omega
    | succ fuel =>
      rw [List.length_cons] at enough
      obtain ⟨first, others⟩ := List.forall_mem_cons.mp takes
      obtain ⟨left, read, remains⟩ := first.stands closes rfl
      rw [loops.goes stands.behind read]
      exact ih others remains (by omega)

/-- What follows the opening character of a container that is not empty. -/
theorem Loops.takes_all {loop : Nat → Reader Unit} {item : Reader Unit} {close : Char}
    (loops : Loops loop item close) (closes : close = ']' ∨ close = '\x7d')
    {first : List Char} {texts : List (List Char)}
    (takes : ∀ text ∈ first :: texts, Takes item () text) (rest : List Char) :
    ∃ left, item (skipSpace (commas (first :: texts) ++ close :: rest)) = .ok ((), left) ∧
      loop (left.length + 1) left = .ok ((), rest) := by
  obtain ⟨one, others⟩ := List.forall_mem_cons.mp takes
  rw [commas, List.append_assoc]
  obtain ⟨left, read, remains⟩ := one.stands closes (skipSpace_skipSpace _)
  refine ⟨left, read, loops.takes closes others remains ?_⟩
  have behind : skipSpace left = texts.flatMap (',' :: ·) ++ close :: rest :=
    remains.trans (skipSpace_commas texts closes rest)
  have longer := length_le_flatMap texts
  have shorter := length_skipSpace_le left
  rw [behind, List.length_append, List.length_cons] at shorter
  omega

theorem takes_skipMember {item : Reader Unit} {body key text : List Char} (strung : Strung body)
    (quoted : Quoted body key) (takes : Takes item () text) :
    Takes (Reader.skipMember item) () (key ++ ':' :: text) := by
  intro given rest ends same
  obtain ⟨before, after, front, back, rfl⟩ := quoted
  obtain ⟨left, read, remains⟩ := takes (text ++ rest) rest ends rfl
  refine ⟨left, ?_, remains⟩
  have begun : skipSpace given = '"' :: (body ++ '"' :: (after ++ ':' :: (text ++ rest))) := by
    rw [same]
    simp only [List.append_assoc, List.cons_append]
    rw [front.skip, skipSpace_cons rfl]
  have colon : skipSpace (after ++ ':' :: (text ++ rest)) = ':' :: (text ++ rest) := by
    rw [back.skip, skipSpace_cons rfl]
  simp only [Reader.skipMember, begun, strung.skippedString, colon_behind colon, read]

/-! ### Values -/

theorem blind_skipSteps (depth : Nat) : Blind (Reader.skipSteps depth) := by
  intro given other same
  unfold Reader.skipSteps
  rw [same]

/-- A list is over at once, or an item is passed over and then what follows it. -/
theorem skipSteps_list (depth : Nat) (inside : List Char) :
    Reader.skipSteps (depth + 1) ('[' :: inside) =
      match skipSpace inside with
      | [] => .error .endInList
      | ']' :: rest => .ok ((), rest)
      | rest =>
        match Reader.skipSteps depth rest with
        | .error e => .error e
        | .ok (_, rest) => Reader.skipItems (Reader.skipSteps depth) (rest.length + 1) rest := rfl

theorem skipSteps_items (depth : Nat) {inside : List Char} (opens : Opens inside) :
    Reader.skipSteps (depth + 1) ('[' :: inside) =
      match Reader.skipSteps depth (skipSpace inside) with
      | .error e => .error e
      | .ok (_, rest) => Reader.skipItems (Reader.skipSteps depth) (rest.length + 1) rest := by
  obtain ⟨c, more, begun, -, opened⟩ := opens
  rw [skipSteps_list, begun]
  split
  · contradiction
  · rename_i bracket
    exact absurd (List.cons.inj bracket).1 opened
  · rfl

theorem skipSteps_object (depth : Nat) (inside : List Char) :
    Reader.skipSteps (depth + 1) ('\x7b' :: inside) =
      match skipSpace inside with
      | [] => .error .endInObject
      | '\x7d' :: rest => .ok ((), rest)
      | rest =>
        match Reader.skipMember (Reader.skipSteps depth) rest with
        | .error e => .error e
        | .ok (_, rest) => Reader.skipMembers (Reader.skipSteps depth) (rest.length + 1) rest := rfl

theorem skipSteps_members (depth : Nat) {inside more : List Char}
    (begun : skipSpace inside = '"' :: more) :
    Reader.skipSteps (depth + 1) ('\x7b' :: inside) =
      match Reader.skipMember (Reader.skipSteps depth) (skipSpace inside) with
      | .error e => .error e
      | .ok (_, rest) => Reader.skipMembers (Reader.skipSteps depth) (rest.length + 1) rest := by
  rw [skipSteps_object, begun]
  rfl

theorem skipSteps_string (depth : Nat) (text : List Char) :
    Reader.skipSteps depth ('"' :: text) = skippedString text := by
  cases depth <;> rfl

theorem skipSteps_number (depth : Nat) {c : Char} (first : c = '-' ∨ Text.isDigit c = true)
    (text : List Char) :
    Reader.skipSteps depth (c :: text) = Reader.skippedNumber (c :: text) := by
  obtain ⟨visible, -, n, t, f, quotation, bracket, brace⟩ := visible_of_figure first
  unfold Reader.skipSteps
  rw [skipSpace_cons visible]
  split
  case h_1 same => cases same
  case h_8 same =>
    obtain ⟨rfl, rfl⟩ := List.cons.inj same
    rw [if_pos first]
  all_goals
    rename_i same
    cases same
    contradiction

theorem Figures.takes {text : List Char} (figures : Figures text) (depth : Nat) :
    Takes (Reader.skipSteps depth) () text := by
  apply Takes.of_exact (blind_skipSteps depth)
  intro rest ends
  obtain ⟨c, more, same, first⟩ := figures.head
  obtain ⟨n, scanned⟩ := figures.scan ends .invalidNumber
  rw [same, List.cons_append, skipSteps_number depth first, ← List.cons_append, ← same,
    Reader.skippedNumber]
  simp only [scanned, bind, Except.bind]

theorem length_le_of_mem {text : List Char} {texts : List (List Char)} (member : text ∈ texts) :
    text.length ≤ (commas texts).length + 1 := by
  have inside : text.length ≤ (texts.flatMap (',' :: ·)).length := by
    induction texts with
    | nil => cases member
    | cons first others ih =>
      rw [List.flatMap_cons, List.length_append, List.length_cons]
      rcases List.mem_cons.mp member with rfl | member
      · omega
      · have shorter := ih member
        omega
  cases texts with
  | nil => cases member
  | cons first others => exact inside

/-- A list of items that are passed over one level below. -/
theorem takes_skippedItems {depth : Nat} {texts : List (List Char)} (filled : texts ≠ [])
    (opens : ∀ text ∈ texts, Opens text)
    (takes : ∀ text ∈ texts, Takes (Reader.skipSteps depth) () text) :
    Takes (Reader.skipSteps (depth + 1)) () ('[' :: commas texts ++ [']']) := by
  obtain ⟨first, others, rfl⟩ := List.exists_cons_of_ne_nil filled
  apply Takes.of_exact (blind_skipSteps _)
  intro rest _
  obtain ⟨left, read, reads⟩ := (loops_items _).takes_all (.inl rfl) takes rest
  have begins : Opens (commas (first :: others) ++ ']' :: rest) := by
    rw [commas, List.append_assoc]
    exact (opens first List.mem_cons_self).append _
  rw [enclosed, skipSteps_items depth begins, read]
  exact reads

/-- An object of members whose values are passed over one level below. -/
theorem takes_skippedMembers {depth : Nat} {pieces : List (List Char × List Char)}
    (filled : pieces ≠ []) (named : ∀ piece ∈ pieces, ∃ body, Strung body ∧ Quoted body piece.1)
    (takes : ∀ piece ∈ pieces, Takes (Reader.skipSteps depth) () piece.2) :
    Takes (Reader.skipSteps (depth + 1)) ()
      ('\x7b' :: commas (pieces.map fun piece => piece.1 ++ ':' :: piece.2) ++ ['\x7d']) := by
  obtain ⟨first, others, rfl⟩ := List.exists_cons_of_ne_nil filled
  apply Takes.of_exact (blind_skipSteps _)
  intro rest _
  have members : ∀ text ∈ (first :: others).map fun piece => piece.1 ++ ':' :: piece.2,
      Takes (Reader.skipMember (Reader.skipSteps depth)) () text := by
    refine List.forall_mem_map.mpr fun piece listed => ?_
    obtain ⟨body, strung, quoted⟩ := named piece listed
    exact takes_skipMember strung quoted (takes piece listed)
  rw [List.map_cons] at members ⊢
  obtain ⟨left, read, reads⟩ := (loops_members _).takes_all (.inr rfl) members rest
  obtain ⟨more, begun⟩ : ∃ more, skipSpace (commas ((first.1 ++ ':' :: first.2) ::
      others.map fun piece => piece.1 ++ ':' :: piece.2) ++ '\x7d' :: rest) = '"' :: more := by
    obtain ⟨body, strung, before, after, front, back, key⟩ := named first List.mem_cons_self
    rw [commas, key]
    simp only [List.append_assoc, List.cons_append]
    rw [front.skip]
    exact ⟨_, skipSpace_cons rfl _⟩
  rw [enclosed, skipSteps_members depth begun, read]
  exact reads

/-- What is well formed is passed over, if it is not longer than the depth. -/
theorem Formed.takes {text : List Char} (formed : Formed text) {depth : Nat}
    (deep : (skipSpace text).length ≤ depth) : Takes (Reader.skipSteps depth) () text := by
  -- What stands in a container is shorter than the container, so a level less is deep enough.
  induction formed generalizing depth with
  | @blanks before text after front back formed ih =>
    rw [List.append_assoc, front.skip, formed.opens.skip, List.length_append] at deep
    exact (ih (by omega)).blanks front back
  | null | true | false =>
    apply Takes.of_exact (blind_skipSteps depth)
    intro rest _
    cases depth <;> rfl
  | number figures => exact figures.takes depth
  | string strung =>
    apply Takes.of_exact (blind_skipSteps depth)
    intro rest _
    rw [enclosed, skipSteps_string, strung.skippedString]
  | @noItems inside blanks =>
    obtain ⟨depth, rfl⟩ := Nat.exists_eq_add_of_lt deep
    apply Takes.of_exact (blind_skipSteps _)
    intro rest _
    rw [enclosed, skipSteps_list, blanks.skip]
    rfl
  | @array texts filled each ih =>
    have deep : (commas texts ++ [']']).length + 1 ≤ depth := deep
    rw [List.length_append, List.length_singleton] at deep
    obtain ⟨depth, rfl⟩ := Nat.exists_eq_add_one_of_ne_zero (Nat.ne_zero_of_lt deep)
    refine takes_skippedItems filled (fun text member => (each text member).opens) ?_
    intro text member
    have inside := length_le_of_mem member
    have shorter := length_skipSpace_le text
    exact ih text member (by omega)
  | @noMembers inside blanks =>
    obtain ⟨depth, rfl⟩ := Nat.exists_eq_add_of_lt deep
    apply Takes.of_exact (blind_skipSteps _)
    intro rest _
    rw [enclosed, skipSteps_object, blanks.skip]
    rfl
  | @object pieces filled named each ih =>
    have deep : (commas (pieces.map fun piece => piece.1 ++ ':' :: piece.2) ++
        ['\x7d']).length + 1 ≤ depth := deep
    rw [List.length_append, List.length_singleton] at deep
    obtain ⟨depth, rfl⟩ := Nat.exists_eq_add_one_of_ne_zero (Nat.ne_zero_of_lt deep)
    refine takes_skippedMembers filled named ?_
    intro piece listed
    have member : piece.1 ++ ':' :: piece.2 ∈ pieces.map fun piece => piece.1 ++ ':' :: piece.2 :=
      List.mem_map.mpr ⟨piece, listed, rfl⟩
    have inside := length_le_of_mem member
    have shorter := length_skipSpace_le piece.2
    rw [List.length_append, List.length_cons] at inside
    exact ih piece listed (by omega)

/-- However deep it is, what is well formed is passed over. -/
theorem Formed.skips {text : List Char} (formed : Formed text) : Takes Reader.skip () text := by
  intro given rest ends same
  have shorter := length_skipSpace_le given
  rw [same, formed.opens.skip, List.length_append] at shorter
  exact formed.takes (by omega) given rest ends same

end PresenceSeal.Json
