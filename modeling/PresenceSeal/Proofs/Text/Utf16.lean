import PresenceSeal.Bytes
import PresenceSeal.Text.Utf16

/-! Decoding undoes encoding, character by character: a unit below the surrogates
or above them stands alone, and a pair is joined to the character it was split from.
Encoding undoes decoding too, so that bytes are refused only for what no text has:
an odd length, or a surrogate without its other half. -/
namespace PresenceSeal.Text.Utf16

theorem isHighSurrogate_iff {u : UInt16} :
    isHighSurrogate u = true ↔ 0xD800 ≤ u.toNat ∧ u.toNat < 0xDC00 := by
  simp [isHighSurrogate, UInt16.le_iff_toNat_le, UInt16.lt_iff_toNat_lt]

theorem isLowSurrogate_iff {u : UInt16} :
    isLowSurrogate u = true ↔ 0xDC00 ≤ u.toNat ∧ u.toNat < 0xE000 := by
  simp [isLowSurrogate, UInt16.le_iff_toNat_le, UInt16.lt_iff_toNat_lt]

/-- No character has a surrogate's number. -/
theorem toNat_bounds (c : Char) :
    c.toNat < 0xD800 ∨ 0xDFFF < c.toNat ∧ c.toNat < 0x110000 := c.valid

theorem toNat_ofNat {n : Nat} (small : n < 0x10000) : (UInt16.ofNat n).toNat = n := by
  rw [UInt16.toNat_ofNat']
  exact Nat.mod_eq_of_lt small

/-- The character of a number that is no surrogate has that number. -/
theorem toNat_charOfNat {n : Nat} (valid : n < 0xD800 ∨ 0xDFFF < n ∧ n < 0x110000) :
    (Char.ofNat n).toNat = n := by
  rw [Char.ofNat, dif_pos valid]
  rfl

theorem ofUnits?_cons_single {u : UInt16} (high : ¬ isHighSurrogate u) (low : ¬ isLowSurrogate u)
    (rest : List UInt16) :
    ofUnits? (u :: rest) = (ofUnits? rest).map (Char.ofNat u.toNat :: ·) := by
  rw [ofUnits?.eq_def]
  simp only [high, low, Bool.false_eq_true, ↓reduceIte]

theorem ofUnits?_cons_pair {u v : UInt16} (high : isHighSurrogate u) (low : isLowSurrogate v)
    (rest : List UInt16) : ofUnits? (u :: v :: rest) = (ofUnits? rest).map (joined u v :: ·) := by
  rw [ofUnits?.eq_def]
  simp only [high, low, ↓reduceIte]

theorem ofUnits?_unitsOfChar_append (c : Char) (rest : List UInt16) :
    ofUnits? (unitsOfChar c ++ rest) = (ofUnits? rest).map (c :: ·) := by
  have bounds := toNat_bounds c
  by_cases plane : c.toNat < 0x10000
  · have number := toNat_ofNat plane
    have high : ¬ isHighSurrogate (UInt16.ofNat c.toNat) := by
      rw [isHighSurrogate_iff, number]
      omega
    have low : ¬ isLowSurrogate (UInt16.ofNat c.toNat) := by
      rw [isLowSurrogate_iff, number]
      omega
    rw [unitsOfChar, if_pos plane, List.singleton_append, ofUnits?_cons_single high low, number,
      Char.ofNat_toNat]
  · have first := toNat_ofNat (n := 0xD800 + (c.toNat - 0x10000) / 0x400) (by omega)
    have second := toNat_ofNat (n := 0xDC00 + (c.toNat - 0x10000) % 0x400) (by omega)
    have high := isHighSurrogate_iff.mpr (by rw [first]; omega)
    have low := isLowSurrogate_iff.mpr (by rw [second]; omega)
    rw [unitsOfChar, if_neg plane]
    simp only [List.cons_append, List.nil_append]
    rw [ofUnits?_cons_pair high low, joined, first, second]
    rw [show 0x10000 + (0xD800 + (c.toNat - 0x10000) / 0x400 - 0xD800) * 0x400 +
      (0xDC00 + (c.toNat - 0x10000) % 0x400 - 0xDC00) = c.toNat by omega, Char.ofNat_toNat]

theorem ofUnits?_units (text : List Char) : ofUnits? (units text) = some text := by
  induction text with
  | nil => rfl
  | cons c rest ih =>
    rw [units, List.flatMap_cons, ofUnits?_unitsOfChar_append, ← units, ih]
    rfl

/-- Every text comes back from its bytes. -/
theorem decode_encode (text : List Char) : decode (encode text) = .ok text := by
  simp only [decode, encode, unitsOfBytes?_flatMap, ofUnits?_units]

/-- Two bytes to a code unit, and nothing besides. -/
theorem length_encode (text : List Char) : (encode text).length = 2 * (units text).length := by
  rw [encode]
  induction units text with
  | nil => rfl
  | cons u rest ih =>
    simp only [List.flatMap_cons, bytesOfUnit, List.length_append, List.length_cons,
      List.length_nil, ih]
    omega

/-! ### Units and their bytes -/

theorem bytesOfUnit_eq (u : UInt16) : bytesOfUnit u = littleEndian 2 u.toNat := by
  have bound := u.toNat_lt
  have low : u.toUInt8 = UInt8.ofNat u.toNat := by
    apply UInt8.toNat_inj.mp
    rw [UInt16.toNat_toUInt8, UInt8.toNat_ofNat']
  have high : (u >>> 8).toUInt8 = UInt8.ofNat (u.toNat / 256) := by
    apply UInt8.toNat_inj.mp
    rw [UInt16.toNat_toUInt8, UInt16.toNat_shiftRight, UInt8.toNat_ofNat',
      Nat.shiftRight_eq_div_pow]
    rfl
  rw [bytesOfUnit, low, high]
  rfl

theorem toNat_unitOfBytes (low high : UInt8) :
    (unitOfBytes low high).toNat = low.toNat + 256 * high.toNat := by
  have boundLow := low.toNat_lt
  have boundHigh := high.toNat_lt
  have parts := Nat.two_pow_add_eq_or_of_lt (show low.toNat < 2 ^ 8 from boundLow) high.toNat
  have shifted : high.toNat * 2 ^ 8 % 2 ^ 16 = 2 ^ 8 * high.toNat := by omega
  simp only [unitOfBytes, UInt16.toNat_or, UInt8.toNat_toUInt16, UInt16.toNat_shiftLeft,
    UInt16.reduceToNat, Nat.reduceMod, Nat.shiftLeft_eq, shifted]
  rw [Nat.or_comm, ← parts]
  omega

theorem bytesOfUnit_unitOfBytes (low high : UInt8) :
    bytesOfUnit (unitOfBytes low high) = [low, high] := by
  have boundLow := low.toNat_lt
  have boundHigh := high.toNat_lt
  have first : UInt8.ofNat (low.toNat + 256 * high.toNat) = low := by
    apply UInt8.toNat_inj.mp
    rw [UInt8.toNat_ofNat']
    omega
  have second : UInt8.ofNat ((low.toNat + 256 * high.toNat) / 256) = high := by
    apply UInt8.toNat_inj.mp
    rw [UInt8.toNat_ofNat']
    omega
  rw [bytesOfUnit_eq, toNat_unitOfBytes, littleEndian, littleEndian, littleEndian, first, second]

theorem unitsOfBytes?_eq_some_iff {bytes : List UInt8} {us : List UInt16} :
    unitsOfBytes? bytes = some us ↔ us.flatMap bytesOfUnit = bytes := by
  constructor
  · intro read
    fun_induction unitsOfBytes? bytes generalizing us with
    | case1 =>
      obtain rfl := Option.some.inj read
      rfl
    | case2 => cases read
    | case3 low high rest ih =>
      obtain ⟨tail, found, rfl⟩ := Option.map_eq_some_iff.mp read
      rw [List.flatMap_cons, bytesOfUnit_unitOfBytes, ih found]
      rfl
  · rintro rfl
    exact unitsOfBytes?_flatMap us

theorem unitsOfBytes?_eq_none_iff {bytes : List UInt8} :
    unitsOfBytes? bytes = none ↔ bytes.length % 2 = 1 := by
  fun_induction unitsOfBytes? bytes with
  | case1 => simp
  | case2 => simp
  | case3 low high rest ih =>
    rw [Option.map_eq_none_iff, ih, List.length_cons, List.length_cons]
    omega

/-! ### Characters and their units -/

theorem unitsOfChar_single {u : UInt16} (high : ¬ isHighSurrogate u) (low : ¬ isLowSurrogate u) :
    unitsOfChar (Char.ofNat u.toNat) = [u] := by
  have bound := u.toNat_lt
  rw [isHighSurrogate_iff] at high
  rw [isLowSurrogate_iff] at low
  rw [unitsOfChar, toNat_charOfNat (by omega), if_pos bound, UInt16.ofNat_toNat]

theorem unitsOfChar_joined {u v : UInt16} (high : isHighSurrogate u) (low : isLowSurrogate v) :
    unitsOfChar (joined u v) = [u, v] := by
  rw [isHighSurrogate_iff] at high
  rw [isLowSurrogate_iff] at low
  have number : (joined u v).toNat =
      0x10000 + (u.toNat - 0xD800) * 0x400 + (v.toNat - 0xDC00) :=
    toNat_charOfNat (by omega)
  have first : 0xD800 + ((joined u v).toNat - 0x10000) / 0x400 = u.toNat := by omega
  have second : 0xDC00 + ((joined u v).toNat - 0x10000) % 0x400 = v.toNat := by omega
  rw [unitsOfChar, if_neg (by omega)]
  simp only [first, second, UInt16.ofNat_toNat]

theorem ofUnits?_eq_some_iff {us : List UInt16} {text : List Char} :
    ofUnits? us = some text ↔ units text = us := by
  constructor
  · intro read
    fun_induction ofUnits? us generalizing text with
    | case1 =>
      obtain rfl := Option.some.inj read
      rfl
    | case2 u high v rest low ih =>
      obtain ⟨tail, found, rfl⟩ := Option.map_eq_some_iff.mp read
      rw [units, List.flatMap_cons, unitsOfChar_joined high low, ← units, ih found]
      rfl
    | case3 => cases read
    | case4 => cases read
    | case5 => cases read
    | case6 u rest high low ih =>
      obtain ⟨tail, found, rfl⟩ := Option.map_eq_some_iff.mp read
      rw [units, List.flatMap_cons, unitsOfChar_single high low, ← units, ih found]
      rfl
  · rintro rfl
    exact ofUnits?_units text

/-! ### Surrogates without their other half -/

/-- A high surrogate that no low one follows, or a low one that no high one stands before. -/
def Unpaired (us : List UInt16) : Prop :=
  ∃ front u back, us = front ++ u :: back ∧
    (isHighSurrogate u ∧ (∀ v ∈ back.head?, ¬ isLowSurrogate v) ∨
      isLowSurrogate u ∧ ∀ v ∈ front.getLast?, ¬ isHighSurrogate v)

theorem not_isLow_of_isHigh {u : UInt16} (high : isHighSurrogate u) : ¬ isLowSurrogate u := by
  rw [isHighSurrogate_iff] at high
  rw [isLowSurrogate_iff]
  omega

/-- A unit that is no high surrogate may as well not stand in front. -/
theorem forall_getLast?_cons {u : UInt16} (high : ¬ isHighSurrogate u) (front : List UInt16) :
    (∀ v ∈ (u :: front).getLast?, ¬ isHighSurrogate v) ↔
      ∀ v ∈ front.getLast?, ¬ isHighSurrogate v := by
  cases front with
  | nil =>
    refine ⟨fun _ => nofun, fun _ v last => ?_⟩
    obtain rfl := Option.some.inj last
    exact high
  | cons w front => rw [List.getLast?_cons_cons]

theorem unpaired_cons_single {u : UInt16} (high : ¬ isHighSurrogate u) (low : ¬ isLowSurrogate u)
    (rest : List UInt16) : Unpaired (u :: rest) ↔ Unpaired rest := by
  constructor
  · rintro ⟨front, x, back, split, alone⟩
    cases front with
    | nil =>
      obtain ⟨rfl, rfl⟩ := List.cons.inj split
      rcases alone with ⟨isHigh, -⟩ | ⟨isLow, -⟩
      · exact absurd isHigh high
      · exact absurd isLow low
    | cons y front =>
      obtain ⟨rfl, rfl⟩ := List.cons.inj split
      rw [forall_getLast?_cons high] at alone
      exact ⟨front, x, back, rfl, alone⟩
  · rintro ⟨front, x, back, rfl, alone⟩
    rw [← forall_getLast?_cons high] at alone
    exact ⟨u :: front, x, back, rfl, alone⟩

theorem unpaired_cons_pair {u v : UInt16} (high : isHighSurrogate u) (low : isLowSurrogate v)
    (rest : List UInt16) : Unpaired (u :: v :: rest) ↔ Unpaired rest := by
  have notHigh : ¬ isHighSurrogate v := fun isHigh => not_isLow_of_isHigh isHigh low
  constructor
  · rintro ⟨front, x, back, split, alone⟩
    match front with
    | [] =>
      obtain ⟨rfl, rfl⟩ := List.cons.inj split
      rcases alone with ⟨-, unfollowed⟩ | ⟨isLow, -⟩
      · exact absurd low (unfollowed v rfl)
      · exact absurd isLow (not_isLow_of_isHigh high)
    | [_] =>
      obtain ⟨rfl, same⟩ := List.cons.inj split
      obtain ⟨rfl, rfl⟩ := List.cons.inj same
      rcases alone with ⟨isHigh, -⟩ | ⟨-, unpreceded⟩
      · exact absurd isHigh notHigh
      · exact absurd high (unpreceded u rfl)
    | _ :: _ :: front =>
      obtain ⟨rfl, same⟩ := List.cons.inj split
      obtain ⟨rfl, rfl⟩ := List.cons.inj same
      rw [List.getLast?_cons_cons, forall_getLast?_cons notHigh] at alone
      exact ⟨front, x, back, rfl, alone⟩
  · rintro ⟨front, x, back, rfl, alone⟩
    rw [← forall_getLast?_cons notHigh, ← List.getLast?_cons_cons (a := u)] at alone
    exact ⟨u :: v :: front, x, back, rfl, alone⟩

/-- Units are refused exactly for a surrogate without its other half. -/
theorem ofUnits?_eq_none_iff {us : List UInt16} : ofUnits? us = none ↔ Unpaired us := by
  fun_induction ofUnits? us with
  | case1 =>
    refine ⟨nofun, ?_⟩
    rintro ⟨front, u, back, split, -⟩
    cases List.append_eq_nil_iff.mp split.symm |>.2
  | case2 u high v rest low ih =>
    rw [Option.map_eq_none_iff, ih, unpaired_cons_pair high low]
  | case3 u high v rest low =>
    have unfollowed : ∀ w ∈ (v :: rest).head?, ¬ isLowSurrogate w := by
      rintro w ⟨⟩
      exact low
    exact ⟨fun _ => ⟨[], u, v :: rest, rfl, .inl ⟨high, unfollowed⟩⟩, fun _ => rfl⟩
  | case4 u high => exact ⟨fun _ => ⟨[], u, [], rfl, .inl ⟨high, nofun⟩⟩, fun _ => rfl⟩
  | case5 u rest high low => exact ⟨fun _ => ⟨[], u, rest, rfl, .inr ⟨low, nofun⟩⟩, fun _ => rfl⟩
  | case6 u rest high low ih =>
    rw [Option.map_eq_none_iff, ih, unpaired_cons_single high low]

/-! ### Bytes -/

/-- The bytes that are the encoding of some text are decoded to that text, and no others. -/
theorem decode_eq_ok_iff {bytes : List UInt8} {text : List Char} :
    decode bytes = .ok text ↔ encode text = bytes := by
  constructor
  · intro read
    unfold decode at read
    split at read
    · cases read
    · rename_i us found
      split at read
      · cases read
      · rename_i joinedText joins
        obtain rfl := Except.ok.inj read
        rw [encode, ofUnits?_eq_some_iff.mp joins, unitsOfBytes?_eq_some_iff.mp found]
  · rintro rfl
    exact decode_encode text

/-- Bytes that are no text's: a byte is left over, or a surrogate has lost its other half. -/
def Garbled (bytes : List UInt8) : Prop :=
  bytes.length % 2 = 1 ∨
    ∃ us : List UInt16, us.flatMap (fun u => littleEndian 2 u.toNat) = bytes ∧ Unpaired us

theorem garbled_iff {bytes : List UInt8} :
    Garbled bytes ↔ ∃ defect, decode bytes = .error defect := by
  have little : (fun u : UInt16 => littleEndian 2 u.toNat) = bytesOfUnit :=
    funext fun u => (bytesOfUnit_eq u).symm
  rw [Garbled, little]
  constructor
  · rintro (odd | ⟨us, rfl, unpaired⟩)
    · exact ⟨_, by rw [decode, unitsOfBytes?_eq_none_iff.mpr odd]⟩
    · exact ⟨.unpaired, by
        simp only [decode, unitsOfBytes?_flatMap, ofUnits?_eq_none_iff.mpr unpaired]⟩
  · rintro ⟨defect, refused⟩
    cases found : unitsOfBytes? bytes with
    | none => exact .inl (unitsOfBytes?_eq_none_iff.mp found)
    | some us =>
      refine .inr ⟨us, unitsOfBytes?_eq_some_iff.mp found, ofUnits?_eq_none_iff.mp ?_⟩
      cases joins : ofUnits? us with
      | none => rfl
      | some text =>
        simp only [decode, found, joins] at refused
        cases refused

/-- Two bytes for a character up to U+FFFF, and above it those of a surrogate pair. -/
def bytesOfChar (c : Char) : List UInt8 :=
  if c.toNat ≤ 0xFFFF then littleEndian 2 c.toNat
  else
    littleEndian 2 (0xD800 + (c.toNat - 0x10000) / 0x400) ++
      littleEndian 2 (0xDC00 + (c.toNat - 0x10000) % 0x400)

theorem flatMap_unitsOfChar (c : Char) : (unitsOfChar c).flatMap bytesOfUnit = bytesOfChar c := by
  have bounds := toNat_bounds c
  have bytes (n : Nat) (small : n < 0x10000) :
      bytesOfUnit (UInt16.ofNat n) = littleEndian 2 n := by
    rw [bytesOfUnit_eq, toNat_ofNat small]
  by_cases plane : c.toNat < 0x10000
  · rw [unitsOfChar, if_pos plane, bytesOfChar, if_pos (by omega), List.flatMap_singleton,
      bytes _ plane]
  · rw [unitsOfChar, if_neg plane, bytesOfChar, if_neg (by omega)]
    simp only [List.flatMap_cons, List.flatMap_nil, List.append_nil]
    rw [bytes _ (by omega), bytes _ (by omega)]

/-- The bytes of the characters one behind the other, and nothing before or behind them. -/
theorem encode_eq_flatMap (text : List Char) : encode text = text.flatMap bytesOfChar := by
  induction text with
  | nil => rfl
  | cons c rest ih =>
    rw [encode, units, List.flatMap_cons, List.flatMap_append, flatMap_unitsOfChar, ← units,
      ← encode, ih, List.flatMap_cons]

theorem length_bytesOfChar (c : Char) :
    (bytesOfChar c).length = if c.toNat ≤ 0xFFFF then 2 else 4 := by
  unfold bytesOfChar
  split
  · exact length_littleEndian ..
  · rw [List.length_append, length_littleEndian, length_littleEndian]

end PresenceSeal.Text.Utf16
