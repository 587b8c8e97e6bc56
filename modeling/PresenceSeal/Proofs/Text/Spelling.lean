import Mathlib.Data.List.TakeWhile
import Mathlib.Data.Nat.Digits.Defs
import PresenceSeal.Bytes
import PresenceSeal.Proofs.Text.Base64

/-! Which texts are base64, and of which bytes. Four characters stand for one, two or three
bytes, and padding fills them up, at the end of the text or inside it. What is written for
some bytes is their one spelling without padding inside. -/
namespace PresenceSeal.Text

theorem utf8_injective : Function.Injective utf8 := by
  intro one two same
  have read := ofUtf8?_eq_some_iff.mpr same
  rw [ofUtf8?_eq_some_iff.mpr rfl] at read
  exact (Option.some.inj read).symm

namespace Base64

/-- The symbols in the order of their values. -/
def alphabet : List Char :=
  "ABCDEFGHIJKLMNOPQRSTUVWXYZabcdefghijklmnopqrstuvwxyz0123456789+/".toList

/-- Four characters and the bytes they stand for: a symbol more than there are bytes, and
padding. The symbols have six bits each; what they have beyond the bits of the bytes, two for
every padding character, is zero. -/
def Group (text : List Char) (bytes : List UInt8) : Prop :=
  bytes ≠ [] ∧ bytes.length ≤ 3 ∧ ∃ (values : List Nat) (symbols : List Char),
    values.length = bytes.length + 1 ∧
    values.map (alphabet[·]?) = symbols.map some ∧
    text = symbols ++ List.replicate (3 - bytes.length) '=' ∧
    Nat.ofDigits 64 values.reverse = ofBigEndian bytes * 4 ^ (3 - bytes.length)

/-- A text of groups, and the bytes of all of them in their order. -/
inductive Spells : List Char → List UInt8 → Prop where
  | nil : Spells [] []
  | cons {group text : List Char} {bytes rest : List UInt8} :
    Group group bytes → Spells text rest → Spells (group ++ text) (bytes ++ rest)

/-! ### Groups -/

theorem alphabet_eq_some_iff {value : Nat} {c : Char} :
    alphabet[value]? = some c ↔ value < 64 ∧ c = symbol value := by
  have all : ∀ n : Fin 64, alphabet[n.val]? = some (symbol n.val) := by decide +kernel
  by_cases small : value < 64
  · rw [all ⟨value, small⟩, Option.some.injEq, eq_comm]
    simp only [small, true_and]
  · have outside : alphabet[value]? = none :=
      List.getElem?_eq_none (show alphabet.length ≤ value from Nat.not_lt.mp small)
    simp only [outside, small, reduceCtorEq, false_and]

theorem map_alphabet_iff {values : List Nat} {symbols : List Char} :
    values.map (alphabet[·]?) = symbols.map some ↔
      (∀ value ∈ values, value < 64) ∧ symbols = values.map symbol := by
  induction values generalizing symbols with
  | nil => cases symbols <;> simp
  | cons value rest ih =>
    cases symbols with
    | nil => simp
    | cons c symbols =>
      simp only [List.map_cons, List.cons.injEq, alphabet_eq_some_iff, ih, List.forall_mem_cons]
      exact and_and_and_comm

/-- What is written for up to three bytes: their number in symbols of six bits, and padding. -/
theorem exists_values {bytes : List UInt8} (filled : bytes ≠ []) (short : bytes.length ≤ 3) :
    ∃ values : List Nat, values.length = bytes.length + 1 ∧ (∀ value ∈ values, value < 64) ∧
      encode bytes = values.map symbol ++ List.replicate (3 - bytes.length) '=' ∧
      Nat.ofDigits 64 values.reverse = ofBigEndian bytes * 4 ^ (3 - bytes.length) := by
  match bytes, filled, short with
  | [a], _, _ =>
    have := a.toNat_lt
    have number : a.toNat % 4 * 16 + 64 * (a.toNat / 4) = a.toNat * 16 := by omega
    refine ⟨[a.toNat / 4, a.toNat % 4 * 16], rfl, ?_, rfl, ?_⟩
    · simp only [List.forall_mem_cons, List.not_mem_nil]
      exact ⟨by omega, by omega, nofun⟩
    · simpa [Nat.ofDigits, ofBigEndian, ofLittleEndian] using number
  | [a, b], _, _ =>
    have := a.toNat_lt
    have := b.toNat_lt
    have number : b.toNat % 16 * 4 + 64 * (a.toNat % 4 * 16 + b.toNat / 16 +
        64 * (a.toNat / 4)) = (b.toNat + 256 * a.toNat) * 4 := by omega
    refine ⟨[a.toNat / 4, a.toNat % 4 * 16 + b.toNat / 16, b.toNat % 16 * 4], rfl, ?_, rfl, ?_⟩
    · simp only [List.forall_mem_cons, List.not_mem_nil]
      exact ⟨by omega, by omega, by omega, nofun⟩
    · simpa [Nat.ofDigits, ofBigEndian, ofLittleEndian] using number
  | [a, b, c], _, _ =>
    have := a.toNat_lt
    have := b.toNat_lt
    have := c.toNat_lt
    have number : c.toNat % 64 + 64 * (b.toNat % 16 * 4 + c.toNat / 64 +
        64 * (a.toNat % 4 * 16 + b.toNat / 16 + 64 * (a.toNat / 4))) =
          c.toNat + 256 * (b.toNat + 256 * a.toNat) := by omega
    refine ⟨[a.toNat / 4, a.toNat % 4 * 16 + b.toNat / 16, b.toNat % 16 * 4 + c.toNat / 64,
      c.toNat % 64], rfl, ?_, rfl, ?_⟩
    · simp only [List.forall_mem_cons, List.not_mem_nil]
      exact ⟨by omega, by omega, by omega, by omega, nofun⟩
    · simpa [Nat.ofDigits, ofBigEndian, ofLittleEndian] using number

/-- A group is what is written for its bytes alone: no other symbols have their number. -/
theorem group_iff {text : List Char} {bytes : List UInt8} :
    Group text bytes ↔ bytes ≠ [] ∧ bytes.length ≤ 3 ∧ text = encode bytes := by
  refine and_congr_right fun filled => and_congr_right fun short => ?_
  obtain ⟨written, count, small, spelled, number⟩ := exists_values filled short
  simp only [map_alphabet_iff]
  constructor
  · rintro ⟨values, symbols, sameCount, ⟨allSmall, rfl⟩, rfl, sameNumber⟩
    have same : values.reverse = written.reverse := by
      apply Nat.ofDigits_inj_of_len_eq (by decide : 1 < 64)
      · rw [List.length_reverse, List.length_reverse, sameCount, count]
      · intro value member
        exact allSmall value (List.mem_reverse.mp member)
      · intro value member
        exact small value (List.mem_reverse.mp member)
      · rw [sameNumber, number]
    rw [List.reverse_inj.mp same, spelled]
  · rintro rfl
    exact ⟨written, written.map symbol, count, ⟨small, rfl⟩, spelled, number⟩

theorem Group.length {text : List Char} {bytes : List UInt8} (group : Group text bytes) :
    text.length = 4 := by
  obtain ⟨filled, short, rfl⟩ := group_iff.mp group
  have some := List.length_pos_iff.mpr filled
  rw [length_encode]
  omega

/-! ### What is spelled is decoded -/

theorem spells_encode (bytes : List UInt8) : Spells (encode bytes) bytes := by
  fun_induction encode bytes with
  | case1 => exact .nil
  | case2 a =>
    exact .cons (group_iff.mpr ⟨List.cons_ne_nil a [], by simp, rfl⟩) .nil
  | case3 a b =>
    exact .cons (group_iff.mpr ⟨List.cons_ne_nil a [b], by simp, rfl⟩) .nil
  | case4 a b c rest ih =>
    exact .cons (group_iff.mpr ⟨List.cons_ne_nil a [b, c], by simp, rfl⟩) ih

theorem Spells.ascii {text : List Char} {bytes : List UInt8} (spells : Spells text bytes) :
    ∀ c ∈ text, c.toNat < 0x80 := by
  induction spells with
  | nil => nofun
  | cons group _ ih =>
    obtain ⟨-, -, rfl⟩ := group_iff.mp group
    intro c member
    rcases List.mem_append.mp member with inGroup | behind
    · exact encode_ascii _ c inGroup
    · exact ih c behind

theorem Spells.length {text : List Char} {bytes : List UInt8} (spells : Spells text bytes) :
    text.length % 4 = 0 := by
  induction spells with
  | nil => rfl
  | cons group _ ih =>
    rw [List.length_append, group.length]
    omega

theorem Spells.decodeGroups {text : List Char} {bytes : List UInt8} (spells : Spells text bytes)
    (position : Nat) : decodeGroups position (text.map asciiByte) = .ok bytes := by
  induction spells generalizing position with
  | nil => rfl
  | cons group _ ih =>
    obtain ⟨filled, short, rfl⟩ := group_iff.mp group
    rw [List.map_append, decodeGroups_append position _ filled short, ih]
    rfl

/-! ### What is decoded is spelled -/

theorem value?_eq_some {byte : UInt8} {value : Nat} (read : value? byte = some value) :
    value < 64 ∧ byte = asciiByte (symbol value) := by
  have all : ∀ n : Fin 256, ∀ value ∈ value? (UInt8.ofNat n.val),
      value < 64 ∧ UInt8.ofNat n.val = asciiByte (symbol value) := by decide +kernel
  have found := all ⟨byte.toNat, byte.toNat_lt⟩ value
  rw [UInt8.ofNat_toNat] at found
  exact found read

theorem values_eq_ok {position : Nat} {group : List UInt8} {vs : List Nat}
    (read : values position group = .ok vs) :
    (∀ value ∈ vs, value < 64) ∧ group = vs.map (asciiByte ∘ symbol) := by
  induction group generalizing position vs with
  | nil =>
    obtain rfl := Except.ok.inj read
    exact ⟨nofun, rfl⟩
  | cons byte rest ih =>
    rw [values] at read
    cases first : value? byte with
    | none => rw [first] at read; cases read
    | some value =>
      rw [first] at read
      cases behind : values (position + 1) rest with
      | error fault => rw [behind] at read; cases read
      | ok tail =>
        rw [behind] at read
        obtain rfl := Except.ok.inj read
        obtain ⟨small, rfl⟩ := value?_eq_some first
        obtain ⟨allSmall, rfl⟩ := ih behind
        exact ⟨List.forall_mem_cons.mpr ⟨small, allSmall⟩, rfl⟩

/-- What is taken away from a group is padding behind it. -/
theorem exists_padding (group : List UInt8) :
    ∃ count, group = unpadded group ++ List.replicate count pad := by
  refine ⟨(group.reverse.takeWhile (· == pad)).length, ?_⟩
  have padding : group.reverse.takeWhile (· == pad) =
      List.replicate (group.reverse.takeWhile (· == pad)).length pad := by
    refine List.eq_replicate_iff.mpr ⟨rfl, fun byte member => ?_⟩
    have padded : (byte == pad) = true := List.mem_takeWhile_imp (p := (· == pad)) member
    exact eq_of_beq padded
  have parts := List.takeWhile_append_dropWhile (p := (· == pad)) (l := group.reverse)
  rw [unpadded, ← List.reverse_inj, List.reverse_append, List.reverse_reverse,
    List.reverse_replicate, ← padding, parts]

/-- The bytes that symbols are read as have the number of the symbols. -/
theorem number_of_decodeSymbols {position : Nat} {vs : List Nat} {bytes : List UInt8}
    (small : ∀ value ∈ vs, value < 64)
    (read : decodeSymbols position (vs.map (asciiByte ∘ symbol)) = .ok bytes) :
    bytes ≠ [] ∧ bytes.length ≤ 3 ∧ vs.length = bytes.length + 1 ∧
      Nat.ofDigits 64 vs.reverse = ofBigEndian bytes * 4 ^ (3 - bytes.length) := by
  unfold decodeSymbols at read
  split at read
  · cases read
  rw [values_symbols position small] at read
  -- Two symbols and three have bits left over; four have none, and other numbers are refused.
  split at read
  · contradiction
  · rename_i x y found
    obtain rfl := Except.ok.inj found
    split at read
    · rename_i clean
      obtain rfl := Except.ok.inj read
      have bounds : x < 64 ∧ y < 64 := by simpa using small
      have byte := Nat.mod_eq_of_lt (show x * 4 + y / 16 < 256 by omega)
      have number : y + 64 * x = (x * 4 + y / 16) * 16 := by omega
      refine ⟨by simp, by simp, rfl, ?_⟩
      simpa [Nat.ofDigits, ofBigEndian, ofLittleEndian, byte] using number
    · cases read
  · rename_i x y z found
    obtain rfl := Except.ok.inj found
    split at read
    · rename_i clean
      obtain rfl := Except.ok.inj read
      have bounds : x < 64 ∧ y < 64 ∧ z < 64 := by simpa using small
      have first := Nat.mod_eq_of_lt (show x * 4 + y / 16 < 256 by omega)
      have second := Nat.mod_eq_of_lt (show y % 16 * 16 + z / 4 < 256 by omega)
      have number : z + 64 * (y + 64 * x) =
          (y % 16 * 16 + z / 4 + 256 * (x * 4 + y / 16)) * 4 := by omega
      refine ⟨by simp, by simp, rfl, ?_⟩
      simpa [Nat.ofDigits, ofBigEndian, ofLittleEndian, first, second] using number
    · cases read
  · rename_i x y z w found
    obtain rfl := Except.ok.inj found
    obtain rfl := Except.ok.inj read
    have bounds : x < 64 ∧ y < 64 ∧ z < 64 ∧ w < 64 := by simpa using small
    have first := Nat.mod_eq_of_lt (show x * 4 + y / 16 < 256 by omega)
    have second := Nat.mod_eq_of_lt (show y % 16 * 16 + z / 4 < 256 by omega)
    have third := Nat.mod_eq_of_lt (show z % 4 * 64 + w < 256 by omega)
    have number : w + 64 * (z + 64 * (y + 64 * x)) =
        z % 4 * 64 + w + 256 * (y % 16 * 16 + z / 4 + 256 * (x * 4 + y / 16)) := by omega
    refine ⟨by simp, by simp, rfl, ?_⟩
    simpa [Nat.ofDigits, ofBigEndian, ofLittleEndian, first, second, third] using number
  · cases read

/-- Four bytes that are read are those of a group. -/
theorem group_of_decodeSymbols {position : Nat} {quad bytes : List UInt8}
    (four : quad.length = 4) (read : decodeSymbols position (unpadded quad) = .ok bytes) :
    ∃ text, Group text bytes ∧ quad = text.map asciiByte := by
  obtain ⟨count, padded⟩ := exists_padding quad
  cases found : values position (unpadded quad) with
  | error fault =>
    unfold decodeSymbols at read
    rw [found] at read
    split at read <;> cases read
  | ok vs =>
    obtain ⟨small, symbols⟩ := values_eq_ok found
    rw [symbols] at read padded
    obtain ⟨filled, short, length, number⟩ := number_of_decodeSymbols small read
    have total := congrArg List.length padded
    rw [List.length_append, List.length_replicate, List.length_map, four, length] at total
    obtain rfl : count = 3 - bytes.length := by omega
    refine ⟨vs.map symbol ++ List.replicate (3 - bytes.length) '=',
      ⟨filled, short, vs, vs.map symbol, length, map_alphabet_iff.mpr ⟨small, rfl⟩, rfl, number⟩,
      ?_⟩
    rw [padded, List.map_append, List.map_map, List.map_replicate]
    rfl

theorem spells_of_decodeGroups {position : Nat} {raw bytes : List UInt8}
    (whole : raw.length % 4 = 0) (read : decodeGroups position raw = .ok bytes) :
    ∃ text, Spells text bytes ∧ raw = text.map asciiByte := by
  fun_induction decodeGroups position raw generalizing bytes with
  | case1 position a b c d rest fault refused => cases read
  | case2 position a b c d rest group stands ih =>
    cases behind : decodeGroups (position + 4) rest with
    | error fault => rw [behind] at read; cases read
    | ok tail =>
      rw [behind] at read
      obtain rfl := Except.ok.inj read
      obtain ⟨text, spells, rfl⟩ := ih (by simp only [List.length_cons] at whole; omega) behind
      obtain ⟨first, grouped, quad⟩ := group_of_decodeSymbols rfl stands
      refine ⟨first ++ text, .cons grouped spells, ?_⟩
      rw [List.map_append, ← quad]
      rfl
  | case3 raw position few =>
    obtain rfl := Except.ok.inj read
    refine ⟨[], .nil, ?_⟩
    match raw, few, whole with
    | [], _, _ => rfl
    | a :: b :: c :: d :: rest, few, _ => exact absurd rfl (few a b c d rest)

/-- Exactly the texts of groups are read, and as what their groups stand for. -/
theorem decode_eq_ok_iff {text : String} {bytes : List UInt8} :
    decode (utf8 text) = .ok bytes ↔ Spells text.toList bytes := by
  constructor
  · intro read
    unfold decode at read
    split at read
    · rename_i whole
      obtain ⟨found, spells, raw⟩ := spells_of_decodeGroups whole read
      rw [← utf8_ofList spells.ascii] at raw
      rwa [utf8_injective raw, String.toList_ofList]
    · cases read
  · intro spells
    have raw := utf8_ofList spells.ascii
    rw [String.ofList_toList] at raw
    rw [decode, raw, List.length_map, if_pos spells.length, spells.decodeGroups]

/-! ### Padding inside -/

theorem Group.of_unpadded {text : List Char} {bytes : List UInt8} (group : Group text bytes)
    (plain : '=' ∉ text) : bytes.length = 3 := by
  obtain ⟨filled, short, values, symbols, -, -, rfl, -⟩ := group
  by_contra partly
  have padding : '=' ∈ List.replicate (3 - bytes.length) '=' :=
    List.mem_replicate.mpr ⟨by omega, rfl⟩
  exact plain (List.mem_append_right _ padding)

theorem Spells.eq_nil {bytes : List UInt8} (spells : Spells [] bytes) : bytes = [] := by
  generalize same : ([] : List Char) = text at spells
  cases spells with
  | nil => rfl
  | cons group _ =>
    have length := group.length
    rw [(List.append_eq_nil_iff.mp same.symm).1] at length
    cases length

/-- What stands in front of the last group, one group taken off. -/
theorem take_behind (group text : List Char) (four : group.length = 4) (behind : 4 ≤ text.length) :
    (group ++ text).take ((group ++ text).length - 4) =
      group ++ text.take (text.length - 4) := by
  have count : (group ++ text).length - 4 = group.length + (text.length - 4) := by
    rw [List.length_append, four]
    omega
  rw [count, List.take_length_add_append]

/-- Bytes have one spelling in which no group but the last is padded. -/
theorem Spells.eq_encode {text : List Char} {bytes : List UInt8} (spells : Spells text bytes)
    (plain : '=' ∉ text.take (text.length - 4)) : text = encode bytes := by
  induction spells with
  | nil => rfl
  | @cons group text bytes rest stands spells ih =>
    have whole := spells.length
    obtain ⟨-, -, written⟩ := group_iff.mp stands
    rcases Nat.eq_zero_or_pos text.length with last | behind
    · obtain rfl := List.length_eq_zero_iff.mp last
      rw [spells.eq_nil, List.append_nil, List.append_nil, written]
    · rw [take_behind group text stands.length (by omega), List.mem_append, not_or] at plain
      rw [encode_append (stands.of_unpadded plain.1), ih plain.2, written]

theorem symbol_ne_pad {value : Nat} (small : value < 64) : symbol value ≠ '=' := by
  intro same
  exact (symbol_spec small).1 (congrArg asciiByte same)

/-- What is written has padding in its last group only. -/
theorem plain_encode (bytes : List UInt8) :
    '=' ∉ (encode bytes).take ((encode bytes).length - 4) := by
  fun_induction encode bytes with
  | case1 => exact List.not_mem_nil
  | case2 a => exact List.not_mem_nil
  | case3 a b => exact List.not_mem_nil
  | case4 a b c rest ih =>
    have := a.toNat_lt
    have := b.toNat_lt
    have := c.toNat_lt
    rcases Nat.eq_zero_or_pos (encode rest).length with last | behind
    · rw [List.length_eq_zero_iff.mp last]
      exact List.not_mem_nil
    · have quad : (4 : Nat) ≤ (encode rest).length := by
        rw [length_encode] at behind ⊢
        omega
      have inside := take_behind [symbol (a.toNat / 4), symbol (a.toNat % 4 * 16 + b.toNat / 16),
        symbol (b.toNat % 16 * 4 + c.toNat / 64), symbol (c.toNat % 64)] (encode rest) rfl quad
      simp only [List.cons_append, List.nil_append] at inside
      simp only [inside, List.mem_cons, not_or]
      exact ⟨(symbol_ne_pad (by omega)).symm, (symbol_ne_pad (by omega)).symm,
        (symbol_ne_pad (by omega)).symm, (symbol_ne_pad (by omega)).symm, ih⟩

end Base64

end PresenceSeal.Text
