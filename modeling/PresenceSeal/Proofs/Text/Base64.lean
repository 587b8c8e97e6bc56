import PresenceSeal.Text.Base64
import PresenceSeal.Text.Utf8

/-! What base64 writes it reads back, for every number of bytes in the last group.
Texts are written in characters and read in bytes, which are the same for ASCII. -/
namespace PresenceSeal.Text

def asciiByte (c : Char) : UInt8 := UInt8.ofNat c.toNat

theorem utf8EncodeChar_ascii {c : Char} (ascii : c.toNat < 0x80) :
    String.utf8EncodeChar c = [asciiByte c] := by
  have small : c.val.toNat ≤ 0x7F := Nat.le_of_lt_succ ascii
  simp only [String.utf8EncodeChar, if_pos small, asciiByte, Char.toNat]

theorem utf8_ofList {text : List Char} (ascii : ∀ c ∈ text, c.toNat < 0x80) :
    utf8 (String.ofList text) = text.map asciiByte := by
  have bytes : text.flatMap String.utf8EncodeChar = text.map asciiByte := by
    induction text with
    | nil => rfl
    | cons c rest ih =>
      rw [List.flatMap_cons, utf8EncodeChar_ascii (ascii c List.mem_cons_self),
        ih fun d member => ascii d (List.mem_cons_of_mem c member)]
      rfl
  rw [utf8, String.toByteArray_ofList, List.utf8Encode, List.toList_data_toByteArray, bytes]

namespace Base64

theorem symbol_spec {value : Nat} (small : value < 64) :
    asciiByte (symbol value) ≠ pad ∧ (symbol value).toNat < 0x80 := by
  have all : ∀ n : Fin 64, asciiByte (symbol n.val) ≠ pad ∧ (symbol n.val).toNat < 0x80 := by
    decide
  exact all ⟨value, small⟩

theorem encode_ascii (bytes : List UInt8) : ∀ c ∈ encode bytes, c.toNat < 0x80 := by
  have padding : ('=' : Char).toNat < 0x80 := by decide
  fun_induction encode bytes with
  | case1 => simp
  | case2 a =>
    have := a.toNat_lt
    simp only [List.forall_mem_cons, padding, true_and, List.not_mem_nil]
    exact ⟨(symbol_spec (by omega)).2, (symbol_spec (by omega)).2, nofun⟩
  | case3 a b =>
    have := a.toNat_lt
    have := b.toNat_lt
    simp only [List.forall_mem_cons, padding, true_and, List.not_mem_nil]
    exact ⟨(symbol_spec (by omega)).2, (symbol_spec (by omega)).2, (symbol_spec (by omega)).2,
      nofun⟩
  | case4 a b c rest ih =>
    have := a.toNat_lt
    have := b.toNat_lt
    have := c.toNat_lt
    simp only [List.forall_mem_cons]
    exact ⟨(symbol_spec (by omega)).2, (symbol_spec (by omega)).2, (symbol_spec (by omega)).2,
      (symbol_spec (by omega)).2, ih⟩

/-- Four symbols for every three bytes, the last ones perhaps in part. -/
theorem length_encode (bytes : List UInt8) :
    (encode bytes).length = 4 * ((bytes.length + 2) / 3) := by
  fun_induction encode bytes with
  | case1 | case2 | case3 => simp
  | case4 a b c rest ih =>
    simp only [List.length_cons, ih]
    omega

theorem length_utf8_encode (bytes : List UInt8) :
    (utf8 (String.ofList (encode bytes))).length = (String.ofList (encode bytes)).length := by
  rw [utf8_ofList (encode_ascii bytes), List.length_map, String.length_ofList]

theorem values_symbols (position : Nat) {group : List Nat} (small : ∀ value ∈ group, value < 64) :
    values position (group.map (asciiByte ∘ symbol)) = .ok group := by
  induction group generalizing position with
  | nil => rfl
  | cons value rest ih =>
    have head := value?_symbol (small value List.mem_cons_self)
    have tail := ih (position + 1) fun v member => small v (List.mem_cons_of_mem value member)
    simp only [List.map_cons, Function.comp_apply, values, asciiByte, head]
    exact congrArg (Except.map (value :: ·)) tail

/-- Trailing padding is all that is taken away. -/
theorem unpadded_symbols (group : List Nat) {last : Nat} (small : last < 64) (count : Nat) :
    unpadded (group.map (asciiByte ∘ symbol) ++ [asciiByte (symbol last)] ++
      List.replicate count pad) = (group ++ [last]).map (asciiByte ∘ symbol) := by
  have stays := beq_eq_false_iff_ne.mpr (symbol_spec small).1
  rw [unpadded, List.reverse_append, List.reverse_replicate, List.dropWhile_append,
    List.dropWhile_replicate]
  simp [stays]

/-- A group is decoded on its own, and what follows it later. -/
theorem decodeGroups_cons {a b c d : UInt8} {group : List Nat} {bytes : List UInt8}
    {position : Nat} (read : unpadded [a, b, c, d] = group.map (asciiByte ∘ symbol))
    (stands : decodeSymbols position (group.map (asciiByte ∘ symbol)) = .ok bytes)
    (rest : List UInt8) : decodeGroups position (a :: b :: c :: d :: rest) =
      (decodeGroups (position + 4) rest).map (bytes ++ ·) := by
  rw [decodeGroups, read, stands]

theorem byte_eq {n : Nat} {b : UInt8} (same : n % 256 = b.toNat) : UInt8.ofNat n = b := by
  apply UInt8.toNat_inj.mp
  rw [UInt8.toNat_ofNat', same]

/-- What is written for up to three bytes is read as one group. -/
theorem decodeGroups_append (position : Nat) (group : List UInt8) (filled : group ≠ [])
    (short : group.length ≤ 3) (rest : List UInt8) :
    decodeGroups position ((encode group).map asciiByte ++ rest) =
      (decodeGroups (position + 4) rest).map (group ++ ·) := by
  match group, filled, short with
  | [a], _, _ =>
    have := a.toNat_lt
    have small : ∀ value ∈ [a.toNat / 4, a.toNat % 4 * 16], value < 64 := by
      simp only [List.forall_mem_cons, List.not_mem_nil]
      exact ⟨by omega, by omega, nofun⟩
    have stands : decodeSymbols position ([a.toNat / 4, a.toNat % 4 * 16].map
        (asciiByte ∘ symbol)) = .ok [a] := by
      rw [decodeSymbols, if_neg (by simp), values_symbols position small]
      simp only [if_pos (show a.toNat % 4 * 16 % 16 = 0 by omega), Except.ok.injEq,
        List.cons.injEq, and_true]
      exact byte_eq (by omega)
    exact decodeGroups_cons (unpadded_symbols [a.toNat / 4] (by omega) 2) stands rest
  | [a, b], _, _ =>
    have := a.toNat_lt
    have := b.toNat_lt
    have small : ∀ value ∈ [a.toNat / 4, a.toNat % 4 * 16 + b.toNat / 16, b.toNat % 16 * 4],
        value < 64 := by
      simp only [List.forall_mem_cons, List.not_mem_nil]
      exact ⟨by omega, by omega, by omega, nofun⟩
    have stands : decodeSymbols position ([a.toNat / 4, a.toNat % 4 * 16 + b.toNat / 16,
        b.toNat % 16 * 4].map (asciiByte ∘ symbol)) = .ok [a, b] := by
      rw [decodeSymbols, if_neg (by simp), values_symbols position small]
      simp only [if_pos (show b.toNat % 16 * 4 % 4 = 0 by omega), Except.ok.injEq,
        List.cons.injEq, and_true]
      exact ⟨byte_eq (by omega), byte_eq (by omega)⟩
    exact decodeGroups_cons (unpadded_symbols
      [a.toNat / 4, a.toNat % 4 * 16 + b.toNat / 16] (by omega) 1) stands rest
  | [a, b, c], _, _ =>
    have := a.toNat_lt
    have := b.toNat_lt
    have := c.toNat_lt
    have small : ∀ value ∈ [a.toNat / 4, a.toNat % 4 * 16 + b.toNat / 16,
        b.toNat % 16 * 4 + c.toNat / 64, c.toNat % 64], value < 64 := by
      simp only [List.forall_mem_cons, List.not_mem_nil]
      exact ⟨by omega, by omega, by omega, by omega, nofun⟩
    have stands : decodeSymbols position ([a.toNat / 4, a.toNat % 4 * 16 + b.toNat / 16,
        b.toNat % 16 * 4 + c.toNat / 64, c.toNat % 64].map (asciiByte ∘ symbol)) =
          .ok [a, b, c] := by
      rw [decodeSymbols, if_neg (by simp), values_symbols position small]
      simp only [Except.ok.injEq, List.cons.injEq, and_true]
      exact ⟨byte_eq (by omega), byte_eq (by omega), byte_eq (by omega)⟩
    have read := unpadded_symbols [a.toNat / 4, a.toNat % 4 * 16 + b.toNat / 16,
      b.toNat % 16 * 4 + c.toNat / 64] (show c.toNat % 64 < 64 by omega) 0
    exact decodeGroups_cons read stands rest

/-- Three bytes make a group of their own. -/
theorem encode_append {group : List UInt8} (full : group.length = 3) (rest : List UInt8) :
    encode (group ++ rest) = encode group ++ encode rest := by
  match group, full with
  | [a, b, c], _ => simp only [encode, List.cons_append, List.nil_append]

theorem decodeGroups_encode (position : Nat) (bytes : List UInt8) :
    decodeGroups position ((encode bytes).map asciiByte) = .ok bytes := by
  fun_induction encode bytes generalizing position with
  | case1 => rfl
  | case2 a => exact decodeGroups_append position [a] nofun (by simp) []
  | case3 a b => exact decodeGroups_append position [a, b] nofun (by simp) []
  | case4 a b c rest ih =>
    have apart : encode ([a, b, c] ++ rest) = encode [a, b, c] ++ encode rest :=
      encode_append rfl rest
    calc decodeGroups position ((encode ([a, b, c] ++ rest)).map asciiByte)
        = (decodeGroups (position + 4) ((encode rest).map asciiByte)).map ([a, b, c] ++ ·) := by
          rw [apart, List.map_append]
          exact decodeGroups_append position [a, b, c] nofun (by simp) _
      _ = .ok (a :: b :: c :: rest) := by rw [ih]; rfl

/-- Every byte string comes back from its base64 text. -/
theorem decode_encode (bytes : List UInt8) :
    decode (utf8 (String.ofList (encode bytes))) = .ok bytes := by
  rw [utf8_ofList (encode_ascii bytes), decode, List.length_map, length_encode,
    if_pos (Nat.mul_mod_right 4 _), decodeGroups_encode]

end Base64

end PresenceSeal.Text
