import PresenceSeal.Proofs.Text.Base64
import PresenceSeal.Request.Channel

/-! Lines of a text. A line feed ends a line, and a carriage return in front of it goes with
it; what stands behind the last line feed is a line unless it is empty. The lines of the
text's bytes are the bytes of its lines. -/
namespace PresenceSeal.Text

/-- A line without the carriage return at its end, its last character first. -/
def chomp : List Char → List Char
  | '\r' :: line => line
  | line => line

/-- The lines of a text, the first of which has begun with `begun`, its last character first. -/
def linesFrom (begun : List Char) : List Char → List (List Char)
  | [] => if begun.isEmpty then [] else [begun.reverse]
  | c :: rest =>
    if c = '\n' then (chomp begun).reverse :: linesFrom [] rest else linesFrom (c :: begun) rest

def lines (text : List Char) : List (List Char) := linesFrom [] text

theorem linesFrom_append {line : List Char} (unbroken : '\n' ∉ line) (begun rest : List Char) :
    linesFrom begun (line ++ rest) = linesFrom (line.reverse ++ begun) rest := by
  induction line generalizing begun with
  | nil => rfl
  | cons c line ih =>
    rw [List.mem_cons, not_or] at unbroken
    rw [List.cons_append, linesFrom, if_neg (Ne.symm unbroken.1), ih unbroken.2,
      List.reverse_cons, List.append_assoc]
    rfl

/-- A line in front of a text ends with a line feed. -/
theorem lines_append {line : List Char} (unbroken : '\n' ∉ line) (rest : List Char) :
    lines (line ++ '\n' :: rest) = (chomp line.reverse).reverse :: lines rest := by
  rw [lines, linesFrom_append unbroken, List.append_nil, linesFrom, if_pos rfl, lines]

example : lines "a\r\n\n\rb\r".toList = ["a".toList, [], "\rb\r".toList] := by decide

/-- The bytes of some characters. -/
def bytesOf (text : List Char) : List UInt8 := text.flatMap String.utf8EncodeChar

theorem utf8_eq_bytesOf (text : String) : utf8 text = bytesOf text.toList := by
  have same : text = String.ofList text.toList := String.ofList_toList.symm
  rw [same, utf8, String.toByteArray_ofList, List.utf8Encode, List.toList_data_toByteArray,
    String.toList_ofList, bytesOf]

/-- Beyond ASCII no byte of a character is an ASCII byte. -/
theorem utf8EncodeChar_high {c : Char} (high : 0x80 ≤ c.toNat) :
    ∀ b ∈ String.utf8EncodeChar c, 0x80 ≤ b.toNat := by
  have value : c.toNat = c.val.toNat := rfl
  intro b member
  simp only [String.utf8EncodeChar] at member
  split at member
  · omega
  · split at member
    · simp only [List.mem_cons, List.not_mem_nil, or_false] at member
      rcases member with rfl | rfl <;> rw [UInt8.toNat_ofNat'] <;> omega
    · split at member
      · simp only [List.mem_cons, List.not_mem_nil, or_false] at member
        rcases member with rfl | rfl | rfl <;> rw [UInt8.toNat_ofNat'] <;> omega
      · simp only [List.mem_cons, List.not_mem_nil, or_false] at member
        rcases member with rfl | rfl | rfl | rfl <;> rw [UInt8.toNat_ofNat'] <;> omega

theorem utf8EncodeChar_ne_nil (c : Char) : String.utf8EncodeChar c ≠ [] := by
  intro empty
  simp only [String.utf8EncodeChar] at empty
  split at empty
  · cases empty
  · split at empty
    · cases empty
    · split at empty <;> cases empty

/-- An ASCII byte stands in the bytes of its own character only. -/
theorem ascii_of_mem_utf8EncodeChar {c d : Char} (ascii : d.toNat < 0x80)
    (member : asciiByte d ∈ String.utf8EncodeChar c) : c = d := by
  by_cases high : 0x80 ≤ c.toNat
  · have above := utf8EncodeChar_high high _ member
    rw [asciiByte, UInt8.toNat_ofNat'] at above
    omega
  · rw [utf8EncodeChar_ascii (by omega), List.mem_singleton] at member
    have same := congrArg UInt8.toNat member
    rw [asciiByte, asciiByte, UInt8.toNat_ofNat', UInt8.toNat_ofNat'] at same
    exact Char.toNat_inj.mp (by omega)

theorem bytesOf_cons (c : Char) (text : List Char) :
    bytesOf (c :: text) = String.utf8EncodeChar c ++ bytesOf text := List.flatMap_cons

theorem bytesOf_append (front back : List Char) :
    bytesOf (front ++ back) = bytesOf front ++ bytesOf back := List.flatMap_append

theorem bytesOf_eq_nil_iff {text : List Char} : bytesOf text = [] ↔ text = [] := by
  rw [bytesOf, List.flatMap_eq_nil_iff]
  constructor
  · intro none
    cases text with
    | nil => rfl
    | cons c rest => exact absurd (none c List.mem_cons_self) (utf8EncodeChar_ne_nil c)
  · rintro rfl
    nofun

/-- The bytes of what has begun, the last byte first. -/
def begunBytes (begun : List Char) : List UInt8 := (bytesOf begun.reverse).reverse

theorem begunBytes_cons (c : Char) (begun : List Char) :
    begunBytes (c :: begun) = (String.utf8EncodeChar c).reverse ++ begunBytes begun := by
  rw [begunBytes, List.reverse_cons, bytesOf_append, List.reverse_append, begunBytes]
  rw [bytesOf_cons, bytesOf, List.flatMap_nil, List.append_nil]

def chompBytes : List UInt8 → List UInt8
  | 0x0D :: line => line
  | line => line

theorem channelLinesFrom_cons (begun rest : List UInt8) (b : UInt8) :
    Channel.linesFrom begun (b :: rest) =
      if b = 0x0A then (chompBytes begun).reverse :: Channel.linesFrom [] rest
      else Channel.linesFrom (b :: begun) rest := rfl

/-- The carriage return that goes with a line feed is the same in characters and in bytes. -/
theorem chompBytes_begunBytes (begun : List Char) :
    chompBytes (begunBytes begun) = begunBytes (chomp begun) := by
  cases begun with
  | nil => rfl
  | cons c begun =>
    rw [begunBytes_cons]
    by_cases return' : c = '\r'
    · subst return'
      rfl
    · have kept : chomp (c :: begun) = c :: begun := by
        unfold chomp
        split
        · rename_i same
          exact absurd (List.cons.inj same).1 return'
        · rfl
      rw [kept, begunBytes_cons]
      cases last : (String.utf8EncodeChar c).reverse with
      | nil => exact absurd (List.reverse_eq_nil_iff.mp last) (utf8EncodeChar_ne_nil c)
      | cons b bytes =>
        rw [List.cons_append]
        unfold chompBytes
        split
        · rename_i same
          have found : asciiByte '\r' ∈ String.utf8EncodeChar c := by
            rw [← List.mem_reverse, last, (List.cons.inj same).1]
            exact List.mem_cons_self
          exact absurd (ascii_of_mem_utf8EncodeChar (by decide) found) return'
        · rfl

theorem linesFrom_unbroken {bytes : List UInt8} (unbroken : 0x0A ∉ bytes)
    (begun rest : List UInt8) :
    Channel.linesFrom begun (bytes ++ rest) = Channel.linesFrom (bytes.reverse ++ begun) rest := by
  induction bytes generalizing begun with
  | nil => rfl
  | cons b bytes ih =>
    rw [List.mem_cons, not_or] at unbroken
    rw [List.cons_append, channelLinesFrom_cons, if_neg (Ne.symm unbroken.1), ih unbroken.2,
      List.reverse_cons, List.append_assoc]
    rfl

theorem linesFrom_bytesOf (begun text : List Char) :
    Channel.linesFrom (begunBytes begun) (bytesOf text) = (linesFrom begun text).map bytesOf := by
  induction text generalizing begun with
  | nil =>
    cases begun with
    | nil => rfl
    | cons c begun =>
      have filled : (begunBytes (c :: begun)).isEmpty = false := by
        rw [List.isEmpty_eq_false_iff, begunBytes, Ne, List.reverse_eq_nil_iff, bytesOf_eq_nil_iff]
        simp
      rw [bytesOf, List.flatMap_nil, Channel.linesFrom, filled]
      simp [linesFrom, begunBytes]
  | cons c rest ih =>
    rw [bytesOf_cons, linesFrom]
    by_cases feed : c = '\n'
    · have byte : String.utf8EncodeChar c = [0x0A] := by
        rw [feed]
        rfl
      have begin := ih []
      rw [byte, List.singleton_append, channelLinesFrom_cons, if_pos rfl, if_pos feed,
        chompBytes_begunBytes, List.map_cons]
      rw [begunBytes, List.reverse_reverse]
      exact congrArg (bytesOf (chomp begun).reverse :: ·) begin
    · have unbroken : 0x0A ∉ String.utf8EncodeChar c := by
        intro member
        have found : asciiByte '\n' ∈ String.utf8EncodeChar c := member
        exact feed (ascii_of_mem_utf8EncodeChar (by decide) found)
      rw [linesFrom_unbroken unbroken, ← begunBytes_cons, ih, if_neg feed]

/-- The lines of a text's bytes are the bytes of its lines. -/
theorem channelLines_utf8 (text : String) :
    Channel.lines (utf8 text) = (lines text.toList).map bytesOf := by
  rw [utf8_eq_bytesOf]
  exact linesFrom_bytesOf [] text.toList

end PresenceSeal.Text
