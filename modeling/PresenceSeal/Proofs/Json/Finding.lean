import Mathlib.Data.List.TakeWhile
import PresenceSeal.Proofs.Json.Skipping

/-! What a reader has taken was there: it is a text of the grammar for what was read. These are
the leaves; a reader of a leaf takes its characters and nothing else. -/
namespace PresenceSeal.Json

/-- Whatever the reader takes off the front is a text that `lang` has for what was read. -/
def Finds (reader : Reader α) (lang : α → List Char → Prop) : Prop :=
  ∀ ⦃given x left⦄, reader given = .ok (x, left) → ∃ text, given = text ++ left ∧ lang x text

theorem Finds.mono {reader : Reader α} {lang more : α → List Char → Prop}
    (finds : Finds reader lang) (weaker : ∀ x text, lang x text → more x text) :
    Finds reader more := by
  intro given x left read
  obtain ⟨text, same, tells⟩ := finds read
  exact ⟨text, same, weaker x text tells⟩

/-- What is made of a value takes nothing off. -/
theorem Finds.followed {reader : Reader α} {f : α → β} {lang : α → List Char → Prop}
    (finds : Finds reader lang) :
    Finds (reader >>= fun x => pure (f x)) fun y text => ∃ x, y = f x ∧ lang x text := by
  intro given y left read
  obtain ⟨x, behind, first, made⟩ := bind_eq_ok read
  cases made
  obtain ⟨text, rfl, tells⟩ := finds first
  exact ⟨text, rfl, x, rfl, tells⟩

/-! ### Blanks and words -/

theorem blanks_takeWhile (given : List Char) : Blanks (given.takeWhile isSpace) := by
  intro c member
  have space := List.mem_takeWhile_imp member
  simp only [isSpace, Bool.or_eq_true, beq_iff_eq, or_assoc] at space
  exact space

/-- What stands in front of the first visible character are blanks. -/
theorem exists_blanks (given : List Char) :
    ∃ before, Blanks before ∧ given = before ++ skipSpace given :=
  ⟨_, blanks_takeWhile given, List.takeWhile_append_dropWhile.symm⟩

theorem Blanks.append {text other : List Char} (blanks : Blanks text) (more : Blanks other) :
    Blanks (text ++ other) := by
  intro c member
  rcases List.mem_append.mp member with member | member
  · exact blanks c member
  · exact more c member

theorem ident_finds (word : List Char) : Finds (ident word) fun _ text => text = word := by
  intro given x left read
  induction word generalizing given with
  | nil =>
    cases read
    exact ⟨[], rfl, rfl⟩
  | cons c word ih =>
    cases given with
    | nil => cases read
    | cons d given =>
      rw [ident] at read
      split at read
      · rename_i same
        obtain ⟨text, rfl, rfl⟩ := ih read
        exact ⟨d :: text, rfl, by rw [same]⟩
      · cases read

/-! ### Strings -/

theorem Hex.of_value {c : Char} {n : Nat} (value : Scan.hexValue? c = some n) : Hex c n := by
  have small : c.toNat < 128 := by
    unfold Scan.hexValue? at value
    split at value
    · rename_i digit
      have := Char.le_def.mp digit.2
      change c.toNat ≤ 57 at this
      omega
    · split at value
      · rename_i letter
        have := Char.le_def.mp letter.2
        change c.toNat ≤ 102 at this
        omega
      · split at value
        · rename_i letter
          have := Char.le_def.mp letter.2
          change c.toNat ≤ 70 at this
          omega
        · cases value
  have all : ∀ k < 128, ∀ n ∈ Scan.hexValue? (Char.ofNat k),
      n < 16 ∧ (Char.ofNat k = hexDigit n ∨ Char.ofNat k = Text.upperHexDigit n) := by
    decide
  have one := all c.toNat small n
  rw [Char.ofNat_toNat] at one
  exact one value

theorem Quad.of_hexes {a b c d : Char} {i j k l : Nat} (first : Hex a i) (second : Hex b j)
    (third : Hex c k) (fourth : Hex d l) :
    Quad [a, b, c, d] (((i * 16 + j) * 16 + k) * 16 + l) := by
  have bounds : j < 16 ∧ k < 16 ∧ l < 16 := ⟨second.1, third.1, fourth.1⟩
  refine ⟨a, b, c, d, rfl, ?_, ?_, ?_, ?_⟩
  · rwa [show (((i * 16 + j) * 16 + k) * 16 + l) / 0x1000 = i by omega]
  · rwa [show (((i * 16 + j) * 16 + k) * 16 + l) / 0x100 % 0x10 = j by omega]
  · rwa [show (((i * 16 + j) * 16 + k) * 16 + l) / 0x10 % 0x10 = k by omega]
  · rwa [show (((i * 16 + j) * 16 + k) * 16 + l) % 0x10 = l by omega]

theorem hex4_finds : Finds Scan.hex4 fun unit digits => Quad digits unit := by
  intro given unit left read
  unfold Scan.hex4 at read
  split at read
  · rename_i a b c d rest
    split at read
    · rename_i first second third fourth
      cases read
      exact ⟨[a, b, c, d], rfl,
        .of_hexes (.of_value first) (.of_value second) (.of_value third) (.of_value fourth)⟩
    · cases read
  · cases read

theorem mem_shortEscapes {c letter : Char} (escaped : Scan.shortEscape? letter = some c) :
    (c, letter) ∈ shortEscapes := by
  unfold Scan.shortEscape? at escaped
  split at escaped <;> cases escaped <;> decide

section Units

open Text.Utf16

theorem lowHalf_finds {high : Nat} {digits : List Char} (upper : Quad digits high)
    (surrogate : isHighSurrogate (UInt16.ofNat high) = true) :
    Finds (Scan.lowHalf high) fun c text => Spells c ('\\' :: 'u' :: digits ++ text) := by
  intro given c left read
  unfold Scan.lowHalf at read
  split at read
  · cases read
  · cases read
  · split at read
    · cases read
    · rename_i low more hexed
      split at read
      · rename_i lowSurrogate
        obtain ⟨rfl, rfl⟩ := Prod.mk.inj (Except.ok.inj read)
        obtain ⟨second, rfl, lower⟩ := hex4_finds hexed
        rw [isHighSurrogate_iff, toNat_ofNat upper.lt] at surrogate
        rw [isLowSurrogate_iff, toNat_ofNat lower.lt] at lowSurrogate
        have number : (joined (UInt16.ofNat high) (UInt16.ofNat low)).toNat =
            0x10000 + (high - 0xD800) * 0x400 + (low - 0xDC00) := by
          rw [joined, toNat_ofNat upper.lt, toNat_ofNat lower.lt, toNat_charOfNat (by omega)]
        refine ⟨'\\' :: 'u' :: second, rfl, .pair (by omega) ?_ ?_⟩
        · rwa [number, show 0xD800 +
            (0x10000 + (high - 0xD800) * 0x400 + (low - 0xDC00) - 0x10000) / 0x400 = high by omega]
        · rwa [number, show 0xDC00 +
            (0x10000 + (high - 0xD800) * 0x400 + (low - 0xDC00) - 0x10000) % 0x400 = low by omega]
      · cases read
  · cases read

/-- What an escape is read as, it spells. -/
theorem escape_finds : Finds Scan.escape fun c text => Spells c ('\\' :: text) := by
  intro given c left read
  unfold Scan.escape at read
  split at read
  · cases read
  · split at read
    · cases read
    · rename_i unit more hexed
      obtain ⟨digits, rfl, quad⟩ := hex4_finds hexed
      split at read
      · cases read
      · rename_i notLow
        split at read
        · rename_i high
          obtain ⟨text, rfl, spells⟩ := lowHalf_finds quad high read
          exact ⟨'u' :: digits ++ text, by simp, spells⟩
        · rename_i notHigh
          obtain ⟨rfl, rfl⟩ := Prod.mk.inj (Except.ok.inj read)
          have small := quad.lt
          rw [isLowSurrogate_iff, toNat_ofNat small] at notLow
          rw [isHighSurrogate_iff, toNat_ofNat small] at notHigh
          have number : (Char.ofNat unit).toNat = unit := toNat_charOfNat (by omega)
          exact ⟨'u' :: digits, rfl, .unit (by rwa [number]) (by rwa [number])⟩
  · rename_i letter more _
    split at read
    · rename_i escaped
      cases read
      exact ⟨[letter], rfl, .short (mem_shortEscapes escaped)⟩
    · cases read

end Units

theorem stringSteps_finds (fuel : Nat) :
    Finds (Scan.stringSteps fuel) fun text body =>
      ∃ inside, body = inside ++ ['"'] ∧ Spelled text inside := by
  intro given text left read
  induction fuel generalizing given text with
  | zero => cases read
  | succ fuel ih =>
    cases given with
    | nil => cases read
    | cons c rest =>
      rw [Scan.stringSteps] at read
      split at read
      · rename_i quotation
        cases read
        exact ⟨['"'], by rw [quotation]; rfl, [], rfl, .nil⟩
      · rename_i noQuotation
        split at read
        · rename_i backslash
          split at read
          · cases read
          · rename_i d more escaped
            obtain ⟨⟨found, left'⟩, steps, made⟩ := map_eq_ok read
            cases made
            obtain ⟨piece, rfl, spells⟩ := escape_finds escaped
            obtain ⟨_, rfl, inside, rfl, spelled⟩ := ih steps
            refine ⟨'\\' :: piece ++ (inside ++ ['"']), by simp [backslash], _, ?_,
              .cons spells spelled⟩
            simp
        · rename_i noBackslash
          split at read
          · cases read
          · rename_i visible
            obtain ⟨⟨found, left'⟩, steps, made⟩ := map_eq_ok read
            cases made
            obtain ⟨_, rfl, inside, rfl, spelled⟩ := ih steps
            have bare : Bare c := ⟨Nat.not_lt.mp visible, noQuotation, noBackslash⟩
            exact ⟨c :: inside ++ ['"'], rfl, c :: inside, rfl, .cons (.bare bare) spelled⟩

theorem stringBody_finds :
    Finds stringBody fun text body =>
      ∃ inside, body = inside ++ ['"'] ∧ Spelled text.toList inside := by
  intro given text left read
  obtain ⟨⟨chars, left'⟩, steps, made⟩ := map_eq_ok read
  cases made
  obtain ⟨body, same, inside, enclosed, spelled⟩ := stringSteps_finds _ steps
  exact ⟨body, same, inside, enclosed, by rwa [String.toList_ofList]⟩

theorem skippedEscape_finds {given left : List Char}
    (read : Scan.skippedEscape given = .ok ((), left)) :
    ∃ text, given = text ++ left ∧ ∀ body, Strung body → Strung ('\\' :: text ++ body) := by
  unfold Scan.skippedEscape at read
  split at read
  · cases read
  · split at read
    · cases read
    · rename_i unit more hexed
      cases read
      obtain ⟨digits, rfl, quad⟩ := hex4_finds hexed
      exact ⟨'u' :: digits, rfl, fun body strung => .unit quad strung⟩
  · rename_i letter more _
    split at read
    · rename_i escaped
      cases read
      exact ⟨[letter], rfl, fun body strung => .short (mem_shortEscapes escaped) strung⟩
    · cases read

theorem skippedStringSteps_finds (fuel : Nat) :
    Finds (Scan.skippedStringSteps fuel) fun _ body =>
      ∃ inside, body = inside ++ ['"'] ∧ Strung inside := by
  intro given nothing left read
  induction fuel generalizing given with
  | zero => cases read
  | succ fuel ih =>
    cases given with
    | nil => cases read
    | cons c rest =>
      rw [Scan.skippedStringSteps] at read
      split at read
      · rename_i quotation
        cases read
        exact ⟨['"'], by rw [quotation]; rfl, [], rfl, .nil⟩
      · rename_i noQuotation
        split at read
        · rename_i backslash
          split at read
          · cases read
          · rename_i more escaped
            obtain ⟨piece, rfl, strung⟩ := skippedEscape_finds escaped
            obtain ⟨_, rfl, inside, rfl, others⟩ := ih read
            refine ⟨'\\' :: piece ++ (inside ++ ['"']), by simp [backslash], _, ?_,
              strung inside others⟩
            simp
        · rename_i noBackslash
          split at read
          · cases read
          · rename_i visible
            obtain ⟨_, rfl, inside, rfl, others⟩ := ih read
            have bare : Bare c := ⟨Nat.not_lt.mp visible, noQuotation, noBackslash⟩
            exact ⟨c :: inside ++ ['"'], rfl, c :: inside, rfl, .bare bare others⟩

theorem skippedString_finds :
    Finds skippedString fun _ body => ∃ inside, body = inside ++ ['"'] ∧ Strung inside :=
  fun _ _ _ read => skippedStringSteps_finds _ read

/-- What spells a text may stand between quotation marks. -/
theorem Spelled.strung {text body : List Char} (spelled : Spelled text body) : Strung body := by
  induction spelled with
  | nil => exact .nil
  | cons spells _ ih =>
    cases spells with
    | bare bare => exact .bare bare ih
    | short listed => exact .short listed ih
    | unit _ quad => exact .unit quad ih
    | pair _ upper lower =>
      rw [List.append_assoc]
      exact .unit upper (.unit lower ih)

/-! ### Numbers -/

namespace Numeral

theorem digits_takeWhile (text : List Char) :
    ∀ d ∈ text.takeWhile Text.isDigit, Text.isDigit d = true :=
  fun _ member => List.mem_takeWhile_imp member

theorem scanDigits_finds (atEnd : Error) :
    Finds (scanDigits atEnd) fun digits text => text = digits ∧ Digits digits := by
  intro given digits left read
  unfold scanDigits at read
  split at read
  · cases read
  · split at read
    · rename_i c rest digit
      cases read
      refine ⟨_, ?_, rfl, List.cons_ne_nil _ _, ?_⟩
      · rw [List.cons_append, List.takeWhile_append_dropWhile]
      · exact List.forall_mem_cons.mpr ⟨digit, digits_takeWhile rest⟩
    · cases read

theorem scanWhole_finds (atEnd : Error) :
    Finds (scanWhole atEnd) fun whole text => text = whole ∧ Proper whole := by
  intro given whole left read
  unfold scanWhole at read
  split at read
  · cases read
  · split at read
    · cases read
    · cases read
      exact ⟨['0'], rfl, rfl, .inl rfl⟩
  · rename_i c rest nonzero
    split at read
    · rename_i digit
      cases read
      have all : ∀ d ∈ c :: rest.takeWhile Text.isDigit, Text.isDigit d = true :=
        List.forall_mem_cons.mpr ⟨digit, digits_takeWhile rest⟩
      refine ⟨_, ?_, rfl, .inr ⟨c, _, rfl, nonzero, all⟩⟩
      rw [List.cons_append, List.takeWhile_append_dropWhile]
    · cases read

theorem scanFraction_finds (atEnd : Error) :
    Finds (scanFraction atEnd) fun fraction text =>
      text = (if fraction = [] then [] else '.' :: fraction) ∧
        ∀ d ∈ fraction, Text.isDigit d = true := by
  intro given fraction left read
  unfold scanFraction at read
  split at read
  · obtain ⟨fraction, rfl, rfl, filled, all⟩ := scanDigits_finds atEnd read
    exact ⟨'.' :: fraction, rfl, (if_neg filled).symm, all⟩
  · cases read
    exact ⟨[], rfl, rfl, nofun⟩

theorem scanSign_finds {given left : List Char} {negative : Bool}
    (read : scanSign given = (negative, left)) :
    ∃ sign, given = sign ++ left ∧
      if negative then sign = ['-'] else sign = [] ∨ sign = ['+'] := by
  unfold scanSign at read
  split at read <;> cases read
  · exact ⟨['+'], rfl, .inr rfl⟩
  · exact ⟨['-'], rfl, rfl⟩
  · exact ⟨[], rfl, .inl rfl⟩

theorem scanExponent_finds (atEnd : Error) : Finds (scanExponent atEnd) Exponent := by
  intro given exponent left read
  unfold scanExponent at read
  split at read
  · rename_i c rest
    split at read
    · rename_i lettered
      obtain ⟨negative, behind, signs⟩ : ∃ negative behind, scanSign rest = (negative, behind) :=
        ⟨_, _, rfl⟩
      rw [signs] at read
      obtain ⟨⟨digits, left'⟩, counted, made⟩ := map_eq_ok read
      cases made
      obtain ⟨sign, rfl, signed⟩ := scanSign_finds signs
      obtain ⟨digits, rfl, rfl, filled⟩ := scanDigits_finds atEnd counted
      refine ⟨c :: (sign ++ digits), ?_, .present lettered signed filled⟩
      rw [List.cons_append, List.append_assoc]
    · cases read
      exact ⟨[], rfl, .absent⟩
  · cases read
    exact ⟨[], rfl, .absent⟩

theorem scanMagnitude_finds (negative : Bool) (atEnd : Error) :
    Finds (scanMagnitude negative atEnd) fun n text =>
      Figured n ((if negative then ['-'] else []) ++ text) := by
  intro given n left read
  unfold scanMagnitude at read
  obtain ⟨⟨whole, afterWhole⟩, first, read⟩ := andThen_eq_ok read
  obtain ⟨⟨fraction, afterFraction⟩, second, read⟩ := andThen_eq_ok read
  obtain ⟨⟨exponent, afterExponent⟩, third, read⟩ := andThen_eq_ok read
  cases read
  obtain ⟨whole, rfl, rfl, proper⟩ := scanWhole_finds atEnd first
  obtain ⟨_, rfl, rfl, all⟩ := scanFraction_finds atEnd second
  obtain ⟨tail, rfl, written⟩ := scanExponent_finds atEnd third
  refine ⟨whole ++ (if fraction = [] then [] else '.' :: fraction) ++ tail, ?_, ?_⟩
  · simp only [List.append_assoc]
  · have figured : Figured ⟨negative, whole, fraction, exponent⟩ _ := .mk proper all written
    simpa only [List.append_assoc] using figured

theorem scan_finds (atEnd : Error) : Finds (scan atEnd) Figured := by
  intro given n left read
  by_cases signed : ∃ rest, given = '-' :: rest
  · obtain ⟨rest, rfl⟩ := signed
    obtain ⟨text, rfl, figured⟩ := scanMagnitude_finds true atEnd read
    exact ⟨'-' :: text, rfl, figured⟩
  · rw [scan_of_unsigned atEnd fun more same => signed ⟨more, same⟩] at read
    exact scanMagnitude_finds false atEnd read

end Numeral

end PresenceSeal.Json
