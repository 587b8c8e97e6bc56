import PresenceSeal.Consent.Gate
import PresenceSeal.Proofs.Text.Blank

/-! What a typed answer means, said of the answer itself: which word stands between
the blanks, whatever the case of its letters. Then what a desk answers. -/
namespace PresenceSeal

namespace Consent

/-- An answer that says a word: blanks around it and the case of ASCII letters do not
matter. -/
def Says (answer word : String) : Prop :=
  ∃ front core back, answer.toList = front ++ core ++ back ∧
    (∀ c ∈ front ++ back, Text.isBlank c) ∧ core.map Char.toLower = word.toList

theorem says_iff {answer word : String} (plain : word.toList.any Text.isBlank = false) :
    Says answer word ↔ (Text.trim answer.toList).map Char.toLower = word.toList := by
  constructor
  · rintro ⟨front, core, back, split, blank, spelled⟩
    have inside : ∀ c ∈ core, ¬ Text.isBlank c := by
      intro c member
      rw [← Text.isBlank_toLower]
      exact List.any_eq_false.mp plain _ (spelled ▸ List.mem_map_of_mem member)
    rw [split, Text.trim_surrounded blank inside, spelled]
  · intro spelled
    obtain ⟨front, back, split, blank⟩ := Text.exists_blanks_trim answer.toList
    exact ⟨front, _, back, split, blank, spelled⟩

def Approves (answer : String) : Prop := Says answer "y" ∨ Says answer "yes"

def WantsPassword (answer : String) : Prop := Says answer "p" ∨ Says answer "password"

theorem ofList_eq_iff {letters : List Char} {word : String} :
    String.ofList letters = word ↔ letters = word.toList := by
  constructor
  · rintro rfl
    exact String.toList_ofList.symm
  · rintro rfl
    exact String.ofList_toList

theorem approves_iff {answer : String} :
    Approves answer ↔
      String.ofList ((Text.trim answer.toList).map Char.toLower) = "y" ∨
        String.ofList ((Text.trim answer.toList).map Char.toLower) = "yes" := by
  rw [Approves, says_iff (by decide), says_iff (by decide), ofList_eq_iff, ofList_eq_iff]

theorem wantsPassword_iff {answer : String} :
    WantsPassword answer ↔
      String.ofList ((Text.trim answer.toList).map Char.toLower) = "p" ∨
        String.ofList ((Text.trim answer.toList).map Char.toLower) = "password" := by
  rw [WantsPassword, says_iff (by decide), says_iff (by decide), ofList_eq_iff, ofList_eq_iff]

instance (answer : String) : Decidable (Approves answer) :=
  decidable_of_iff _ approves_iff.symm

instance (answer : String) : Decidable (WantsPassword answer) :=
  decidable_of_iff _ wantsPassword_iff.symm

theorem Approves.not_wantsPassword {answer : String} (approves : Approves answer) :
    ¬ WantsPassword answer := by
  rw [approves_iff] at approves
  rw [wantsPassword_iff]
  rcases approves with word | word <;> rw [word] <;> decide

/-- The meaning of an answer, in terms of the word it says. -/
theorem interpret_eq (answer : String) :
    interpret answer =
      if Approves answer then .ok ()
      else if WantsPassword answer then .error .userPrefersPassword
      else .error .userCanceled := by
  simp only [interpret, approves_iff, wantsPassword_iff]

theorem interpret_eq_ok_iff {answer : String} : interpret answer = .ok () ↔ Approves answer := by
  rw [interpret_eq]
  by_cases approves : Approves answer
  · simp [approves]
  · by_cases password : WantsPassword answer <;> simp [approves, password]

example : interpret "\u00a0 YeS \n" = .ok () := by decide

theorem interpret_eq_userPrefersPassword_iff {answer : String} :
    interpret answer = .error .userPrefersPassword ↔ WantsPassword answer := by
  rw [interpret_eq]
  by_cases approves : Approves answer
  · simp [approves, approves.not_wantsPassword]
  · by_cases password : WantsPassword answer <;> simp [approves, password]

theorem interpret_eq_userCanceled_iff {answer : String} :
    interpret answer = .error .userCanceled ↔ ¬ Approves answer ∧ ¬ WantsPassword answer := by
  rw [interpret_eq]
  by_cases approves : Approves answer
  · simp [approves]
  · by_cases password : WantsPassword answer <;> simp [approves, password]

namespace Desk

/-- Consent as one step: what the desk answers to a prompt, and the desk afterwards. -/
def answer (desk : Desk) (prompt : Prompt) : Except Refusal Unit × Desk :=
  (Desk.confirm prompt).run.run desk

variable (desk : Desk) (prompt : Prompt)

theorem answer_eq_settle : desk.answer prompt = (desk.ask prompt).settle := rfl

/-- Whatever the answer, the user has been asked once. -/
theorem asked_answer : (desk.answer prompt).2.asked = prompt :: desk.asked := by
  obtain ⟨gate, asked, written, journal⟩ := desk
  cases gate with
  | scripted outcomes => cases outcomes <;> rfl
  | autoApprove | deny | terminal | noTerminal => rfl

theorem answer_of_terminal {answers : List String} (typed : desk.gate = .terminal answers) :
    (desk.answer prompt).1 = interpret (answers.headD "") ∧
      (desk.answer prompt).2.gate = .terminal answers.tail := by
  obtain ⟨gate, asked, written, journal⟩ := desk
  obtain rfl : gate = .terminal answers := typed
  simp only [answer_eq_settle, ask, settle, and_self]

theorem answer_of_noTerminal (missing : desk.gate = .noTerminal) :
    (desk.answer prompt).1 = .error .unknownError := by
  obtain ⟨gate, asked, written, journal⟩ := desk
  obtain rfl : gate = .noTerminal := missing
  rfl

end Desk

end Consent

end PresenceSeal
