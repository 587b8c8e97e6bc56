import PresenceSeal.Consent.Prompt
import PresenceSeal.Attempt
import PresenceSeal.Journal
import PresenceSeal.Platform.Outcome
import PresenceSeal.Text.Blank

/-! Consent: how a user's approval is obtained. Asking and settling are two steps,
since other work may go on while the user thinks; what is asked is remembered. -/
namespace PresenceSeal.Consent

/-- What a typed answer means: `y` and `yes` approve, `p` and `password` ask for the
password, anything else cancels. Blanks around it and the case of ASCII letters do
not matter. -/
def interpret (answer : String) : Except Refusal Unit :=
  let word := String.ofList ((Text.trim answer.toList).map Char.toLower)
  if word = "y" ∨ word = "yes" then .ok ()
  else if word = "p" ∨ word = "password" then .error .userPrefersPassword
  else .error .userCanceled

inductive Gate where
  | autoApprove
  | deny
  /-- These outcomes, one for each request; then approval. -/
  | scripted (outcomes : List (Except Refusal Unit))
  /-- These lines typed on the terminal, one for each request; then empty ones. -/
  | terminal (answers : List String)
  | noTerminal

/-- The place where users are asked. -/
structure Desk where
  gate : Gate
  /-- The prompts so far, the newest first. -/
  asked : List Prompt := []
  written : String := ""
  journal : Journal := []

/-- What a prompt looks like on the terminal. -/
def shown (prompt : Prompt) : String :=
  "\n" ++ prompt.title ++ "\n" ++ prompt.description ++ "\nApprove? [y/N, p = use password] "

namespace Desk

/-- Asks a user. On a terminal the prompt is written at once. -/
def ask (prompt : Prompt) (desk : Desk) : Desk :=
  let desk := { desk with asked := prompt :: desk.asked }
  match desk.gate with
  | .terminal _ => { desk with written := desk.written ++ shown prompt }
  | _ => desk

/-- The outcome of a request that has been asked. -/
def settle (desk : Desk) : Except Refusal Unit × Desk :=
  match desk.gate with
  | .autoApprove => (.ok (), desk)
  | .deny => (.error .userCanceled, desk)
  | .scripted [] => (.ok (), desk)
  | .scripted (outcome :: rest) => (outcome, { desk with gate := .scripted rest })
  | .terminal answers =>
    (interpret (answers.headD ""),
      { desk with
        gate := .terminal answers.tail
        journal := ⟨.debug, "consent prompt answered"⟩ :: desk.journal })
  | .noTerminal =>
    (.error .unknownError,
      { desk with
        journal := ⟨.error, "cannot open terminal for consent prompt"⟩ :: desk.journal })

def confirm (prompt : Prompt) : Attempt Desk Refusal Unit :=
  ExceptT.mk fun desk => (desk.ask prompt).settle

end Desk

end PresenceSeal.Consent
