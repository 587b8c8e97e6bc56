import PresenceSeal.Proofs.Request.Validation
import PresenceSeal.Proofs.Service.Course
import PresenceSeal.Proofs.Service.Upkeep
import PresenceSeal.Proofs.Text.Word

/-! What is told of a platform's refusal. A status without meaning is told in full, so that it
can be read back from the message; every other is told in the same way whatever was refused,
but for a deletion of what is not there. -/
namespace PresenceSeal

open Host.Wiring (creationFault deletionOutcome)

/-- What a platform is asked to do with a credential. -/
inductive Operation where
  | create
  | delete
  | sign
  deriving DecidableEq

namespace Operation

/-- What is told of a refusal. -/
inductive Tells : Operation → Refusal → Reply → Prop where
  | created {raw digits} : Text.Hexadecimal 8 digits (raw.toInt % 2 ^ 32).toNat →
      Tells .create (.other raw) (.error .generateKeyError
        ("generate key error: create credential failed: 0x" ++ String.ofList digits))
  | deleted {raw digits} : Text.Hexadecimal 8 digits (raw.toInt % 2 ^ 32).toNat →
      Tells .delete (.other raw) (.error .deleteKeyError
        ("delete key error: delete credential failed: 0x" ++ String.ofList digits))
  | signed {raw} : Tells .sign (.other raw) (.error .unknownError
      ("unknown error: unmapped credential store status " ++ toString raw.toInt))
  | absent : Tells .delete .notFound (.success .null)
  | meant {operation refusal} : (∀ raw, refusal ≠ .other raw) →
      (operation = .delete → refusal ≠ .notFound) →
      Tells operation refusal (.ofFault refusal.fault)

/-- The status that a message tells: by its last eight digits, or by its last word. -/
def status (operation : Operation) (message : String) : Int32 :=
  match operation with
  | create | delete => .ofInt (Text.ofUpperHex (message.toList.drop (message.length - 8)))
  | sign => .ofInt (Text.ofSignedDecimal (Text.lastWord message.toList))

theorem drop_of_hexadecimal (front : String) {digits : List Char} {number : Nat}
    (written : Text.Hexadecimal 8 digits number) :
    (front ++ String.ofList digits).toList.drop ((front ++ String.ofList digits).length - 8) =
      digits := by
  have length : (front ++ String.ofList digits).length - 8 = front.toList.length := by
    rw [String.length_append, String.length_ofList, written.length, Nat.add_sub_cancel,
      String.length_toList]
  rw [length, String.toList_append, String.toList_ofList, List.drop_left]

variable {operation : Operation} {refusal : Refusal} {reply : Reply}

/-- A status without meaning is read back from the message. -/
theorem Tells.status {raw : Int32} (tells : operation.Tells (.other raw) reply) :
    ∃ code message, reply = .error code message ∧ operation.status message = raw := by
  cases tells with
  | created written | deleted written =>
    refine ⟨_, _, rfl, ?_⟩
    rw [Operation.status, drop_of_hexadecimal _ written, written.word]
  | signed =>
    refine ⟨_, _, rfl, ?_⟩
    have spaced : "unknown error: unmapped credential store status " =
        "unknown error: unmapped credential store status" ++ " " := by decide
    rw [Operation.status, spaced, Text.lastWord_toString, Text.ofSignedDecimal_signedDecimal,
      Int32.ofInt_toInt]
  | meant meaningful => exact absurd rfl (meaningful raw)

theorem tells_creationFault (refusal : Refusal) :
    create.Tells refusal (.ofFault (creationFault refusal)) := by
  cases refusal with
  | other raw => exact .created (Text.hexadecimal_word raw)
  | _ => exact .meant nofun nofun

theorem tells_deletionOutcome (refusal : Refusal) :
    delete.Tells refusal (.ofOutcome ((deletionOutcome (.error refusal)).map fun _ => .null)) := by
  cases refusal with
  | other raw => exact .deleted (Text.hexadecimal_word raw)
  | notFound => exact .absent
  | _ => exact .meant nofun nofun

theorem tells_fault (refusal : Refusal) : sign.Tells refusal (.ofFault refusal.fault) := by
  cases refusal with
  | other raw =>
    rw [Refusal.fault, Text.ofList_signedDecimal]
    exact .signed
  | _ => exact .meant nofun nofun

end Operation

namespace Stack

/-- A request whose operation the platform refuses, while biometry is there. -/
inductive Refuses (stack : Stack δ) (request : Request) (session : Session δ) :
    Operation → Refusal → Prop where
  | creation {tag contacts probed scope held refusal after} :
      request.Makes (.generateKey tag) →
      Probing stack.keyring session.scene.surroundings contacts (.ok ()) probed →
      stack.keyring.foreground.run probed = (scope, held) →
      (stack.keyring.create tag stack.prompt).run.run held = (.error refusal, after) →
      Refuses stack request session .create refusal
  | deletion {tag contacts probed scope held refusal after} :
      request.Makes (.deleteKey tag) →
      Probing stack.keyring session.scene.surroundings contacts (.ok ()) probed →
      stack.keyring.foreground.run probed = (scope, held) →
      (stack.keyring.delete tag).run.run held = (.error refusal, after) →
      Refuses stack request session .delete refusal
  | opening {direction : Direction} {tag data seed contacts probed refusal after} :
      request.Makes (direction.call tag data) → session.register.seed? = some seed →
      Probing stack.keyring session.scene.surroundings contacts (.ok ()) probed →
      (stack.keyring.openCredential tag).run.run probed = (.error refusal, after) →
      Refuses stack request session .sign refusal
  | signature {direction : Direction} {tag data seed contacts probed credential opened scope held
        refusal after} :
      request.Makes (direction.call tag data) → session.register.seed? = some seed →
      Probing stack.keyring session.scene.surroundings contacts (.ok ()) probed →
      (stack.keyring.openCredential tag).run.run probed = (.ok credential, opened) →
      stack.keyring.foreground.run opened = (scope, held) →
      (credential.sign (Text.Utf16.encode seed.toList) stack.prompt).run.run held =
        (.error refusal, after) →
      Refuses stack request session .sign refusal

variable {stack : Stack δ}

theorem Upkeep.outcome_eq {work : Attempt (Surroundings δ) Refusal Unit}
    {judge : Except Refusal Unit → Except Fault Unit} {s probed held done after : Surroundings δ}
    {contacts : List Contact} {scope : Scope δ} {answer : Except Refusal Unit}
    {outcome : Except Fault Unit} (upkeep : stack.Upkeep work judge s outcome after)
    (probing : Probing stack.keyring s contacts (.ok ()) probed)
    (taken : stack.keyring.foreground.run probed = (scope, held))
    (answered : work.run.run held = (answer, done)) : outcome = judge answer := by
  cases upkeep with
  | barred barring => cases (probing.unique barring).2.1
  | answered again taken' answered' =>
    obtain ⟨-, -, rfl⟩ := probing.unique again
    obtain ⟨rfl, rfl⟩ := Prod.mk.inj (taken.symm.trans taken')
    rw [(Prod.mk.inj (answered.symm.trans answered')).1]

/-- A signature that fails is the end of its course. -/
theorem reply_of_signing {codec : Codec δ} {direction : Direction} {request : Request}
    {session : Session δ} {tag data seed : String} {stage : Stage} {contacts : List Contact}
    {fault : Fault} {after : Surroundings δ} (makes : request.Makes (direction.call tag data))
    (seeded : session.register.seed? = some seed)
    (signing : Signing stack tag (Text.Utf16.encode seed.toList) session.scene.surroundings stage
      contacts (.error fault) after) (early : stage ≠ .codec) :
    ((stack.service codec).exchange request session).reply = .ofFault fault := by
  have called := Request.makes_iff.mp makes
  obtain ⟨named, -⟩ := direction.of_call? called
  obtain ⟨stage', contacts', course, -⟩ := stack.course codec named session
  have failing : Course stack codec direction request session.register
      session.scene.surroundings stage contacts (.ofFault fault) after :=
    .unsigned called seeded signing
  exact ((failing.unique named course).2.2 early).1.symm

/-- A refusal is told as its operation tells it. -/
theorem Refuses.tells {request : Request} {session : Session δ} {operation : Operation}
    {refusal : Refusal} (refused : stack.Refuses request session operation refusal)
    (codec : Codec δ) :
    operation.Tells refusal ((stack.service codec).exchange request session).reply := by
  cases refused with
  | creation makes probing taken refused =>
    obtain ⟨outcome, creating, reply, -⟩ :=
      stack.exchange_of_generateKey (Request.makes_iff.mp makes) session
    rw [reply, Upkeep.outcome_eq creating probing taken refused]
    exact Operation.tells_creationFault refusal
  | deletion makes probing taken refused =>
    obtain ⟨outcome, deleting, reply, -⟩ :=
      stack.exchange_of_deleteKey (Request.makes_iff.mp makes) session
    rw [reply, Upkeep.outcome_eq deleting probing taken refused]
    exact Operation.tells_deletionOutcome refusal
  | opening makes seeded probing refused =>
    rw [reply_of_signing makes seeded (.unopened probing refused) nofun]
    exact Operation.tells_fault refusal
  | signature makes seeded probing opening taken refused =>
    rw [reply_of_signing makes seeded (.answered probing opening taken refused) nofun]
    exact Operation.tells_fault refusal

/-- Whatever status a platform refuses an operation with, the reply tells it: one without
meaning in full, so that it is read back and no two of them are told alike, and any other
whatever the operation was, but for a deletion of what is not there, which succeeds. -/
theorem statuses_are_told {request : Request} {session : Session δ} {operation : Operation}
    {refusal : Refusal} (refused : stack.Refuses request session operation refusal)
    (codec : Codec δ) :
    let reply := ((stack.service codec).exchange request session).reply
    operation.Tells refusal reply ∧
      ∀ raw, refusal = .other raw → ∃ code message, reply = .error code message ∧
        operation.status message = raw ∧
        ∀ distinct code' message', distinct ≠ raw →
          operation.Tells (.other distinct) (.error code' message') → message' ≠ message := by
  intro reply
  have tells : operation.Tells refusal reply := refused.tells codec
  refine ⟨tells, ?_⟩
  rintro raw rfl
  obtain ⟨code, message, replied, read⟩ := tells.status
  refine ⟨code, message, replied, read, fun distinct code' message' differs alike same => ?_⟩
  obtain ⟨_, _, replied', read'⟩ := alike.status
  obtain ⟨-, rfl⟩ := Reply.error.inj replied'
  exact differs (read'.symm.trans (same ▸ read))

/-- A creation that is refused with the sign bit set. -/
theorem denied_creation_is_told :
    let stack : Stack Simulated.Device := ⟨Simulated.processor, Simulated.keyring, {}⟩
    let denied : Refusal := .other (-2147024891)
    let session : Session Simulated.Device :=
      ⟨⟨⟨{ settings := { createOutcome := some denied } }, ⟨[]⟩⟩, []⟩, ⟨false, ""⟩⟩
    let request := Request.ofTexts "generateKey" [("tag", "t")]
    let reply := ((stack.service Codec.ofEnvelopes).exchange request session).reply
    stack.Refuses request session .create denied ∧ Operation.create.Tells denied reply ∧
      ∃ code message, reply = .error code message ∧
        Operation.create.status message = -2147024891 := by
  intro stack denied session request reply
  have makes : request.Makes (.generateKey "t") := Request.makes_iff.mpr rfl
  have refused : stack.Refuses request session .create denied :=
    .creation makes (.supported rfl) rfl rfl
  obtain ⟨tells, kept⟩ := statuses_are_told refused Codec.ofEnvelopes
  obtain ⟨code, message, replied, read, -⟩ := kept _ rfl
  exact ⟨refused, tells, code, message, replied, read⟩

end Stack

end PresenceSeal
