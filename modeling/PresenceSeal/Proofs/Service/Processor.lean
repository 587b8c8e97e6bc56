import PresenceSeal.Proofs.Platform.Version
import PresenceSeal.Proofs.Request.Exchange

/-! What the status of a security processor says. Probing goes as far as the processor lets
it, and every way in which it can end is a status: the processor cannot be opened, its
platform type names a version that is good enough, or neither. -/
namespace PresenceSeal

namespace Processor

section

variable (processor : Processor δ) (s : Surroundings δ)

/-- The processor cannot be opened. -/
def Closed : Prop := ∃ status after, processor.acquire.run.run s = (.error status, after)

/-- The processor can be opened, and then tells a platform type. -/
def Tells (platformType : String) : Prop :=
  ∃ handle opened after, processor.acquire.run.run s = (.ok handle, opened) ∧
    (processor.platformType handle).run.run opened = (.ok platformType, after)

/-- The version that the processor's platform type names is good enough. -/
def Usable : Prop :=
  ∃ platformType number, processor.Tells s platformType ∧
    Version.Names number platformType.toList ∧ 2 ≤ number ∧ number < 2 ^ 32

/-- What comes of probing a processor, by how far it goes. -/
inductive Probed : Except Fault TpmStatus → Prop where
  | closed (reason : String) (closed : processor.Closed s) :
      Probed (.error (.tpmUnsupported reason))
  | silent (reason : String) (opened : ¬ processor.Closed s)
      (silent : ∀ platformType, ¬ processor.Tells s platformType) :
      Probed (.error (.tpmVersion reason))
  | nameless (reason : String) {platformType : String} (tells : processor.Tells s platformType)
      (nameless : ∀ number, Version.major platformType ≠ .ok number) :
      Probed (.error (.tpmVersion reason))
  | named {platformType : String} {number : Nat} (tells : processor.Tells s platformType)
      (read : Version.major platformType = .ok number) :
      Probed (.ok (if number < Version.minimum then .versionUnsupported else .supported))

/-- What a status says of a processor. -/
def HasStatus : TpmStatus → Prop
  | .unsupported => processor.Closed s
  | .supported => processor.Usable s
  | .versionUnsupported => ¬ processor.Closed s ∧ ¬ processor.Usable s

end

variable {processor : Processor δ} {s : Surroundings δ}

theorem Tells.not_closed {platformType : String} (tells : processor.Tells s platformType) :
    ¬ processor.Closed s := by
  obtain ⟨handle, opened, -, acquired, -⟩ := tells
  rintro ⟨status, after, failed⟩
  cases acquired.symm.trans failed

theorem Tells.unique {platformType other : String} (tells : processor.Tells s platformType)
    (tells' : processor.Tells s other) : platformType = other := by
  obtain ⟨handle, opened, after, acquired, told⟩ := tells
  obtain ⟨handle', opened', after', acquired', told'⟩ := tells'
  cases acquired.symm.trans acquired'
  cases told.symm.trans told'
  rfl

theorem Usable.not_closed (usable : processor.Usable s) : ¬ processor.Closed s := by
  obtain ⟨platformType, number, tells, -⟩ := usable
  exact tells.not_closed

/-- With its platform type told, a processor is usable by the version that is read of it. -/
theorem Tells.usable_iff {platformType : String} (tells : processor.Tells s platformType) :
    processor.Usable s ↔
      ∃ number, Version.major platformType = .ok number ∧ Version.minimum ≤ number := by
  constructor
  · rintro ⟨other, number, tells', names, enough, fits⟩
    obtain rfl := tells.unique tells'
    exact ⟨number, Version.major_eq_ok_iff.mpr ⟨fits, names⟩, enough⟩
  · rintro ⟨number, read, enough⟩
    obtain ⟨fits, names⟩ := Version.major_eq_ok_iff.mp read
    exact ⟨platformType, number, tells, names, enough, fits⟩

theorem HasStatus.unique {status other : TpmStatus} (has : processor.HasStatus s status)
    (has' : processor.HasStatus s other) : status = other := by
  cases status with
  | supported =>
    cases other with
    | supported => rfl
    | unsupported => exact absurd has' (Usable.not_closed has)
    | versionUnsupported => exact absurd has has'.2
  | unsupported =>
    cases other with
    | supported => exact absurd has (Usable.not_closed has')
    | unsupported => rfl
    | versionUnsupported => exact absurd has has'.1
  | versionUnsupported =>
    cases other with
    | supported => exact absurd has' has.2
    | unsupported => exact absurd has' has.1
    | versionUnsupported => rfl

/-! ### The class directory -/

variable {folder : Option Folder} {place : Surroundings Station}

theorem closed_classFolder_iff : (classFolder folder).Closed place ↔ folder = none := by
  cases folder with
  | none => exact iff_of_true ⟨_, _, rfl⟩ rfl
  | some folder =>
    refine iff_of_false ?_ nofun
    rintro ⟨status, after, failed⟩
    cases failed

/-- A platform type is made of a version file that is text. -/
theorem tells_classFolder_iff {platformType : String} :
    (classFolder folder).Tells place platformType ↔
      ∃ contents, folder = some ⟨some (Text.utf8 contents)⟩ ∧
        platformType = typeOfVersion contents := by
  constructor
  · rintro ⟨handle, opened, after, acquired, told⟩
    cases folder with
    | none => cases acquired
    | some folder =>
      obtain ⟨_ | bytes⟩ := folder
      · cases told
      · simp only [classFolder, Option.bind_some] at told
        cases text : Text.ofUtf8? bytes with
        | none =>
          rw [text] at told
          cases told
        | some contents =>
          rw [text] at told
          cases told
          exact ⟨contents, by rw [Text.ofUtf8?_eq_some_iff.mp text], rfl⟩
  · rintro ⟨contents, rfl, rfl⟩
    refine ⟨⟨0⟩, place, place, rfl, ?_⟩
    simp only [classFolder, Option.bind_some, Text.ofUtf8?_eq_some_iff.mpr rfl]
    rfl

theorem usable_classFolder_iff :
    (classFolder folder).Usable place ↔
      ∃ contents number, folder = some ⟨some (Text.utf8 contents)⟩ ∧
        Text.Leads number (Text.trim contents.toList) ∧ 2 ≤ number ∧ number < 2 ^ 32 := by
  constructor
  · rintro ⟨platformType, number, tells, names, enough, fits⟩
    obtain ⟨contents, found, rfl⟩ := tells_classFolder_iff.mp tells
    exact ⟨contents, number, found, names_typeOfVersion_iff.mp names, enough, fits⟩
  · rintro ⟨contents, number, found, leads, enough, fits⟩
    exact ⟨typeOfVersion contents, number, tells_classFolder_iff.mpr ⟨contents, found, rfl⟩,
      names_typeOfVersion_iff.mpr leads, enough, fits⟩

end Processor

theorem TpmStatus.number_inj {status other : TpmStatus} :
    status.number = other.number ↔ status = other := by
  cases status <;> cases other <;> decide

/-- The status that an outcome comes to: what is wrong with a processor is no failure. -/
def TpmStatus.settle : Except Fault TpmStatus → Except Fault TpmStatus
  | .error (.tpmUnsupported _) => .ok .unsupported
  | .error (.tpmVersion _) => .ok .versionUnsupported
  | outcome => outcome

/-- However the probing ends, it comes to the status that the processor has. -/
theorem Processor.Probed.settle {processor : Processor δ} {s : Surroundings δ}
    {outcome : Except Fault TpmStatus} (probed : processor.Probed s outcome) :
    ∃ status, TpmStatus.settle outcome = .ok status ∧ processor.HasStatus s status := by
  cases probed with
  | closed reason closed => exact ⟨.unsupported, rfl, closed⟩
  | silent reason opened silent =>
    refine ⟨.versionUnsupported, rfl, opened, ?_⟩
    rintro ⟨platformType, number, tells, -⟩
    exact silent platformType tells
  | nameless reason tells nameless =>
    refine ⟨.versionUnsupported, rfl, tells.not_closed, ?_⟩
    rw [tells.usable_iff]
    rintro ⟨number, read, -⟩
    exact nameless number read
  | @named platformType number tells read =>
    by_cases few : number < Version.minimum
    · rw [if_pos few]
      refine ⟨.versionUnsupported, rfl, tells.not_closed, ?_⟩
      rw [tells.usable_iff]
      rintro ⟨other, read', enough⟩
      cases read.symm.trans read'
      exact absurd few (Nat.not_lt.mpr enough)
    · rw [if_neg few]
      exact ⟨.supported, rfl, tells.usable_iff.mpr ⟨number, read, Nat.not_lt.mp few⟩⟩

namespace Oracle

/-- Probing a processor comes to an end of one of four kinds. -/
theorem probed (processor : Processor δ) (scene : Scene δ) :
    processor.Probed scene.surroundings ((probe processor).run.run scene).1 := by
  obtain ⟨answer, opened, acquired⟩ : ∃ answer opened,
      processor.acquire.run.run scene.surroundings = (answer, opened) := ⟨_, _, rfl⟩
  rw [probe, Attempt.run_bind, run_asked, acquired]
  cases answer with
  | error status => exact .closed _ ⟨status, opened, acquired⟩
  | ok handle =>
    have unclosed : ¬ processor.Closed scene.surroundings := by
      rintro ⟨status, after, failed⟩
      cases acquired.symm.trans failed
    simp only []
    rw [Attempt.run_endingWith, judge, Attempt.run_bind, run_asked]
    obtain ⟨answer, after, told⟩ : ∃ answer after,
        (processor.platformType handle).run.run opened = (answer, after) := ⟨_, _, rfl⟩
    simp only [told]
    cases answer with
    | error status =>
      refine .silent _ unclosed ?_
      rintro platformType ⟨handle', opened', after', acquired', told'⟩
      cases acquired.symm.trans acquired'
      cases told.symm.trans told'
    | ok platformType =>
      have tells : processor.Tells scene.surroundings platformType :=
        ⟨handle, opened, after, acquired, told⟩
      simp only []
      rw [Attempt.run_bind, Attempt.run_ofExcept]
      cases read : Version.major platformType with
      | error fault =>
        obtain ⟨reason, rfl⟩ := Version.fault_of_major read
        exact .nameless reason tells (by simp [read])
      | ok number => exact .named tells read

end Oracle

namespace Service

theorem fst_tpmStatus (service : Service δ) (session : Session δ) :
    (service.tpmStatus.run.run session).1 =
      (TpmStatus.settle (service.oracle.platformStatus.run.run session.scene).1).map
        TpmStatus.number := by
  rw [tpmStatus, Attempt.run_bind, Attempt.run_outcome, Part.run_attempt]
  obtain ⟨outcome, scene, ran⟩ : ∃ outcome scene,
      service.oracle.platformStatus.run.run session.scene = (outcome, scene) := ⟨_, _, rfl⟩
  simp only [Session.components, ran]
  unfold TpmStatus.settle
  cases outcome with
  | ok status => rfl
  | error fault => cases fault <;> rfl

/-- Over any platform, the processor's status is a number and never a failure. -/
theorem exists_tpmStatus {service : Service δ} {processor : Processor δ} {keyring : Keyring δ}
    (built : service.oracle = .ofPlatform processor keyring) (session : Session δ) :
    ∃ status, (service.tpmStatus.run.run session).1 = .ok status.number ∧
      processor.HasStatus session.scene.surroundings status := by
  obtain ⟨status, settled, has⟩ := (Oracle.probed processor session.scene).settle
  refine ⟨status, ?_, has⟩
  rw [fst_tpmStatus, built, Oracle.ofPlatform, settled]
  rfl

/-- The method answers with the number of the status, whatever arguments it is given. -/
theorem exists_reply_tpmStatus {service : Service δ} {processor : Processor δ}
    {keyring : Keyring δ} (built : service.oracle = .ofPlatform processor keyring)
    (arguments : Option Json) (session : Session δ) :
    ∃ status, (service.exchange ⟨"getTPMStatus", arguments⟩ session).reply =
        .success (.int status.number) ∧
      processor.HasStatus session.scene.surroundings status := by
  let asking := session.noting .debug "handling method call"
  obtain ⟨status, told, has⟩ := exists_tpmStatus built asking
  refine ⟨status, ?_, has⟩
  have named : Method.ofName? "getTPMStatus" = some .getTpmStatus := rfl
  have called : Method.getTpmStatus.call arguments = .ok .getTpmStatus := by
    simp only [Method.call, Method.members, Method.required, List.isEmpty_nil, ↓reduceIte]
    split <;> rfl
  obtain ⟨outcome, after, ran⟩ : ∃ outcome after,
      service.tpmStatus.run.run asking = (outcome, after) := ⟨_, _, rfl⟩
  obtain rfl : outcome = .ok status.number := by rw [← told, ran]
  have performed : (service.perform .getTpmStatus).run.run asking =
      (.ok (.int status.number), after) := by
    rw [perform, Attempt.run_bind, ran]
    rfl
  exact (service.exchange_of_perform (Request.call?_of_call named called) performed).1

theorem reply_tpmStatus_iff {service : Service δ} {processor : Processor δ} {keyring : Keyring δ}
    (built : service.oracle = .ofPlatform processor keyring) {arguments : Option Json}
    {session : Session δ} (status : TpmStatus) :
    (service.exchange ⟨"getTPMStatus", arguments⟩ session).reply = .success (.int status.number) ↔
      processor.HasStatus session.scene.surroundings status := by
  obtain ⟨found, replied, has⟩ := exists_reply_tpmStatus built arguments session
  have same : Reply.success (.int found.number) = .success (.int status.number) ↔
      found = status := by
    simp only [Reply.success.injEq, Json.int, Json.number.injEq, Json.Number.integer.injEq,
      Int.natCast_inj, TpmStatus.number_inj]
  rw [replied, same]
  constructor
  · rintro rfl
    exact has
  · exact has.unique

end Service

/-- A processor's status is 1 where it cannot be opened, 0 where its platform type names a
version that is good enough, and 2 otherwise, whatever the processor does. Of a platform type
the version that it names is read, and nothing else is; a class directory's is the number in
front of the trimmed text of its file. -/
theorem Processor.status_is_exact :
    (∀ (δ : Type) (processor : Processor δ) (keyring : Keyring δ) (vault : Vault δ)
        (codec : Codec δ) (arguments : Option Json) (session : Session δ),
      let service : Service δ := ⟨.ofPlatform processor keyring, vault, codec⟩
      let reply := (service.exchange ⟨"getTPMStatus", arguments⟩ session).reply
      let s := session.scene.surroundings
      (reply = .success (.int 1) ↔ processor.Closed s) ∧
      (reply = .success (.int 0) ↔ processor.Usable s) ∧
      (reply = .success (.int 2) ↔ ¬ processor.Closed s ∧ ¬ processor.Usable s)) ∧
    (∀ platformType number, Version.major platformType = .ok number ↔
      number < 2 ^ 32 ∧ Version.Names number platformType.toList) ∧
    (∀ platformType fault, Version.major platformType = .error fault →
      ∃ reason, fault = .tpmVersion reason) ∧
    (∀ contents number, Version.major (typeOfVersion contents) = .ok number ↔
      number < 2 ^ 32 ∧ Text.Leads number (Text.trim contents.toList)) ∧
    ∀ folder s, ((classFolder folder).Closed s ↔ folder = none) ∧
      ((classFolder folder).Usable s ↔
        ∃ contents number, folder = some ⟨some (Text.utf8 contents)⟩ ∧
          Text.Leads number (Text.trim contents.toList) ∧ 2 ≤ number ∧ number < 2 ^ 32) := by
  refine ⟨?_, fun _ _ => Version.major_eq_ok_iff, fun _ _ => Version.fault_of_major, ?_,
    fun _ _ => ⟨closed_classFolder_iff, usable_classFolder_iff⟩⟩
  · intro δ processor keyring vault codec arguments session service reply s
    have built : service.oracle = .ofPlatform processor keyring := rfl
    exact ⟨Service.reply_tpmStatus_iff built .unsupported,
      Service.reply_tpmStatus_iff built .supported,
      Service.reply_tpmStatus_iff built .versionUnsupported⟩
  · intro contents number
    rw [Version.major_eq_ok_iff, names_typeOfVersion_iff]

end PresenceSeal
