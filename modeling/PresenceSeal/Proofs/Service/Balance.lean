import PresenceSeal.Platform.Simulated
import PresenceSeal.Proofs.Attempt.Keeps
import PresenceSeal.Proofs.Platform.Metered
import PresenceSeal.Proofs.Service.Upkeep

/-! What a request opens and takes, and that all of it comes back. The processor's handle and
the foreground scopes are given up on every path, whether the platform answers, refuses or
fails; how many there are depends on the call and on how far it gets. -/
namespace PresenceSeal

section Use

/-- The surroundings once biometry has been asked for, if it is supported. -/
def Keyring.granted? (keyring : Keyring δ) (s : Surroundings δ) : Option (Surroundings δ) :=
  let (supported, asked) := keyring.isSupported.run s
  if supported then some asked
  else
    let (answer, after) := keyring.availability.run asked
    if answer = .available then some after else none

/-- Whether biometry is supported and the credential of a tag can be opened. -/
def Keyring.opens (keyring : Keyring δ) (tag : String) (s : Surroundings δ) : Bool :=
  match keyring.granted? s with
  | some probed => ((keyring.openCredential tag).run.run probed).1.isOk
  | none => false

/-- The handles that a call opens. -/
def Stack.handles (stack : Stack δ) (call? : Option Call) (s : Surroundings δ) : List Handle :=
  match call? with
  | some .getTpmStatus => (stack.processor.acquire.run.run s).1.toOption.toList
  | _ => []

/-- How many scopes a call takes. -/
def Stack.scopes (stack : Stack δ) (call? : Option Call) (register : Register)
    (s : Surroundings δ) : Nat :=
  match call? with
  | some (.generateKey _) | some (.deleteKey _) =>
    if (stack.keyring.granted? s).isSome then 1 else 0
  | some (.encrypt tag _) | some (.decrypt tag _) =>
    if register.seed?.isSome && stack.keyring.opens tag s then 1 else 0
  | _ => 0

end Use

namespace Stack

variable {stack : Stack δ} {s after : Surroundings (Metered δ)}

open Metered (within)

theorem Probing.granted? {keyring : Keyring δ} {s after : Surroundings δ}
    {contacts : List Contact} {outcome : Except Fault Unit}
    (probing : Probing keyring s contacts outcome after) :
    keyring.granted? s = outcome.toOption.map fun _ => after := by
  cases probing with
  | supported supported => simp [Keyring.granted?, supported, Except.toOption]
  | available supported answered | unmapped supported answered =>
    simp [Keyring.granted?, supported, answered, Except.toOption]
  | unavailable supported answered missing =>
    simp [Keyring.granted?, supported, answered, missing, Except.toOption]

theorem Probing.unmetered {keyring : Keyring δ} {contacts : List Contact}
    {outcome : Except Fault Unit} (probing : Probing keyring.metered s contacts outcome after) :
    Probing keyring (within.get s) contacts outcome (within.get after) ∧
      after.ledger = s.ledger := by
  cases probing with
  | supported supported =>
    obtain ⟨bare, kept⟩ := Metered.of_run_lift supported
    exact ⟨.supported bare, kept⟩
  | available supported answered =>
    obtain ⟨bare, kept⟩ := Metered.of_run_lift supported
    obtain ⟨bare', kept'⟩ := Metered.of_run_lift answered
    exact ⟨.available bare bare', kept'.trans kept⟩
  | unavailable supported answered missing mapped =>
    obtain ⟨bare, kept⟩ := Metered.of_run_lift supported
    obtain ⟨bare', kept'⟩ := Metered.of_run_lift answered
    exact ⟨.unavailable bare bare' missing mapped, kept'.trans kept⟩
  | unmapped supported answered =>
    obtain ⟨bare, kept⟩ := Metered.of_run_lift supported
    obtain ⟨bare', kept'⟩ := Metered.of_run_lift answered
    exact ⟨.unmapped bare bare', kept'.trans kept⟩

/-- What an opened credential of a metered keyring signs with is not booked. -/
theorem openCredential_unmetered {keyring : Keyring δ} {tag : String}
    {outcome : Except Refusal (Credential (Metered δ))}
    (opening : (keyring.metered.openCredential tag).run.run s = (outcome, after)) :
    outcome = ((keyring.openCredential tag).run.run (within.get s)).1.map Credential.metered ∧
      after.ledger = s.ledger := by
  rw [Keyring.metered] at opening
  simp only [Attempt.run_bind, Part.run_attempt] at opening
  revert opening
  rcases (keyring.openCredential tag).run.run (within.get s) with ⟨refusal | credential, t⟩
  all_goals
    intro opening
    obtain ⟨rfl, rfl⟩ := Prod.mk.inj opening
    exact ⟨rfl, rfl⟩

/-- A scope of a metered keyring is booked when it is taken and when it is given up. -/
theorem foreground_unmetered {keyring : Keyring δ} {scope : Scope (Metered δ)}
    (taken : keyring.metered.foreground.run s = (scope, after)) (t : Surroundings (Metered δ)) :
    after.ledger = s.ledger.taking ∧
      (scope.release.run t).2.ledger = t.ledger.releasing := by
  obtain ⟨rfl, rfl⟩ := Prod.mk.inj taken
  exact ⟨rfl, rfl⟩

theorem Upkeep.settled {work : Attempt (Surroundings δ) Refusal Unit}
    {judge : Except Refusal Unit → Except Fault Unit} {outcome : Except Fault Unit}
    (upkeep : stack.metered.Upkeep (within.attempt work) judge s outcome after) :
    after.ledger = s.ledger.settled []
      (if (stack.keyring.granted? (within.get s)).isSome then 1 else 0) := by
  cases upkeep with
  | barred probing =>
    obtain ⟨bare, kept⟩ := probing.unmetered
    rw [bare.granted?, kept]
    exact s.ledger.settled_nothing.symm
  | @answered _ _ _ _ _ done probing taken asked =>
    obtain ⟨bare, kept⟩ := probing.unmetered
    obtain ⟨takes, releases⟩ := foreground_unmetered taken done
    rw [bare.granted?, releases, (Metered.of_run_lift asked).2, takes, kept]
    exact s.ledger.releasing_taking

/-- Signing takes a scope once the credential is open. -/
theorem Signing.settled {tag : String} {challenge : List UInt8} {stage : Stage}
    {contacts : List Contact} {outcome : Except Fault Secret.Buffer}
    (signing : Signing stack.metered tag challenge s stage contacts outcome after) :
    after.ledger = s.ledger.settled []
      (if stack.keyring.opens tag (within.get s) then 1 else 0) := by
  cases signing with
  | barred probing =>
    obtain ⟨bare, kept⟩ := probing.unmetered
    rw [Keyring.opens, bare.granted?, kept]
    exact s.ledger.settled_nothing.symm
  | @unopened _ probed refusal _ probing opening =>
    obtain ⟨bare, kept⟩ := probing.unmetered
    obtain ⟨same, opens⟩ := openCredential_unmetered opening
    have unopened : stack.keyring.opens tag (within.get s) = false := by
      simp only [Keyring.opens, bare.granted?, Except.toOption, Option.map_some]
      revert same
      cases ((stack.keyring.openCredential tag).run.run (within.get probed)).1 with
      | error refusal => exact fun _ => rfl
      | ok credential =>
        intro same
        cases same
    rw [unopened, opens, kept]
    exact s.ledger.settled_nothing.symm
  | @answered _ probed credential _ _ _ _ signed probing opening taken asked =>
    obtain ⟨bare, kept⟩ := probing.unmetered
    obtain ⟨same, opens⟩ := openCredential_unmetered opening
    obtain ⟨takes, releases⟩ := foreground_unmetered taken signed
    -- The credential is the metered one, so that signing with it books nothing.
    cases found : ((stack.keyring.openCredential tag).run.run (within.get probed)).1 with
    | error refusal =>
      rw [found] at same
      cases same
    | ok bareCredential =>
      rw [found] at same
      obtain rfl := Except.ok.inj same
      have opened : stack.keyring.opens tag (within.get s) = true := by
        simp only [Keyring.opens, bare.granted?, Except.toOption, Option.map_some, found]
        rfl
      rw [opened, releases, (Metered.of_run_lift asked).2, takes, opens, kept]
      exact s.ledger.releasing_taking

end Stack

theorem Oracle.judge_keeps_ledger (processor : Processor δ) (handle : Handle) :
    (judge processor.metered handle).Keeps fun scene => scene.surroundings.ledger :=
  .bind (fun _ => rfl) fun _ => .bind (fun _ => rfl) fun _ => .bind (fun _ => rfl) fun _ _ => rfl

/-- The handle that is opened is the one that is freed, whatever its version is. -/
theorem Oracle.probe_settled (processor : Processor δ) (scene : Scene (Metered δ)) :
    ((probe processor.metered).run.run scene).2.surroundings.ledger =
      scene.surroundings.ledger.settled
        (processor.acquire.run.run (Metered.within.get scene.surroundings)).1.toOption.toList
        0 := by
  rw [probe, Attempt.run_bind, run_asked]
  have acquired : processor.metered.acquire.run.run scene.surroundings =
      let ran := processor.acquire.run.run (Metered.within.get scene.surroundings)
      (ran.1, ⟨⟨ran.2.device, scene.surroundings.ledger.opening ran.1⟩, ran.2.entropy⟩) := rfl
  rw [acquired]
  rcases processor.acquire.run.run (Metered.within.get scene.surroundings) with
    ⟨status | handle, held⟩
  · exact (scene.surroundings.ledger.opening_error status).trans
      scene.surroundings.ledger.settled_nothing.symm
  · simp only []
    rw [Attempt.run_endingWith]
    have kept := judge_keeps_ledger processor handle ⟨⟨⟨held.device,
      scene.surroundings.ledger.opening (.ok handle : Except UInt32 Handle)⟩, held.entropy⟩,
      scene.journal⟩
    exact congrArg (Ledger.freeing handle) kept

namespace Service

theorem surroundings_of_tpmStatus (service : Service δ) (session : Session δ) :
    ((service.perform .getTpmStatus).run.run session).2.scene.surroundings =
      (service.oracle.platformStatus.run.run session.scene).2.surroundings := by
  rw [perform, tpmStatus, Attempt.run_bind, Attempt.run_bind, Attempt.run_outcome, Part.run_attempt]
  simp only [Session.components]
  rcases (service.oracle.platformStatus.run.run session.scene).1 with fault | status
  · cases fault <;> rfl
  · rfl

/-- What a request leaves of the surroundings is what its call leaves of them. -/
theorem surroundings_of_call (service : Service δ) {request : Request} {call : Call}
    (made : request.call? = some call) (session : Session δ) :
    (service.exchange request session).after.scene.surroundings =
      ((service.perform call).run.run
        (session.noting .debug "handling method call")).2.scene.surroundings :=
  (service.exchange_of_perform made rfl).2.2

end Service

namespace Stack

variable (stack : Stack δ) (codec : Codec δ)

theorem translate_settled (direction : Direction) (key : SessionKey) (text : String)
    (scene : Scene (Metered δ)) :
    ((direction.translate codec.metered key text).run.run scene).2.surroundings.ledger =
      scene.surroundings.ledger := by
  cases direction <;> rfl

theorem Course.settled {stack : Stack δ} {codec : Codec δ} {direction : Direction}
    {request : Request} {register : Register} {s after : Surroundings (Metered δ)} {stage : Stage}
    {contacts : List Contact} {reply : Reply}
    (course : Course stack.metered codec.metered direction request register s stage contacts reply
      after) {tag data : String} (made : request.call? = some (direction.call tag data)) :
    after.ledger = s.ledger.settled [] (if register.seed?.isSome &&
      stack.keyring.opens tag (Metered.within.get s) then 1 else 0) := by
  have same {tag' data'} (called : request.call? = some (direction.call tag' data')) : tag' = tag :=
    Direction.tag_of_call (Option.some.inj (called.symm.trans made))
  cases course with
  | arguments failed =>
    rw [(direction.of_call? made).2] at failed
    cases failed
  | unconfigured _ missing =>
    rw [missing]
    exact s.ledger.settled_nothing.symm
  | unsigned called seeded signing =>
    obtain rfl := same called
    rw [signing.settled, seeded]
    rfl
  | @translated _ text _ _ _ signature signed journal _ _ journal' called seeded signing ran =>
    obtain rfl := same called
    have kept := translate_settled codec direction (.derive signature.bytes) text ⟨signed, journal⟩
    rw [ran] at kept
    rw [show after.ledger = _ from kept, signing.settled, seeded]
    rfl

variable (request : Request) (session : Session (Metered δ))

theorem cipher_settled (direction : Direction) {tag data : String}
    (made : request.call? = some (direction.call tag data)) :
    ((stack.metered.service codec.metered).exchange request session).after.ledger =
      session.ledger.settled [] (if session.register.seed?.isSome &&
        stack.keyring.opens tag (Metered.within.get session.scene.surroundings) then 1 else 0) := by
  obtain ⟨_, _, course, -⟩ :=
    stack.metered.course codec.metered (direction.of_call? made).1 session
  exact course.settled made

/-- What every request opens and takes over a metered platform comes back. -/
theorem exchange_settled :
    let s := Metered.within.get session.scene.surroundings
    ((stack.metered.service codec.metered).exchange request session).after.ledger =
      session.ledger.settled (stack.handles request.call? s)
        (stack.scopes request.call? session.register s) := by
  intro s
  cases made : request.call? with
  | none =>
    obtain ⟨reply, entries, -, idle⟩ :=
      (stack.metered.service codec.metered).exchange_of_no_call made session
    rw [idle]
    exact session.ledger.settled_nothing.symm
  | some call =>
    have left := (stack.metered.service codec.metered).surroundings_of_call made session
    cases call with
    | getTpmStatus =>
      rw [Service.surroundings_of_tpmStatus] at left
      rw [Session.ledger, left]
      exact Oracle.probe_settled stack.processor _
    | getBiometryStatus =>
      have keeps : (stack.metered.service codec.metered).oracle.biometryStatus.Keeps
          fun scene => scene.surroundings.ledger :=
        Oracle.biometry_keeps (fun _ => rfl) (fun _ => rfl)
      have kept : ((stack.metered.service codec.metered).perform .getBiometryStatus).Keeps
          fun session => (session.register, session.scene.surroundings.ledger) :=
        .bind (Service.biometryStatus_keeps keeps) fun _ _ => rfl
      rw [Session.ledger, left]
      exact (Prod.mk.inj (kept _)).2.trans session.ledger.settled_nothing.symm
    | configure seed =>
      have kept : ((stack.metered.service codec.metered).perform (.configure seed)).Keeps
          fun session => session.scene.surroundings :=
        .bind (Service.configure_keeps seed) fun _ _ => rfl
      rw [Session.ledger, left]
      exact (congrArg Surroundings.ledger (kept _)).trans session.ledger.settled_nothing.symm
    | generateKey tag =>
      obtain ⟨_, creating, -⟩ := stack.metered.exchange_of_generateKey made session
      exact creating.settled
    | deleteKey tag =>
      obtain ⟨_, deleting, -⟩ := stack.metered.exchange_of_deleteKey made session
      exact deleting.settled
    | encrypt tag data => exact stack.cipher_settled codec request session .encrypt made
    | decrypt tag data => exact stack.cipher_settled codec request session .decrypt made

/-- Whatever is asked of a service, and whatever its platform answers, nothing is out behind
any request of a run: the handles that were opened have been freed, in their order, and as
many scopes have been released as were taken. A handle is opened by `getTPMStatus` if the
processor gives one, and by nothing else. A scope is taken to create or delete a credential
if biometry is supported, and to encrypt or decrypt if there is a seed and the credential can
be opened, and for nothing else. -/
theorem what_is_taken_comes_back (requests : List Request) (session : Session δ) :
    ∀ x ∈ (stack.metered.service codec.metered).exchanges requests session.metered,
      let s := x.before.unmetered.scene.surroundings
      x.after.ledger.Balanced ∧
        x.after.ledger = x.before.ledger.settled (stack.handles x.request.call? s)
          (stack.scopes x.request.call? x.before.register s) := by
  have step (request : Request) (session : Session (Metered δ))
      (balanced : session.ledger.Balanced) :
      ((stack.metered.service codec.metered).exchange request session).after.ledger.Balanced := by
    rw [stack.exchange_settled codec request session]
    exact balanced.settled _ _
  intro x member
  obtain ⟨earlier, request, later, -, rfl⟩ := Service.mem_exchanges _ |>.mp member
  have before : (((stack.metered.service codec.metered).after earlier
      session.metered).ledger).Balanced := by
    refine Service.after_keeps _ (fun session => session.ledger.Balanced) ?_ ⟨rfl, rfl⟩
    intro x member
    obtain ⟨_, request, _, -, rfl⟩ := Service.mem_exchanges _ |>.mp member
    exact step request _
  exact ⟨step request _ before, stack.exchange_settled codec request _⟩

/-- The version of the processor cannot be read, and the user refuses to sign. -/
theorem refused_requests_leave_nothing_out :
    let stack : Stack Simulated.Device := ⟨Simulated.processor, Simulated.keyring, {}⟩
    let device : Simulated.Device :=
      { settings := { typeStatus := some 5, signOutcome := some .userCanceled }, tags := ["t"] }
    let session : Session Simulated.Device := ⟨⟨⟨device, ⟨[]⟩⟩, []⟩, ⟨true, "seed"⟩⟩
    let service := stack.metered.service Codec.ofEnvelopes.metered
    let first : Request := ⟨"getTPMStatus", none⟩
    let second := Request.ofTexts "encrypt" [("tag", "t"), ("data", "text")]
    let x := service.exchange second (service.after [first] session.metered)
    x ∈ service.exchanges [first, second] session.metered ∧
      x.reply = .error .authenticationUserCanceled "user canceled the operation" ∧
      x.before.ledger = ⟨[⟨1⟩], [⟨1⟩], 0, 0⟩ ∧ x.after.ledger = ⟨[⟨1⟩], [⟨1⟩], 1, 1⟩ ∧
      x.after.ledger.Balanced := by
  intro stack device session service first second x
  have member : x ∈ service.exchanges [first, second] session.metered :=
    (service.mem_exchanges).mpr ⟨[first], second, [], rfl, rfl⟩
  have comesBack :=
    stack.what_is_taken_comes_back Codec.ofEnvelopes [first, second] session x member
  exact ⟨member, by rfl, by rfl, comesBack.2, comesBack.1⟩

end Stack

end PresenceSeal
