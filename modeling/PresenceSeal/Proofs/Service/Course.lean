import PresenceSeal.Proofs.Platform.Quiet
import PresenceSeal.Proofs.Service.Stages

/-! Courses through the stages. A course is the only one that a request can take, it draws
nothing before the codec, and a watched platform was asked what belongs to it. -/
namespace PresenceSeal

/-- A course that ends before there is a challenge leads nowhere. -/
theorem Stack.Course.idle {stack : Stack δ} {codec : Codec δ} {direction : Direction}
    {request : Request} {register : Register} {s after : Surroundings δ} {stage : Stage}
    {contacts : List Contact} {reply : Reply}
    (course : Course stack codec direction request register s stage contacts reply after)
    (lacking : request.call? = none ∨ register.seed? = none) : contacts = [] ∧ after = s := by
  cases course with
  | arguments | unconfigured => exact ⟨rfl, rfl⟩
  | unsigned called seeded | translated called seeded =>
    rw [called, seeded] at lacking
    rcases lacking with uncalled | unseeded
    · cases uncalled
    · cases unseeded

theorem Stack.Probing.quiet {keyring : Keyring δ} (quiet : keyring.Quiet)
    {s after : Surroundings δ} {contacts : List Contact} {outcome : Except Fault Unit}
    (probing : Probing keyring s contacts outcome after) : after.entropy = s.entropy := by
  cases probing with
  | supported supported =>
    have kept := quiet.isSupported s
    rw [supported] at kept
    exact kept
  | @available asked _ supported answered | @unavailable asked _ _ supported answered
    | @unmapped asked _ _ supported answered =>
    have first := quiet.isSupported s
    have second := quiet.availability asked
    rw [supported] at first
    rw [answered] at second
    exact second.trans first

theorem Stack.Signing.quiet {stack : Stack δ} (quiet : stack.keyring.Quiet) {tag : String}
    {challenge : List UInt8} {s after : Surroundings δ} {stage : Stage} {contacts : List Contact}
    {outcome : Except Fault Secret.Buffer}
    (signing : Signing stack tag challenge s stage contacts outcome after) :
    after.entropy = s.entropy := by
  cases signing with
  | barred probing => exact probing.quiet quiet
  | @unopened _ probed _ _ probing opening =>
    have opens := quiet.openCredential tag probed
    rw [opening] at opens
    exact opens.trans (probing.quiet quiet)
  | @answered _ probed credential opened scope held _ signed probing opening taken asked =>
    have opens := quiet.openCredential tag probed
    have takes := quiet.foreground opened
    have signs := quiet.sign tag probed credential (by rw [opening]) challenge stack.prompt held
    have releases := quiet.release opened signed
    rw [opening] at opens
    rw [taken] at takes releases
    rw [asked] at signs
    calc (scope.release.run signed).2.entropy
      _ = signed.entropy := releases
      _ = held.entropy := signs
      _ = opened.entropy := takes
      _ = probed.entropy := opens
      _ = s.entropy := probing.quiet quiet

/-- Before the codec nothing is drawn, unless the platform draws. -/
theorem Stack.Course.quiet {stack : Stack δ} {codec : Codec δ} {direction : Direction}
    {request : Request} {register : Register} {s after : Surroundings δ} {stage : Stage}
    {contacts : List Contact} {reply : Reply}
    (course : Course stack codec direction request register s stage contacts reply after)
    (quiet : stack.keyring.Quiet) (early : stage ≠ .codec) : after.entropy = s.entropy := by
  cases course with
  | arguments | unconfigured => rfl
  | unsigned _ _ signing => exact signing.quiet quiet
  | translated => exact absurd rfl early

section Unique

variable {stack : Stack δ} {s after after' : Surroundings δ} {stage stage' : Stage}
  {contacts contacts' : List Contact}

theorem Stack.Probing.unique {keyring : Keyring δ} {outcome outcome' : Except Fault Unit}
    (one : Probing keyring s contacts outcome after)
    (other : Probing keyring s contacts' outcome' after') :
    contacts = contacts' ∧ outcome = outcome' ∧ after = after' := by
  cases one <;> cases other <;> grind

theorem Stack.Signing.unique {tag : String} {challenge : List UInt8}
    {outcome outcome' : Except Fault Secret.Buffer}
    (one : Signing stack tag challenge s stage contacts outcome after)
    (other : Signing stack tag challenge s stage' contacts' outcome' after') :
    stage = stage' ∧ contacts = contacts' ∧ outcome = outcome' ∧ after = after' := by
  cases one with
  | barred probing =>
    cases other with
    | barred again =>
      obtain ⟨rfl, same, rfl⟩ := probing.unique again
      obtain rfl := Except.error.inj same
      exact ⟨rfl, rfl, rfl, rfl⟩
    | unopened again | answered again => cases (probing.unique again).2.1
  | unopened probing opening =>
    cases other with
    | barred again => cases (probing.unique again).2.1
    | unopened again opening' =>
      obtain ⟨rfl, -, rfl⟩ := probing.unique again
      obtain ⟨same, rfl⟩ := Prod.mk.inj (opening.symm.trans opening')
      obtain rfl := Except.error.inj same
      exact ⟨rfl, rfl, rfl, rfl⟩
    | answered again opening' =>
      obtain ⟨rfl, -, rfl⟩ := probing.unique again
      cases (Prod.mk.inj (opening.symm.trans opening')).1
  | answered probing opening taken asked =>
    cases other with
    | barred again => cases (probing.unique again).2.1
    | unopened again opening' =>
      obtain ⟨rfl, -, rfl⟩ := probing.unique again
      cases (Prod.mk.inj (opening.symm.trans opening')).1
    | answered again opening' taken' asked' =>
      obtain ⟨rfl, -, rfl⟩ := probing.unique again
      obtain ⟨same, rfl⟩ := Prod.mk.inj (opening.symm.trans opening')
      obtain rfl := Except.ok.inj same
      obtain ⟨rfl, rfl⟩ := Prod.mk.inj (taken.symm.trans taken')
      obtain ⟨rfl, rfl⟩ := Prod.mk.inj (asked.symm.trans asked')
      exact ⟨rfl, rfl, rfl, rfl⟩

theorem Stack.Signing.unique_of_call {direction : Direction} {request : Request}
    {register : Register} {tag tag' data data' seed seed' : String}
    {outcome outcome' : Except Fault Secret.Buffer}
    (called : request.call? = some (direction.call tag data))
    (called' : request.call? = some (direction.call tag' data'))
    (seeded : register.seed? = some seed) (seeded' : register.seed? = some seed')
    (one : Signing stack tag (Text.Utf16.encode seed.toList) s stage contacts outcome after)
    (other : Signing stack tag' (Text.Utf16.encode seed'.toList) s stage' contacts' outcome'
      after') :
    stage = stage' ∧ contacts = contacts' ∧ outcome = outcome' ∧ after = after' := by
  obtain rfl := Direction.tag_of_call (Option.some.inj (called.symm.trans called'))
  obtain rfl := Option.some.inj (seeded.symm.trans seeded')
  exact one.unique other

/-- There is one course to take, but for what the codec makes of the journal at its end. -/
theorem Stack.Course.unique {codec : Codec δ} {direction : Direction} {request : Request}
    {register : Register} {reply reply' : Reply}
    (named : Method.ofName? request.name = some direction.method)
    (one : Course stack codec direction request register s stage contacts reply after)
    (other : Course stack codec direction request register s stage' contacts' reply' after') :
    stage = stage' ∧ contacts = contacts' ∧
      (stage ≠ .codec → reply = reply' ∧ after = after') := by
  have uncalled {fault : Fault} (failed : direction.method.call request.arguments = .error fault) :
      request.call? = none := by
    simp only [Request.call?, named, failed, Except.toOption]
  cases one with
  | arguments failed =>
    cases other with
    | arguments again =>
      obtain rfl := Fault.invalidArgument.inj (Except.error.inj (failed.symm.trans again))
      exact ⟨rfl, rfl, fun _ => ⟨rfl, rfl⟩⟩
    | unconfigured called | unsigned called | translated called =>
      cases (uncalled failed).symm.trans called
  | unconfigured called missing =>
    cases other with
    | arguments failed => cases (uncalled failed).symm.trans called
    | unconfigured => exact ⟨rfl, rfl, fun _ => ⟨rfl, rfl⟩⟩
    | unsigned _ seeded | translated _ seeded => cases missing.symm.trans seeded
  | unsigned called seeded signing =>
    cases other with
    | arguments failed => cases (uncalled failed).symm.trans called
    | unconfigured _ missing => cases missing.symm.trans seeded
    | unsigned called' seeded' signing' =>
      obtain ⟨rfl, rfl, same, rfl⟩ := signing.unique_of_call called called' seeded seeded' signing'
      obtain rfl := Except.error.inj same
      exact ⟨rfl, rfl, fun _ => ⟨rfl, rfl⟩⟩
    | translated called' seeded' signing' =>
      cases (signing.unique_of_call called called' seeded seeded' signing').2.2.1
  | translated called seeded signing =>
    cases other with
    | arguments failed => cases (uncalled failed).symm.trans called
    | unconfigured _ missing => cases missing.symm.trans seeded
    | unsigned called' seeded' signing' =>
      cases (signing.unique_of_call called called' seeded seeded' signing').2.2.1
    | translated called' seeded' signing' =>
      obtain ⟨-, rfl, -⟩ := signing.unique_of_call called called' seeded seeded' signing'
      exact ⟨rfl, rfl, fun early => absurd rfl early⟩

end Unique

section Watched

variable {stack : Stack δ} {s after : Surroundings (Watched δ)} {stage : Stage}
  {contacts : List Contact}

open Watched (within)

theorem Keyring.of_run_openCredential {keyring : Keyring δ} {tag : String}
    {outcome : Except Refusal (Credential (Watched δ))}
    (ran : (keyring.watched.openCredential tag).run.run s = (outcome, after)) :
    ∃ bare, (keyring.openCredential tag).run.run (within.get s) = (bare, within.get after) ∧
      outcome = bare.map Credential.watched ∧
      after.device.contacts = s.device.contacts ++ [.openCredential tag] := by
  rw [watched] at ran
  simp only [Attempt.run_bind] at ran
  obtain ⟨bare, opened, attempted⟩ : ∃ bare opened, (Watched.attempting (.openCredential tag)
      (keyring.openCredential tag)).run.run s = (bare, opened) := ⟨_, _, rfl⟩
  obtain ⟨opening, noted⟩ := Watched.of_run_attempting attempted
  rw [attempted] at ran
  cases bare with
  | error refusal =>
    obtain ⟨rfl, rfl⟩ := Prod.mk.inj ran
    exact ⟨_, opening, rfl, noted⟩
  | ok credential =>
    obtain ⟨rfl, rfl⟩ := Prod.mk.inj ran
    exact ⟨_, opening, rfl, noted⟩

theorem Keyring.of_run_foreground {keyring : Keyring δ} {scope : Scope (Watched δ)}
    (ran : keyring.watched.foreground.run s = (scope, after)) :
    ∃ bare, keyring.foreground.run (within.get s) = (bare, within.get after) ∧
      scope = bare.watched ∧ after.device.contacts = s.device.contacts ++ [.foreground] := by
  obtain ⟨rfl, rfl⟩ := Prod.mk.inj ran
  exact ⟨_, rfl, rfl, rfl⟩

theorem Scope.run_release_watched (scope : Scope δ) (s : Surroundings (Watched δ)) :
    within.get (scope.watched.release.run s).2 = (scope.release.run (within.get s)).2 ∧
      (scope.watched.release.run s).2.device.contacts = s.device.contacts ++ scope.contacts := by
  obtain ⟨_ | release⟩ := scope
  · exact ⟨rfl, (List.append_nil _).symm⟩
  · exact ⟨rfl, rfl⟩

theorem Scope.contacts_watched (scope : Scope δ) : scope.watched.contacts = scope.contacts := by
  simp only [contacts, watched, Option.isSome_map]

theorem Stack.Probing.unwatched {keyring : Keyring δ} {outcome : Except Fault Unit}
    (probing : Probing keyring.watched s contacts outcome after) :
    Probing keyring (within.get s) contacts outcome (within.get after) ∧
      after.device.contacts = s.device.contacts ++ contacts := by
  cases probing with
  | supported supported =>
    obtain ⟨bare, noted⟩ := Watched.of_run_watching supported
    exact ⟨.supported bare, noted⟩
  | available supported answered =>
    obtain ⟨bare, noted⟩ := Watched.of_run_watching supported
    obtain ⟨bare', noted'⟩ := Watched.of_run_watching answered
    rw [noted, List.append_assoc] at noted'
    exact ⟨.available bare bare', noted'⟩
  | unavailable supported answered missing mapped =>
    obtain ⟨bare, noted⟩ := Watched.of_run_watching supported
    obtain ⟨bare', noted'⟩ := Watched.of_run_watching answered
    rw [noted, List.append_assoc] at noted'
    exact ⟨.unavailable bare bare' missing mapped, noted'⟩
  | unmapped supported answered =>
    obtain ⟨bare, noted⟩ := Watched.of_run_watching supported
    obtain ⟨bare', noted'⟩ := Watched.of_run_watching answered
    rw [noted, List.append_assoc] at noted'
    exact ⟨.unmapped bare bare', noted'⟩

theorem Stack.Signing.unwatched {tag : String} {challenge : List UInt8}
    {outcome : Except Fault Secret.Buffer}
    (signing : Signing stack.watched tag challenge s stage contacts outcome after) :
    Signing stack tag challenge (within.get s) stage contacts outcome (within.get after) ∧
      after.device.contacts = s.device.contacts ++ contacts := by
  cases signing with
  | barred probing =>
    obtain ⟨bare, noted⟩ := probing.unwatched
    exact ⟨.barred bare, noted⟩
  | unopened probing opening =>
    obtain ⟨bare, noted⟩ := probing.unwatched
    obtain ⟨answer, opened, same, opens⟩ := Keyring.of_run_openCredential opening
    rw [noted, List.append_assoc] at opens
    cases answer with
    | ok credential => cases same
    | error refusal =>
      obtain rfl := Except.error.inj same
      exact ⟨.unopened bare opened, opens⟩
  | @answered _ _ _ _ _ _ _ signed probing opening taken asked =>
    obtain ⟨bare, noted⟩ := probing.unwatched
    obtain ⟨answer, opened, same, opens⟩ := Keyring.of_run_openCredential opening
    obtain ⟨scope, held, rfl, holds⟩ := Keyring.of_run_foreground taken
    cases answer with
    | error refusal => cases same
    | ok credential =>
      obtain rfl := Except.ok.inj same
      obtain ⟨signs, signing⟩ := Watched.of_run_attempting asked
      -- The scope was taken before it is known whether there is a signature, and goes last.
      obtain ⟨released, releases⟩ := scope.run_release_watched signed
      rw [scope.contacts_watched, released]
      refine ⟨.answered bare opened held signs, ?_⟩
      rw [releases, signing, holds, opens, noted]
      simp only [List.append_assoc, List.cons_append, List.nil_append]
      rfl

theorem Stack.Course.unwatched {codec : Codec δ} {direction : Direction} {request : Request}
    {register : Register} {reply : Reply}
    (course :
      Course stack.watched codec.watched direction request register s stage contacts reply after) :
    Course stack codec direction request register (within.get s) stage contacts reply
        (within.get after) ∧
      after.device.contacts = s.device.contacts ++ contacts := by
  cases course with
  | arguments failed => exact ⟨.arguments failed, (List.append_nil _).symm⟩
  | unconfigured called missing => exact ⟨.unconfigured called missing, (List.append_nil _).symm⟩
  | unsigned called seeded signing =>
    obtain ⟨bare, noted⟩ := signing.unwatched
    exact ⟨.unsigned called seeded bare, noted⟩
  | @translated tag data _ _ _ signature _ _ _ _ _ called seeded signing ran =>
    obtain ⟨bare, noted⟩ := signing.unwatched
    have through : direction.translate codec.watched (.derive signature.bytes) data =
        Scene.within.attempt (direction.translate codec (.derive signature.bytes) data) := by
      cases direction <;> rfl
    rw [through, Part.run_attempt] at ran
    obtain ⟨rfl, scene⟩ := Prod.mk.inj ran
    obtain ⟨rfl, -⟩ := Scene.mk.inj scene
    exact ⟨.translated called seeded bare rfl, noted⟩

end Watched

/-- Every request to encrypt or decrypt takes its course, and has no other to take, over every
platform and codec and from whatever state; the platform is asked what belongs to its course
and nothing else. With bad arguments or without a seed it is asked nothing, and everything
stays as it was. Before the codec is reached no random bytes are drawn unless the platform
draws them, which no keyring here does (`Keyring.software_quiet`, `Simulated.keyring_quiet`). -/
theorem Stack.cipher_requests_take_their_course (stack : Stack δ) (codec : Codec δ)
    (direction : Direction) (request : Request)
    (named : Method.ofName? request.name = some direction.method) (session : Session (Watched δ)) :
    let x := (stack.watched.service codec.watched).exchange request session
    let course := stack.Course codec direction request session.register
      session.unwatched.scene.surroundings
    ∃ stage contacts,
      course stage contacts x.reply x.after.unwatched.scene.surroundings ∧
      (∀ stage' contacts' reply after, course stage' contacts' reply after →
        stage = stage' ∧ contacts = contacts' ∧
          (stage ≠ .codec → x.reply = reply ∧ x.after.unwatched.scene.surroundings = after)) ∧
      x.after.contacts = session.contacts ++ contacts ∧
      x.after.register = session.register ∧
      (request.call? = none ∨ session.register.seed? = none →
        contacts = [] ∧ x.after.scene.surroundings = session.scene.surroundings) ∧
      (stack.keyring.Quiet → stage ≠ .codec →
        x.after.scene.surroundings.entropy = session.scene.surroundings.entropy) := by
  intro x course
  obtain ⟨stage, contacts, taken, register⟩ := stack.watched.course codec.watched named session
  obtain ⟨bare, noted⟩ := taken.unwatched
  refine ⟨stage, contacts, bare, ?_, noted, register, taken.idle, bare.quiet⟩
  intro stage' contacts' reply after other
  exact bare.unique named other

/-- Signing with the simulated keyring is told that the user has canceled. The scope is
released all the same, and the seed has reached the device as UTF-16. -/
theorem canceled_decryption_takes_its_course :
    let stack : Stack Simulated.Device := ⟨Simulated.processor, Simulated.keyring, {}⟩
    let device : Simulated.Device :=
      { settings := { signOutcome := some .userCanceled }, tags := ["t"] }
    let session : Session (Watched Simulated.Device) := ⟨⟨⟨⟨device, []⟩, ⟨[5]⟩⟩, []⟩, ⟨true, "é"⟩⟩
    let request := Request.ofTexts "decrypt" [("data", "text"), ("tag", "t")]
    let x := (stack.watched.service Codec.ofEnvelopes).exchange request session
    Method.ofName? request.name = some Direction.decrypt.method ∧
    stack.Course Codec.ofEnvelopes .decrypt request session.register
      session.unwatched.scene.surroundings .signature
      [.isSupported, .openCredential "t", .foreground, .sign "t" [0xE9, 0x00] {}, .releaseScope]
      x.reply x.after.unwatched.scene.surroundings ∧
    x.reply = .error .authenticationUserCanceled "user canceled the operation" ∧
    x.after.contacts = [.isSupported, .openCredential "t", .foreground,
      .sign "t" [0xE9, 0x00] {}, .releaseScope] ∧
    x.after.scene.surroundings.entropy = ⟨[5]⟩ := by
  intro stack device session request x
  have named : Method.ofName? request.name = some Direction.decrypt.method := rfl
  have called : request.call? = some (Direction.decrypt.call "t" "text") := rfl
  obtain ⟨stage, contacts, course, only, noted, -, -, undrawn⟩ :=
    stack.cipher_requests_take_their_course Codec.ofEnvelopes .decrypt request named session
  have probing : Stack.Probing stack.keyring session.unwatched.scene.surroundings
      [.isSupported] (.ok ()) _ := .supported rfl
  have signing := @Stack.Signing.answered _ stack "t" (Text.Utf16.encode "é".toList) _ _ _
    ⟨"t", Simulated.sign "t"⟩ _ _ _ (.error .userCanceled) _ probing rfl rfl rfl
  obtain ⟨rfl, rfl, decided⟩ := only _ _ _ _ (.unsigned called rfl signing)
  have early : Stage.signature ≠ .codec := by decide
  exact ⟨named, course, (decided early).1, noted, undrawn Simulated.keyring_quiet early⟩

end PresenceSeal
