import Mathlib.Data.List.Induction
import PresenceSeal.Platform.Simulated
import PresenceSeal.Proofs.Attempt.Keeps
import PresenceSeal.Proofs.Platform.Watched
import PresenceSeal.Proofs.Request.Arguments

/-! The seed over whole runs. Whatever is asked of a service in between, its register holds
what it was last set to; and once a seed has been refused, nothing that can be seen of the
service tells whether there was another one before. The components are arbitrary. -/
namespace PresenceSeal

namespace Register

/-- The register behind some texts that it was set to, one after another. -/
def behind (seeds : List String) (register : Register) : Register :=
  seeds.foldl (fun register seed => (register.set seed).2) register

/-- The last text decides alone. -/
theorem seed?_behind (seeds : List String) (register : Register) :
    (register.behind seeds).seed? =
      match seeds.getLast? with
      | none => register.seed?
      | some seed => if seed.isEmpty then none else some seed := by
  cases seeds using List.reverseRecOn with
  | nil => rfl
  | append_singleton earlier seed =>
    rw [behind, List.foldl_append, List.getLast?_concat]
    exact seed?_set _ seed

theorem configured_eq (register : Register) : register.configured = register.seed?.isSome := by
  cases configured : register.configured <;> simp [seed?, configured]

/-- Registers with the same seed in use. What else they store cannot be seen. -/
def Same (register other : Register) : Prop := register.seed? = other.seed?

theorem Same.configured {register other : Register} (same : register.Same other) :
    register.configured = other.configured := by
  rw [configured_eq register, configured_eq other, same]

theorem Same.masked {register other : Register} (same : register.Same other) :
    register.masked = other.masked := by
  unfold Register.masked
  rw [same.configured]

theorem set_fst_eq (register other : Register) (seed : String) :
    (register.set seed).1 = (other.set seed).1 := by
  unfold set
  split <;> rfl

theorem same_set (register other : Register) (seed : String) :
    (register.set seed).2.Same (other.set seed).2 := by
  rw [Same, seed?_set, seed?_set]

end Register

/-- The text that a call sets the register to. -/
def Call.seed? : Call → Option String
  | .configure seed => some seed
  | _ => none

/-- Something that a service is asked, directly or by a request. -/
inductive Move where
  | call (call : Call)
  | request (request : Request)

namespace Move

def call? : Move → Option Call
  | .call made => some made
  | .request asked => asked.call?

/-- The text that a move sets the register to. -/
def seed? (move : Move) : Option String := move.call?.bind Call.seed?

/-- The texts that some moves set the register to. -/
def seeds (moves : List Move) : List String := moves.filterMap seed?

end Move

/-- What is answered: the outcome of a direct call, or the reply to a request. -/
inductive Answer where
  | outcome (outcome : Except Fault Json)
  | reply (reply : Reply)

/-- All that can be seen behind a move: the answer, the platform, the random source, the
journal, and what the register tells. -/
structure Sight (δ : Type) where
  answer : Answer
  scene : Scene δ
  configured : Bool
  seed? : Option String
  masked : String

/-- What a watched platform has been asked until then, and what is left of the random source. -/
def Sight.dealings (sight : Sight (Watched δ)) : List Contact × Entropy :=
  (sight.scene.surroundings.device.contacts, sight.scene.surroundings.entropy)

namespace Service

variable (service : Service δ)

def move : Move → Session δ → Answer × Session δ
  | .call call, session =>
    let ran := (service.perform call).run.run session
    (.outcome ran.1, ran.2)
  | .request request, session =>
    let x := service.exchange request session
    (.reply x.reply, x.after)

/-- The session behind some moves. -/
def behind (moves : List Move) (session : Session δ) : Session δ :=
  moves.foldl (fun session move => (service.move move session).2) session

/-- What is seen behind each of some moves. -/
def sights : List Move → Session δ → List (Sight δ)
  | [], _ => []
  | move :: rest, session =>
    let (answer, after) := service.move move session
    ⟨answer, after.scene, after.register.configured, after.register.seed?,
      after.register.masked⟩ :: sights rest after

section Tracking

variable {service}

theorem components_keep_register (x : Attempt (Scene δ) ε α) :
    (Session.components.attempt x).Keeps Session.register := fun _ => rfl

theorem note_keeps_register {severity : Severity} {text : String} :
    (Session.note severity text : Attempt (Session δ) ε Unit).Keeps Session.register :=
  fun _ => rfl

theorem sessionKey_keeps_register (tag : String) (unconfigured : Fault) :
    (service.sessionKey tag unconfigured).Keeps Session.register := by
  intro session
  rw [sessionKey, Attempt.run_get_bind]
  cases session.register.seed? with
  | none => rfl
  | some seed => exact Attempt.Keeps.bind (components_keep_register _) (fun _ _ => rfl) session

theorem register_of_configure (seed : String) (session : Session δ) :
    ((configure seed).run.run session).2.register = (session.register.set seed).2 := by
  rw [configure, Attempt.run_get_bind]
  rcases session.register.set seed with ⟨_ | _, _⟩ <;> rfl

/-- No call but one to configure touches the register. -/
theorem perform_keeps_register {call : Call} (unset : call.seed? = none) :
    (service.perform call).Keeps Session.register := by
  cases call with
  | getTpmStatus =>
    refine .bind (.bind (components_keep_register _) ?_) fun _ _ => rfl
    rintro ((_ | _) | _) session <;> rfl
  | getBiometryStatus =>
    exact .bind (.bind (components_keep_register _) fun _ _ => rfl) fun _ _ => rfl
  | generateKey tag => exact .bind (components_keep_register _) fun _ _ => rfl
  | deleteKey tag =>
    refine .bind (.bind (components_keep_register _) ?_) fun _ _ => rfl
    rintro ((_ | _) | _) session <;> rfl
  | encrypt | decrypt =>
    refine .bind (.bind (sessionKey_keeps_register _ _) fun _ => ?_) fun _ _ => rfl
    exact .bind (components_keep_register _) fun _ => .bind note_keeps_register fun _ _ => rfl
  | configure seed => cases unset

variable (service)

theorem register_of_perform (call : Call) (session : Session δ) :
    ((service.perform call).run.run session).2.register =
      session.register.behind call.seed?.toList := by
  cases call with
  | configure seed =>
    have kept := register_of_configure seed session
    revert kept
    rw [perform, Attempt.run_bind]
    rcases (configure seed).run.run session with ⟨_ | _, _⟩ <;> exact id
  | _ => exact perform_keeps_register rfl session

/-- A move does to the register what setting it does, and nothing else. -/
theorem register_of_move (move : Move) (session : Session δ) :
    (service.move move session).2.register = session.register.behind move.seed?.toList := by
  cases move with
  | call call => exact service.register_of_perform call session
  | request request =>
    cases made : request.call? with
    | none =>
      obtain ⟨reply, entries, -, idle⟩ := service.exchange_of_no_call made session
      have unset : (Move.request request).seed? = none := by
        simp [Move.seed?, Move.call?, made]
      rw [unset, Service.move, idle]
      rfl
    | some call =>
      have kept := service.register_of_perform call
        (session.noting .debug "handling method call")
      have set : (Move.request request).seed? = call.seed? := by
        simp [Move.seed?, Move.call?, made]
      rw [set, Service.move, service.exchange_of_call made]
      revert kept
      rcases (service.perform call).run.run _ with ⟨_ | _, _⟩ <;> exact id

theorem register_behind (moves : List Move) (session : Session δ) :
    (service.behind moves session).register = session.register.behind (Move.seeds moves) := by
  induction moves generalizing session with
  | nil => rfl
  | cons move rest ih =>
    have step := ih (service.move move session).2
    rw [register_of_move] at step
    rw [behind, List.foldl_cons, ← behind, step]
    simp only [Move.seeds, List.filterMap_cons]
    cases move.seed? <;> rfl

end Tracking

end Service

/-- Sessions that nothing outside them can tell apart. -/
def Session.Same (s t : Session δ) : Prop := s.scene = t.scene ∧ s.register.Same t.register

theorem Session.components_same :
    (Session.components : Part (Session δ) (Scene δ)).Alike Session.components Session.Same Eq where
  get _ _ related := related.1
  set _ _ _ _ related after := ⟨after, related.2⟩

theorem Session.attempt_same (x : Attempt (Scene δ) ε α) :
    Attempt.Alike Session.Same Eq (Session.components.attempt x)
      (Session.components.attempt x) := by
  refine components_same.attempt ?_
  rintro scene _ rfl
  exact ⟨.refl _, rfl⟩

theorem Session.note_same {severity : Severity} {text : String} :
    Attempt.Alike Session.Same Eq (Session.note severity text : Attempt (Session δ) ε Unit)
      (Session.note severity text) := by
  rintro s t ⟨scenes, registers⟩
  refine ⟨.ok rfl, ?_, registers⟩
  show Scene.mk _ (_ :: s.scene.journal) = Scene.mk _ (_ :: t.scene.journal)
  rw [scenes]

namespace Service

variable {service : Service δ}

theorem tpmStatus_same : Attempt.Alike Session.Same Eq service.tpmStatus service.tpmStatus := by
  refine .bind (.outcome (Session.attempt_same _)) ?_
  intro outcome other agree
  obtain rfl := agree.eq
  rcases outcome with fault | status
  · cases fault with
    | tpmUnsupported | tpmVersion => exact .bind Session.note_same fun _ _ _ => .pure rfl
    | _ => exact .throw _
  · exact .pure rfl

theorem biometryStatus_same :
    Attempt.Alike Session.Same Eq service.biometryStatus service.biometryStatus := by
  refine .bind (Session.attempt_same _) ?_
  rintro status _ rfl
  exact .pure rfl

theorem deleteKey_same (tag : String) :
    Attempt.Alike Session.Same Eq (service.deleteKey tag) (service.deleteKey tag) := by
  refine .bind (.outcome (Session.attempt_same _)) ?_
  intro outcome other agree
  obtain rfl := agree.eq
  rcases outcome with fault | _
  · cases fault with
    | keyNotFound => exact Session.note_same
    | _ => exact .throw _
  · exact .pure rfl

theorem configure_same (seed : String) :
    Attempt.Alike Session.Same Eq (configure seed : Attempt (Session δ) Fault Unit)
      (configure seed) := by
  refine .get_bind fun s t related => ?_
  have outcomes := s.register.set_fst_eq t.register seed
  have registers := s.register.same_set t.register seed
  revert outcomes registers
  rcases s.register.set seed with ⟨outcome, register⟩
  rcases t.register.set seed with ⟨_, register'⟩
  rintro rfl registers
  refine .bind (.set ⟨related.1, registers⟩) fun _ _ _ => ?_
  cases outcome with
  | error fault => exact .bind Session.note_same fun _ _ _ => .throw _
  | ok => exact Session.note_same

theorem sessionKey_same (tag : String) (unconfigured : Fault) :
    Attempt.Alike Session.Same Eq (service.sessionKey tag unconfigured)
      (service.sessionKey tag unconfigured) := by
  refine .get_bind fun s t related => ?_
  rw [show s.register.seed? = t.register.seed? from related.2]
  cases t.register.seed? with
  | none => exact .bind Session.note_same fun _ _ _ => .throw _
  | some seed =>
    refine .bind (Session.attempt_same _) ?_
    rintro signature _ rfl
    exact .pure rfl

/-- Encryption and decryption alike: with the session key, something is asked of the codec. -/
theorem ciphered_same (tag : String) (unconfigured : Fault) {text : String}
    (translate : SessionKey → Attempt (Scene δ) Fault String) :
    let ciphered : Attempt (Session δ) Fault String := do
      let key ← service.sessionKey tag unconfigured
      let result ← Session.components.attempt (translate key)
      Session.note .debug text
      pure result
    Attempt.Alike Session.Same Eq ciphered ciphered := by
  refine .bind (sessionKey_same tag unconfigured) ?_
  rintro key _ rfl
  refine .bind (Session.attempt_same _) ?_
  rintro result _ rfl
  exact .bind Session.note_same fun _ _ _ => .pure rfl

theorem perform_same (call : Call) :
    Attempt.Alike Session.Same Eq (service.perform call) (service.perform call) := by
  cases call with
  | getTpmStatus => exact .bind tpmStatus_same fun _ _ number => .pure (by rw [number])
  | getBiometryStatus => exact .bind biometryStatus_same fun _ _ number => .pure (by rw [number])
  | generateKey tag => exact .bind (Session.attempt_same _) fun _ _ _ => .pure rfl
  | deleteKey tag => exact .bind (deleteKey_same tag) fun _ _ _ => .pure rfl
  | encrypt tag text =>
    exact .bind (ciphered_same tag _ fun key => service.codec.encrypt key text) fun _ _ wire =>
      .pure (congrArg _ wire)
  | decrypt tag wire =>
    exact .bind (ciphered_same tag _ fun key => service.codec.decrypt key wire) fun _ _ text =>
      .pure (congrArg _ text)
  | configure seed => exact .bind (configure_same seed) fun _ _ _ => .pure rfl

variable (service)

theorem exchange_same (request : Request) {s t : Session δ} (related : s.Same t) :
    (service.exchange request s).reply = (service.exchange request t).reply ∧
      (service.exchange request s).after.Same (service.exchange request t).after := by
  have noted {severity text} {s t : Session δ} (related : s.Same t) :
      (s.noting severity text).Same (t.noting severity text) := by
    have noted : Attempt.Alike Session.Same Eq
        (Session.note severity text : Attempt (Session δ) Fault Unit) _ := Session.note_same
    exact (noted s t related).2
  cases named : Method.ofName? request.name with
  | none =>
    simp only [exchange, handle, named]
    exact ⟨rfl, noted related⟩
  | some method =>
    have dispatched : Attempt.Alike Session.Same Eq (service.dispatch method request.arguments)
        (service.dispatch method request.arguments) := by
      refine .bind Session.note_same fun _ _ _ => ?_
      refine .bind (.ofExcept (.refl (method.call request.arguments))) ?_
      rintro call _ rfl
      exact perform_same call
    obtain ⟨agree, after⟩ := dispatched s t related
    simp only [exchange, run_handle _ named]
    revert agree after
    rcases (service.dispatch method request.arguments).run.run s with ⟨outcome, s'⟩
    rcases (service.dispatch method request.arguments).run.run t with ⟨other, t'⟩
    intro agree after
    obtain rfl : outcome = other := agree.eq
    cases outcome with
    | error fault => exact ⟨rfl, noted after⟩
    | ok result => exact ⟨rfl, after⟩

theorem move_same (move : Move) {s t : Session δ} (related : s.Same t) :
    (service.move move s).1 = (service.move move t).1 ∧
      (service.move move s).2.Same (service.move move t).2 := by
  cases move with
  | call call =>
    have performed : Attempt.Alike Session.Same Eq (service.perform call) _ := perform_same call
    obtain ⟨agree, after⟩ := performed s t related
    exact ⟨congrArg Answer.outcome agree.eq, after⟩
  | request request =>
    obtain ⟨replies, after⟩ := service.exchange_same request related
    exact ⟨congrArg Answer.reply replies, after⟩

/-- From sessions that cannot be told apart, no moves make a difference visible. -/
theorem sights_same (moves : List Move) {s t : Session δ} (related : s.Same t) :
    service.sights moves s = service.sights moves t := by
  induction moves generalizing s t with
  | nil => rfl
  | cons move rest ih =>
    obtain ⟨answers, after⟩ := service.move_same move related
    simp only [sights]
    rw [answers, ih after, after.1, after.2, after.2.masked, after.2.configured]

/-- Behind a refused seed nothing tells the register from a new one. -/
theorem same_of_refused {refused : Move} (empty : refused.seed? = some "") (session : Session δ) :
    let left := (service.move refused session).2
    left.Same ⟨left.scene, {}⟩ := by
  refine ⟨rfl, ?_⟩
  rw [Register.Same, register_of_move, empty, Register.seed?_behind]
  rfl

/-- The seed in use behind some moves is the last text that they set the register to, unless
that is empty. -/
theorem seed?_eq_some_iff (scene : Scene δ) (moves : List Move) (seed : String) :
    (service.behind moves ⟨scene, {}⟩).register.seed? = some seed ↔
      (Move.seeds moves).getLast? = some seed ∧ seed ≠ "" := by
  rw [register_behind, Register.seed?_behind]
  cases (Move.seeds moves).getLast? with
  | none => simp [Register.seed?]
  | some last =>
    by_cases empty : last = ""
    · simp [empty]
    · simp only [String.isEmpty_iff, empty, if_false, Option.some.injEq]
      constructor
      · rintro rfl
        exact ⟨rfl, empty⟩
      · exact And.left

/-- The register tells of the last text that it was set to, and of nothing else. It is
configured, with that very text, unless the text was empty; and behind a refused text the same
moves are answered alike, with the same operations asked of the platform and the same bytes
drawn, as by a service whose register is new. -/
theorem last_seed_decides (service : Service δ) (scene : Scene δ) (moves : List Move)
    {refused : Move} (empty : refused.seed? = some "") (later : List Move)
    (stack : Stack δ) (codec : Codec δ) :
    let register := (service.behind moves ⟨scene, {}⟩).register
    (register.configured = true ↔ ∃ seed, (Move.seeds moves).getLast? = some seed ∧ seed ≠ "") ∧
      (∀ seed, register.seed? = some seed ↔
        (Move.seeds moves).getLast? = some seed ∧ seed ≠ "") ∧
      (∀ session, let left := (service.move refused session).2
        service.sights later left = service.sights later ⟨left.scene, {}⟩) ∧
      let watching := stack.watched.service codec.watched
      ∀ session, let left := (watching.move refused session).2
        (watching.sights later left).map Sight.dealings =
          (watching.sights later ⟨left.scene, {}⟩).map Sight.dealings := by
  refine ⟨?_, service.seed?_eq_some_iff scene moves, fun session => ?_, fun session => ?_⟩
  · rw [Register.configured_eq, Option.isSome_iff_exists]
    exact exists_congr fun seed => service.seed?_eq_some_iff scene moves seed
  · exact service.sights_same later (service.same_of_refused empty session)
  · let watching := stack.watched.service codec.watched
    exact congrArg _ (watching.sights_same later (watching.same_of_refused empty session))

/-- The refused text leaves the seed before it stored, and yet nothing tells of it. -/
theorem refused_seed_is_forgotten :
    let stack : Stack Simulated.Device := ⟨Simulated.processor, Simulated.keyring, {}⟩
    let service := stack.service Codec.ofEnvelopes
    let scene : Scene Simulated.Device := ⟨⟨{ tags := ["t"] }, ⟨[]⟩⟩, []⟩
    let first := Move.call (.configure "seed")
    let refused := Move.request (Request.ofTexts "configure" [("windowsDataToSign", "")])
    let later := [Move.call (.encrypt "t" "text"), Move.request (Request.ofTexts "encrypt" [])]
    let left := (service.move refused (service.behind [first] ⟨scene, {}⟩)).2
    refused.seed? = some "" ∧ left.register = ⟨false, "seed"⟩ ∧
      (service.behind [first] ⟨scene, {}⟩).register.seed? = some "seed" ∧
      service.sights later left = service.sights later ⟨left.scene, {}⟩ := by
  intro stack service scene first refused later left
  have empty : refused.seed? = some "" := by rfl
  have decides := last_seed_decides service scene [first] empty later stack Codec.ofEnvelopes
  refine ⟨empty, by rfl, (decides.2.1 "seed").mpr ⟨by rfl, by decide⟩, ?_⟩
  exact decides.2.2.1 (service.behind [first] ⟨scene, {}⟩)

end Service

end PresenceSeal
