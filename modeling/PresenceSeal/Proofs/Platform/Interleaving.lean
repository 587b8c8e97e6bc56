import PresenceSeal.Proofs.Platform.Software

/-! Errands at a keyring in memory, any number of them under way at once. Each takes its
steps in its own order, and between two of them any steps of the others may come: while a
user is being asked, the tag that was free may be taken, deleted and taken again. -/
namespace PresenceSeal

open Signature (Ed25519.KeyPair)

/-- What is asked of a keyring. A signature is asked of a credential that another errand opens. -/
inductive Errand where
  | create (tag : String) (prompt : Prompt)
  | delete (tag : String)
  | openCredential (tag : String)
  | sign (opening : Nat) (challenge : List UInt8) (prompt : Prompt)

/-- How far an errand has come. -/
inductive Phase where
  | waiting
  /-- The tag has been found free. -/
  | checked
  /-- The user is being asked. -/
  | asked
  | approved
  | created
  | deleted
  | opened (pair : Ed25519.KeyPair)
  | signed (signature : Secret.Buffer)
  | refused (refusal : Refusal)

/-- Where an attempt leads. -/
def Phase.reached (next : α → Phase) : Except Refusal α → Phase
  | .ok a => next a
  | .error refusal => .refused refusal

/-- Takes a step by an attempt, whether it fails or not. -/
def Phase.via (x : Attempt (Surroundings Station) Refusal α) (next : α → Phase) :
    StateM (Surroundings Station) Phase := do
  return reached next (← x.run)

namespace Errand

/-- The next step of an errand, where `opened?` gives the key pairs of opened credentials. An
errand that has returned takes no more steps, and a signature waits for its credential. -/
def step (opened? : Nat → Option Ed25519.KeyPair) :
    Errand → Phase → StateM (Surroundings Station) Phase
  | create tag _, .waiting => Phase.via (Station.checkFree tag) fun _ => .checked
  | create _ prompt, .checked => Phase.via (Station.ask prompt) fun _ => .asked
  | create _ _, .asked => Phase.via Station.settle fun _ => .approved
  | create tag _, .approved => Phase.via (Station.install tag) fun _ => .created
  | delete tag, .waiting =>
    Phase.via ((Keyring.software true .available).delete tag) fun _ => .deleted
  | openCredential tag, .waiting => do
    match (← get).device.store.find? tag with
    | some pair => return .opened pair
    | none => return .refused .notFound
  | sign opening _ prompt, .waiting =>
    match opened? opening with
    | some _ => Phase.via (Station.ask prompt) fun _ => .asked
    | none => return .waiting
  | sign _ _ _, .asked => Phase.via Station.settle fun _ => .approved
  | sign opening challenge _, .approved =>
    match opened? opening with
    | some pair => return .signed ⟨(pair.sign challenge).val⟩
    | none => return .approved
  | _, phase => return phase

end Errand

/-- An errand and how far it has come. -/
structure Flight where
  errand : Errand
  phase : Phase := .waiting

/-- A keyring with errands under way. -/
structure Traffic where
  surroundings : Surroundings Station
  flights : List Flight

namespace Traffic

/-- Errands that have not begun. -/
def launch (surroundings : Surroundings Station) (errands : List Errand) : Traffic :=
  ⟨surroundings, errands.map ({ errand := · })⟩

def store (traffic : Traffic) : Store := traffic.surroundings.device.store

/-- The key pair of a credential that an errand has opened. -/
def opened? (traffic : Traffic) (i : Nat) : Option Ed25519.KeyPair :=
  match traffic.flights[i]? with
  | some ⟨_, .opened pair⟩ => some pair
  | _ => none

/-- One step of an errand, the others standing still. -/
def turn (i : Nat) (traffic : Traffic) : Traffic :=
  match traffic.flights[i]? with
  | none => traffic
  | some flight =>
    let (phase, surroundings) :=
      (flight.errand.step traffic.opened? flight.phase).run traffic.surroundings
    ⟨surroundings, traffic.flights.set i { flight with phase }⟩

/-- The state behind some turns, which name the errands that take them. -/
def after (turns : List Nat) (traffic : Traffic) : Traffic :=
  turns.foldl (fun traffic i => traffic.turn i) traffic

end Traffic

/-- One turn of a run. -/
structure Passage where
  before : Traffic
  turn : Nat

namespace Passage

def after (p : Passage) : Traffic := p.before.turn p.turn

/-- In this turn the errand comes to a phase. -/
def Comes (p : Passage) (errand : Errand) (phase : Phase) : Prop :=
  p.before.flights[p.turn]? ≠ some ⟨errand, phase⟩ ∧
    p.after.flights[p.turn]? = some ⟨errand, phase⟩

def Creates (p : Passage) (tag : String) : Prop := ∃ prompt, p.Comes (.create tag prompt) .created

def Deletes (p : Passage) (tag : String) : Prop := p.Comes (.delete tag) .deleted

end Passage

/-- The turns of a run, one after another. -/
def Traffic.passages : List Nat → Traffic → List Passage
  | [], _ => []
  | i :: rest, traffic => ⟨traffic, i⟩ :: passages rest (traffic.turn i)

namespace Errand

variable {opened? : Nat → Option Ed25519.KeyPair} {s after : Surroundings Station}

theorem run_via (x : Attempt (Surroundings Station) Refusal α) (next : α → Phase) :
    (Phase.via x next).run s = (.reached next (x.run.run s).1, (x.run.run s).2) := rfl

theorem run_openCredential (tag : String) :
    ((openCredential tag).step opened? .waiting).run s =
      match s.device.store.find? tag with
      | some pair => (.opened pair, s)
      | none => (.refused .notFound, s) := by
  have looked : ((openCredential tag).step opened? .waiting).run s =
      (match s.device.store.find? tag with
        | some pair => pure (.opened pair)
        | none => pure (.refused .notFound) : StateM (Surroundings Station) Phase).run s := rfl
  rw [looked]
  cases s.device.store.find? tag <;> rfl

/-- The ways in which a step of an errand can go. -/
inductive Goes (opened? : Nat → Option Ed25519.KeyPair) (s : Surroundings Station) :
    Errand → Phase → Phase → Surroundings Station → Prop where
  | stays {errand phase} : Goes opened? s errand phase phase s
  | free {tag prompt} : s.device.store.contains tag = false →
      Goes opened? s (.create tag prompt) .waiting .checked s
  | taken {tag prompt} : s.device.store.contains tag = true →
      Goes opened? s (.create tag prompt) .waiting (.refused .credentialAlreadyExists) s
  | asks {errand phase} (prompt) :
      Goes opened? s errand phase .asked (Station.atDesk.set (s.device.desk.ask prompt) s)
  | approved {errand desk} : s.device.desk.settle = (.ok (), desk) →
      Goes opened? s errand .asked .approved (Station.atDesk.set desk s)
  | declined {errand refusal desk} : s.device.desk.settle = (.error refusal, desk) →
      Goes opened? s errand .asked (.refused refusal) (Station.atDesk.set desk s)
  | created {tag prompt seed rest} : s.device.store.contains tag = false →
      s.entropy.draw? 32 = some (seed, rest) →
      Goes opened? s (.create tag prompt) .approved .created
        (Station.noting .debug "software credential created"
          ⟨{ s.device with store := s.device.store.insert tag ⟨seed⟩ }, rest⟩)
  | lost {tag prompt seed rest} : s.device.store.contains tag = true →
      s.entropy.draw? 32 = some (seed, rest) →
      Goes opened? s (.create tag prompt) .approved (.refused .credentialAlreadyExists)
        (Station.atSource.set rest s)
  | exhausted {tag prompt} : s.entropy.draw? 32 = none →
      Goes opened? s (.create tag prompt) .approved (.refused .unknownError)
        (Station.noting .error "Ed25519 key generation failed" s)
  | deleted {tag} : s.device.store.contains tag = true →
      Goes opened? s (.delete tag) .waiting .deleted
        { s with device := { s.device with store := s.device.store.erase tag } }
  | absent {tag} : s.device.store.contains tag = false →
      Goes opened? s (.delete tag) .waiting (.refused .notFound) s
  | opened {tag pair} : s.device.store.find? tag = some pair →
      Goes opened? s (.openCredential tag) .waiting (.opened pair) s
  | missing {tag} : s.device.store.find? tag = none →
      Goes opened? s (.openCredential tag) .waiting (.refused .notFound) s
  | signed {opening challenge prompt pair} : opened? opening = some pair →
      Goes opened? s (.sign opening challenge prompt) .approved
        (.signed ⟨(pair.sign challenge).val⟩) s

theorem goes_of_settle (errand : Errand) :
    let ran := (Phase.via Station.settle fun _ => .approved).run s
    Goes opened? s errand .asked ran.1 ran.2 := by
  obtain ⟨answer, desk, settled⟩ : ∃ answer desk, s.device.desk.settle = (answer, desk) :=
    ⟨_, _, rfl⟩
  have ran : Station.settle.run.run s = (answer, Station.atDesk.set desk s) := by
    rw [Station.settle, Part.run_attempt]
    exact congrArg (fun ran => (ran.1, Station.atDesk.set ran.2 s)) settled
  rw [run_via, ran]
  cases answer with
  | error refusal => exact .declined settled
  | ok => exact .approved settled

/-- Every step goes in one of the ways. -/
theorem goes (opened? : Nat → Option Ed25519.KeyPair) (s : Surroundings Station) (errand : Errand)
    (phase : Phase) :
    let ran := (errand.step opened? phase).run s
    Goes opened? s errand phase ran.1 ran.2 := by
  cases errand with
  | create tag prompt =>
    cases phase with
    | waiting =>
      rw [step, run_via, Station.run_checkFree]
      cases present : s.device.store.contains tag with
      | true => exact .taken present
      | false => exact .free present
    | checked => exact .asks prompt
    | asked => exact goes_of_settle _
    | approved =>
      rw [step, run_via, Station.run_install]
      cases drawn : s.entropy.draw? 32 with
      | none => exact .exhausted drawn
      | some draw =>
        cases present : s.device.store.contains tag with
        | true => exact .lost present drawn
        | false => exact .created present drawn
    | _ => exact .stays
  | delete tag =>
    cases phase with
    | waiting =>
      rw [step, run_via, Keyring.run_delete]
      cases present : s.device.store.contains tag with
      | true => exact .deleted present
      | false => exact .absent present
    | _ => exact .stays
  | openCredential tag =>
    cases phase with
    | waiting =>
      rw [run_openCredential]
      cases found : s.device.store.find? tag with
      | none => exact .missing found
      | some pair => exact .opened found
    | _ => exact .stays
  | sign opening challenge prompt =>
    cases phase with
    | waiting =>
      rw [step]
      cases opened? opening with
      | none => exact .stays
      | some pair => exact .asks prompt
    | asked => exact goes_of_settle _
    | approved =>
      rw [step]
      cases found : opened? opening with
      | none => exact .stays
      | some pair => exact .signed found
    | _ => exact .stays

namespace Goes

variable {errand : Errand} {phase next : Phase} {tag : String} {prompt : Prompt}
  {pair : Ed25519.KeyPair}

theorem inserted (goes : Goes opened? s (.create tag prompt) phase .created after)
    (new : phase ≠ .created) :
    s.device.store.find? tag = none ∧
      ∃ pair, after.device.store = s.device.store.insert tag pair := by
  cases goes with
  | stays => contradiction
  | created free => exact ⟨by simpa [Store.contains] using free, _, rfl⟩

theorem erased (goes : Goes opened? s (.delete tag) phase .deleted after)
    (new : phase ≠ .deleted) :
    s.device.store.find? tag ≠ none ∧ after.device.store = s.device.store.erase tag := by
  cases goes with
  | stays => contradiction
  | deleted present =>
    refine ⟨fun missing => ?_, rfl⟩
    rw [Store.contains, missing] at present
    cases present

/-- A step leaves the store alone, or it is the one that creates or deletes. -/
theorem store_cases (goes : Goes opened? s errand phase next after) :
    after.device.store = s.device.store ∨
      (∃ tag prompt, errand = .create tag prompt ∧ phase ≠ .created ∧ next = .created) ∨
      ∃ tag, errand = .delete tag ∧ phase ≠ .deleted ∧ next = .deleted := by
  cases goes with
  | created => exact .inr (.inl ⟨_, _, rfl, nofun, rfl⟩)
  | deleted => exact .inr (.inr ⟨_, rfl, nofun, rfl⟩)
  | _ => exact .inl rfl

theorem found (goes : Goes opened? s errand phase (.opened pair) after)
    (new : phase ≠ .opened pair) :
    ∃ tag, errand = .openCredential tag ∧ s.device.store.find? tag = some pair := by
  cases goes with
  | stays => contradiction
  | opened found => exact ⟨_, rfl, found⟩

theorem signature {opening : Nat} {challenge : List UInt8} {signature : Secret.Buffer}
    (goes : Goes opened? s (.sign opening challenge prompt) phase (.signed signature) after)
    (new : phase ≠ .signed signature) :
    ∃ pair, opened? opening = some pair ∧ signature = ⟨(pair.sign challenge).val⟩ := by
  cases goes with
  | stays => contradiction
  | signed opened => exact ⟨_, opened, rfl⟩

end Goes

end Errand

namespace Traffic

variable {traffic : Traffic} {i : Nat} {errand : Errand} {phase : Phase}

theorem turn_of_flight (found : traffic.flights[i]? = some ⟨errand, phase⟩) :
    let ran := (errand.step traffic.opened? phase).run traffic.surroundings
    traffic.turn i = ⟨ran.2, traffic.flights.set i ⟨errand, ran.1⟩⟩ := by
  rw [turn, found]
  rfl

theorem opened?_eq_some_iff {pair : Ed25519.KeyPair} :
    traffic.opened? i = some pair ↔
      ∃ errand, traffic.flights[i]? = some ⟨errand, .opened pair⟩ := by
  unfold opened?
  split
  · rename_i errand other found
    rw [found]
    constructor
    · rintro ⟨⟩
      exact ⟨errand, rfl⟩
    · rintro ⟨_, ⟨⟩⟩
      rfl
  · rename_i other
    constructor
    · nofun
    · rintro ⟨errand, found⟩
      exact absurd found (other errand pair)

theorem turn_of_none (found : traffic.flights[i]? = none) : traffic.turn i = traffic := by
  rw [turn, found]

end Traffic

namespace Passage

variable {p : Passage} {tag : String} {pair : Ed25519.KeyPair} {errand : Errand} {next : Phase}

theorem comes_of_step {phase : Phase} {after : Surroundings Station}
    (found : p.before.flights[p.turn]? = some ⟨errand, phase⟩)
    (ran : (errand.step p.before.opened? phase).run p.before.surroundings = (next, after)) :
    p.after = ⟨after, p.before.flights.set p.turn ⟨errand, next⟩⟩ ∧
      (phase ≠ next → p.Comes errand next) := by
  have turned : p.after = _ := Traffic.turn_of_flight found
  have inside := (List.getElem?_eq_some_iff.mp found).1
  rw [ran] at turned
  refine ⟨turned, fun new => ⟨fun same => new ?_, ?_⟩⟩
  · exact (Flight.mk.inj (Option.some.inj (found.symm.trans same))).2
  · rw [turned, List.getElem?_set_self inside]

/-- A turn is idle, or it is one step of the errand that it names. -/
theorem cases (p : Passage) :
    (p.before.flights[p.turn]? = none ∧ p.after = p.before) ∨
      ∃ errand phase next, p.before.flights[p.turn]? = some ⟨errand, phase⟩ ∧
        p.after.flights = p.before.flights.set p.turn ⟨errand, next⟩ ∧
        (phase ≠ next → p.Comes errand next) ∧
        Errand.Goes p.before.opened? p.before.surroundings errand phase next
          p.after.surroundings := by
  cases found : p.before.flights[p.turn]? with
  | none => exact .inl ⟨rfl, Traffic.turn_of_none found⟩
  | some flight =>
    obtain ⟨turned, comes⟩ := comes_of_step found rfl
    refine .inr ⟨flight.errand, flight.phase, _, rfl, ?_, comes, ?_⟩
    · rw [turned]
    · rw [turned]
      exact Errand.goes ..

/-- What is set in a turn is what its errand comes to. -/
theorem Comes.goes (comes : p.Comes errand next) :
    ∃ phase, phase ≠ next ∧ p.before.flights[p.turn]? = some ⟨errand, phase⟩ ∧
      Errand.Goes p.before.opened? p.before.surroundings errand phase next
        p.after.surroundings := by
  obtain ⟨other, came⟩ := comes
  rcases p.cases with ⟨-, idle⟩ | ⟨errand', phase, next', found, flights, -, goes⟩
  · exact absurd (idle ▸ came) other
  · have inside := (List.getElem?_eq_some_iff.mp found).1
    rw [flights, List.getElem?_set_self inside] at came
    obtain ⟨rfl, rfl⟩ := Flight.mk.inj (Option.some.inj came)
    refine ⟨phase, ?_, found, goes⟩
    rintro rfl
    exact other found

theorem Creates.inserted (creates : p.Creates tag) :
    p.before.store.find? tag = none ∧ ∃ pair, p.after.store = p.before.store.insert tag pair := by
  obtain ⟨prompt, comes⟩ := creates
  obtain ⟨phase, new, -, goes⟩ := comes.goes
  exact goes.inserted new

theorem Deletes.erased (deletes : p.Deletes tag) :
    p.before.store.find? tag ≠ none ∧ p.after.store = p.before.store.erase tag := by
  obtain ⟨phase, new, -, goes⟩ := Comes.goes deletes
  exact goes.erased new

/-- Only turns that create or delete touch the store. -/
theorem store_cases (p : Passage) :
    p.after.store = p.before.store ∨ (∃ tag, p.Creates tag) ∨ ∃ tag, p.Deletes tag := by
  rcases p.cases with ⟨-, idle⟩ | ⟨errand, phase, next, -, -, comes, goes⟩
  · exact .inl (by rw [idle])
  · rcases goes.store_cases with same | ⟨tag, prompt, rfl, new, rfl⟩ | ⟨tag, rfl, new, rfl⟩
    · exact .inl same
    · exact .inr (.inl ⟨tag, prompt, comes new⟩)
    · exact .inr (.inr ⟨tag, comes new⟩)

/-- A key pair stays as it is until it is deleted. -/
theorem kept (held : p.before.store.find? tag = some pair) :
    p.after.store.find? tag = some pair ∨ (p.Deletes tag ∧ p.after.store.find? tag = none) := by
  rcases p.store_cases with same | ⟨other, creates⟩ | ⟨other, deletes⟩
  · exact .inl (same ▸ held)
  · obtain ⟨free, new, installed⟩ := creates.inserted
    have differ : tag ≠ other := by
      rintro rfl
      cases free.symm.trans held
    rw [installed, Store.find?_insert_of_ne _ _ differ]
    exact .inl held
  · obtain ⟨-, gone⟩ := deletes.erased
    rw [gone, Store.find?_erase]
    by_cases same : tag = other
    · exact .inr ⟨same ▸ deletes, if_pos same⟩
    · rw [if_neg same]
      exact .inl held

/-- Behind a turn there is a key pair under a tag if the turn creates it, or if there was one
that the turn does not delete. -/
theorem present_iff :
    p.after.store.find? tag ≠ none ↔
      p.Creates tag ∨ (p.before.store.find? tag ≠ none ∧ ¬ p.Deletes tag) := by
  constructor
  · intro present
    by_cases creates : p.Creates tag
    · exact .inl creates
    · refine .inr ⟨fun missing => present ?_, fun deletes => ?_⟩
      · rcases p.store_cases with same | ⟨other, created⟩ | ⟨other, deleted⟩
        · rw [same, missing]
        · obtain ⟨-, new, installed⟩ := created.inserted
          have differ : tag ≠ other := by
            rintro rfl
            exact creates created
          rw [installed, Store.find?_insert_of_ne _ _ differ, missing]
        · rw [deleted.erased.2, Store.find?_erase, missing, ite_self]
      · rw [deletes.erased.2, Store.find?_erase, if_pos rfl] at present
        exact present rfl
  · rintro (creates | ⟨present, survives⟩)
    · obtain ⟨-, new, installed⟩ := creates.inserted
      rw [installed, Store.find?_insert_self]
      nofun
    · obtain ⟨pair, held⟩ := Option.ne_none_iff_exists'.mp present
      rcases p.kept held with same | ⟨deletes, -⟩
      · rw [same]
        nofun
      · exact absurd deletes survives

/-- A credential that has been opened stays open, and it is opened with the key pair that the
store has at that time. -/
theorem opened_cases {i : Nat} (opened : p.after.opened? i = some pair) :
    p.before.opened? i = some pair ∨
      (p.turn = i ∧ ∃ tag, p.Comes (.openCredential tag) (.opened pair) ∧
        p.before.store.find? tag = some pair) := by
  obtain ⟨opener, open'⟩ := Traffic.opened?_eq_some_iff.mp opened
  rcases p.cases with ⟨-, idle⟩ | ⟨errand, phase, next, found, flights, comes, goes⟩
  · exact .inl (idle ▸ opened)
  · rw [flights] at open'
    by_cases turned : p.turn = i
    · have inside := (List.getElem?_eq_some_iff.mp found).1
      rw [← turned, List.getElem?_set_self inside] at open'
      obtain ⟨rfl, rfl⟩ := Flight.mk.inj (Option.some.inj open')
      by_cases before : phase = .opened pair
      · rw [before, turned] at found
        exact .inl (Traffic.opened?_eq_some_iff.mpr ⟨_, found⟩)
      · obtain ⟨tag, rfl, held⟩ := goes.found before
        exact .inr ⟨turned, tag, comes before, held⟩
    · rw [List.getElem?_set_ne turned] at open'
      exact .inl (Traffic.opened?_eq_some_iff.mpr ⟨_, open'⟩)

end Passage

/-! An errand that is left to itself does what the keyring does in one go. -/

namespace Errand

/-- Some steps of an errand, one right after another. -/
def steps (opened? : Nat → Option Ed25519.KeyPair) (errand : Errand) :
    Nat → Phase → StateM (Surroundings Station) Phase
  | 0, phase => return phase
  | n + 1, phase => do errand.steps opened? n (← errand.step opened? phase)

variable {opened? : Nat → Option Ed25519.KeyPair} (s : Surroundings Station)

theorem run_steps (errand : Errand) (n : Nat) (phase : Phase) :
    (errand.steps opened? (n + 1) phase).run s =
      let ran := (errand.step opened? phase).run s
      (errand.steps opened? n ran.1).run ran.2 := rfl

theorem run_steps_refused (errand : Errand) (n : Nat) (refusal : Refusal) :
    (errand.steps opened? n (.refused refusal)).run s = (.refused refusal, s) := by
  induction n with
  | zero => rfl
  | succ n ih =>
    rw [run_steps]
    cases errand <;> exact ih

theorem steps_create (tag : String) (prompt : Prompt) (supported : Bool)
    (availability : Availability) :
    ((create tag prompt).steps opened? 4 .waiting).run s =
      (Phase.via ((Keyring.software supported availability).create tag prompt)
        fun _ => .created).run s := by
  rw [run_via, Keyring.run_create, run_steps, step, run_via, Station.run_checkFree]
  cases s.device.store.contains tag with
  | true => exact run_steps_refused ..
  | false =>
    obtain ⟨answer, desk, answered⟩ : ∃ answer desk, s.device.desk.answer prompt = (answer, desk) :=
      ⟨_, _, rfl⟩
    simp only [Bool.false_eq_true, ↓reduceIte, Phase.reached]
    rw [run_steps, step, run_via, Station.run_ask]
    simp only [Phase.reached]
    rw [run_steps, step, run_via, Station.run_settle_ask, answered]
    cases answer with
    | error refusal => exact run_steps_refused ..
    | ok => rfl

theorem steps_sign {opening : Nat} {pair : Ed25519.KeyPair} (opened : opened? opening = some pair)
    (challenge : List UInt8) (prompt : Prompt) :
    ((sign opening challenge prompt).steps opened? 3 .waiting).run s =
      (Phase.via (Station.sign pair challenge prompt) .signed).run s := by
  obtain ⟨answer, desk, answered⟩ : ∃ answer desk, s.device.desk.answer prompt = (answer, desk) :=
    ⟨_, _, rfl⟩
  rw [run_via, Station.run_sign, run_steps, step, opened]
  simp only []
  rw [run_via, Station.run_ask]
  simp only [Phase.reached]
  rw [run_steps, step, run_via, Station.run_settle_ask, answered]
  cases answer with
  | error refusal => exact run_steps_refused ..
  | ok =>
    simp only [Phase.reached]
    rw [run_steps, step, opened]
    rfl

end Errand

end PresenceSeal
