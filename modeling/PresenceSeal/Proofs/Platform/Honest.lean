import PresenceSeal.Proofs.Service.Lifecycle

/-! Honest keyrings: the one in memory, as long as the user approves and there are bytes for
new key pairs, and the simulated one as long as no outcome is set. -/
namespace PresenceSeal

/-- A desk at which everything is approved, however much has been asked before. -/
def Consent.Desk.Approving (desk : Desk) : Prop :=
  ∀ (earlier : List Prompt) prompt,
    ((earlier.foldl (fun desk prompt => (desk.answer prompt).2) desk).answer prompt).1 = .ok ()

namespace Consent.Desk.Approving

variable {desk : Desk}

theorem answer (approving : desk.Approving) (prompt : Prompt) :
    (desk.answer prompt).1 = .ok () ∧ (desk.answer prompt).2.Approving :=
  ⟨approving [] prompt, fun earlier => approving (prompt :: earlier)⟩

/-- A gate that approves by itself goes on approving, and so does a script without refusals. -/
theorem of_gate (approves : desk.gate = .autoApprove ∨
    ∃ outcomes, desk.gate = .scripted outcomes ∧ ∀ outcome ∈ outcomes, outcome = .ok ()) :
    desk.Approving := by
  intro earlier
  induction earlier generalizing desk with
  | nil =>
    intro prompt
    obtain ⟨gate, asked, written, journal⟩ := desk
    rcases approves with same | ⟨outcomes, same, approved⟩
    · obtain rfl : gate = .autoApprove := same
      rfl
    · obtain rfl : gate = .scripted outcomes := same
      cases outcomes with
      | nil => rfl
      | cons outcome rest => exact approved outcome List.mem_cons_self
  | cons first rest ih =>
    refine ih ?_
    obtain ⟨gate, asked, written, journal⟩ := desk
    rcases approves with same | ⟨outcomes, same, approved⟩
    · obtain rfl : gate = .autoApprove := same
      exact .inl rfl
    · obtain rfl : gate = .scripted outcomes := same
      cases outcomes with
      | nil => exact .inr ⟨[], rfl, approved⟩
      | cons outcome others =>
        exact .inr ⟨others, rfl, fun other member => approved other (List.mem_cons_of_mem _ member)⟩

end Consent.Desk.Approving

namespace Store

variable (store : Store) (tag : String)

theorem find?_insert (pair : Signature.Ed25519.KeyPair) :
    (store.insert tag pair).find? = Function.update store.find? tag (some pair) := by
  funext other
  by_cases same : other = tag
  · rw [same, find?_insert_self, Function.update_self]
  · rw [find?_insert_of_ne _ _ same, Function.update_of_ne same]

theorem find?_erase_eq_update : (store.erase tag).find? = Function.update store.find? tag none := by
  funext other
  rw [find?_erase, Function.update_apply]

theorem contains_eq_false_iff : store.contains tag = false ↔ store.find? tag = none := by
  simp [contains]

end Store

/-- The key pairs of a station at whose desk everything is approved. -/
def Station.shelf : Shelf Station Signature.Ed25519.KeyPair where
  kept station := station.store.find?
  ready station := station.desk.Approving
  supply := 32

namespace Keyring

variable (supported : Bool) (availability : Availability) {s : Surroundings Station} {tag : String}

theorem run_create_of_approving (prompt : Prompt) (approving : s.device.desk.Approving)
    (free : s.device.store.find? tag = none) (enough : 32 ≤ s.entropy.bytes.length) :
    ∃ new after, ((software supported availability).create tag prompt).run.run s = (.ok (), after) ∧
      after.device.desk.Approving ∧
      after.device.store.find? = Function.update s.device.store.find? tag (some new) := by
  obtain ⟨approved, approves⟩ := approving.answer prompt
  have absent := (Store.contains_eq_false_iff _ _).mpr free
  have drawn := Entropy.draw?_of_le enough
  rw [run_create, absent, approved]
  simp only [Bool.false_eq_true, ↓reduceIte]
  rw [Station.run_install]
  simp only [Station.atDesk, drawn, absent]
  exact ⟨_, _, rfl, approves, Store.find?_insert ..⟩

theorem software_honest (biometric : supported = true ∨ availability = .available) :
    (software supported availability).Honest Station.shelf where
  quiet := software_quiet supported availability
  supports s _ unsupported := by
    have missing : supported = false := unsupported
    rcases biometric with support | available
    · cases support.symm.trans missing
    · exact available
  isSupported _ := rfl
  availability _ := rfl
  foreground _ := rfl
  release _ _ := rfl
  created prompt holds free enough := by
    obtain ⟨approving, rfl⟩ := holds
    exact run_create_of_approving supported availability prompt approving free enough
  taken {kept s tag} prompt holds present := by
    obtain ⟨approving, rfl⟩ := holds
    have there : s.device.store.contains tag = true :=
      (Bool.not_eq_false _).mp fun missing => present ((Store.contains_eq_false_iff _ _).mp missing)
    rw [run_create, there]
    exact ⟨s, rfl, approving, rfl⟩
  deleted {kept s} tag holds := by
    obtain ⟨approving, rfl⟩ := holds
    rw [run_delete]
    cases present : s.device.store.contains tag with
    | true => exact ⟨_, _, rfl, .inl rfl, approving, Store.find?_erase_eq_update ..⟩
    | false =>
      have absent := (Store.contains_eq_false_iff _ _).mp present
      exact ⟨_, _, rfl, .inr rfl, approving, (Function.update_eq_self_iff.mpr absent.symm).symm⟩
  missing {kept s tag} holds absent := by
    obtain ⟨approving, rfl⟩ := holds
    rw [run_openCredential, show s.device.store.find? tag = none from absent]
    exact ⟨s, rfl, approving, rfl⟩
  opened {kept s tag} holds present := by
    obtain ⟨approving, rfl⟩ := holds
    obtain ⟨pair, found⟩ := Option.ne_none_iff_exists'.mp present
    rw [run_openCredential, show s.device.store.find? tag = some pair from found]
    refine ⟨_, s, rfl, ⟨approving, rfl⟩, fun {t} challenge prompt held => ?_⟩
    obtain ⟨approved, approves⟩ := held.1.answer prompt
    rw [Station.run_sign, approved]
    exact ⟨_, _, rfl, approves, held.2⟩

end Keyring

namespace Simulated

/-- No operation on credentials has its outcome set. -/
structure Settings.Unforced (settings : Settings) : Prop where
  create : settings.createOutcome = none
  openCredential : settings.openOutcome = none
  delete : settings.deleteOutcome = none
  sign : settings.signOutcome = none

/-- The tags as what is kept under each. -/
def found (tags : List String) (tag : String) : Option Unit := if tag ∈ tags then some () else none

theorem found_eq_none_iff {tags : List String} {tag : String} :
    found tags tag = none ↔ tag ∉ tags := by
  simp [found]

theorem found_cons (tags : List String) (tag : String) :
    found (tag :: tags) = Function.update (found tags) tag (some ()) := by
  funext other
  by_cases same : other = tag <;> simp [found, same]

theorem found_filter (tags : List String) (tag : String) :
    found (tags.filter (· != tag)) = Function.update (found tags) tag none := by
  funext other
  by_cases same : other = tag <;> simp [found, same]

/-- The tags of a simulated device without set outcomes, on which biometry is supported. -/
def shelf : Shelf Device Unit where
  kept device := found device.tags
  ready device := device.settings.Unforced ∧
    (device.settings.supported = true ∨ device.settings.availability = .available)
  supply := 0

theorem keyring_honest : keyring.Honest shelf where
  quiet := keyring_quiet
  supports s ready unsupported := by
    have missing : s.device.settings.supported = false := unsupported
    rcases ready.2 with support | available
    · cases support.symm.trans missing
    · exact available
  isSupported _ := rfl
  availability _ := rfl
  foreground s := by
    obtain ⟨⟨settings, _⟩, _⟩ := s
    obtain ⟨_, _, _, _, _, _, _, _, _, _, _ | _⟩ := settings <;> rfl
  release s t := by
    obtain ⟨⟨settings, _⟩, _⟩ := s
    obtain ⟨_, _, _, _, _, _, _, _, _, _, _ | _⟩ := settings <;> rfl
  created {kept s tag} prompt holds free _ := by
    obtain ⟨ready, rfl⟩ := holds
    rw [run_create, ready.1.create]
    simp only [if_neg (found_eq_none_iff.mp free)]
    exact ⟨(), _, rfl, ready, found_cons ..⟩
  taken {kept s tag} prompt holds present := by
    obtain ⟨ready, rfl⟩ := holds
    rw [run_create, ready.1.create]
    simp only [if_pos (not_not.mp (mt found_eq_none_iff.mpr present))]
    exact ⟨_, rfl, ready, rfl⟩
  deleted {kept s} tag holds := by
    obtain ⟨ready, rfl⟩ := holds
    rw [run_delete, ready.1.delete]
    by_cases present : tag ∈ s.device.tags
    · simp only [if_pos present]
      exact ⟨_, _, rfl, .inl rfl, ready, found_filter ..⟩
    · simp only [if_neg present]
      have absent := found_eq_none_iff.mpr present
      exact ⟨_, _, rfl, .inr rfl, ready, (Function.update_eq_self_iff.mpr absent.symm).symm⟩
  missing {kept s tag} holds absent := by
    obtain ⟨ready, rfl⟩ := holds
    rw [run_openCredential, ready.1.openCredential]
    simp only [if_neg (found_eq_none_iff.mp absent)]
    exact ⟨_, rfl, ready, rfl⟩
  opened {kept s tag} holds present := by
    obtain ⟨ready, rfl⟩ := holds
    rw [run_openCredential, ready.1.openCredential]
    simp only [if_pos (not_not.mp (mt found_eq_none_iff.mpr present))]
    refine ⟨_, _, rfl, ⟨ready, rfl⟩, fun {t} challenge prompt held => ?_⟩
    rw [run_sign, held.1.1.sign]
    exact ⟨_, _, rfl, held⟩

theorem processor_keeps : processor.Keeps shelf.view where
  acquire s := by
    obtain ⟨⟨settings, _⟩, _⟩ := s
    obtain ⟨_ | _, _⟩ := settings <;> rfl
  platformType _ s := by
    obtain ⟨⟨settings, _⟩, _⟩ := s
    obtain ⟨_, _ | _, _⟩ := settings <;> rfl
  release _ _ := rfl

end Simulated

end PresenceSeal
