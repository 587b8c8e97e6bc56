import Mathlib.Algebra.GroupWithZero.Nat
import PresenceSeal.Proofs.Host.Accounting
import PresenceSeal.Proofs.Platform.Honest

/-! The lifecycle of credentials on a host and on a simulated platform, over runs of any
requests: under each tag a credential is absent or present, and the requests so far say which. -/
namespace PresenceSeal

/-- The number of random bytes that a request may need. -/
def Request.need (request : Request) : Nat := (request.call?.map Call.need).getD 0

theorem Exchange.cost_le_need (x : Exchange δ) : x.cost ≤ x.request.need := by
  unfold cost Request.need
  split
  · rename_i call _ made _
    rw [made]
    exact Nat.le_refl _
  · rename_i made _
    rw [made]
    split
    · exact Nat.le_refl 12
    · exact Nat.zero_le 12
  · exact Nat.zero_le _

namespace Host.Wiring

variable (w : Wiring)

def stack : Stack Station := ⟨w.processor, w.keyring, w.prompt⟩

theorem stack_honest (biometric : w.Biometric) : w.stack.Honest Station.shelf where
  keyring := Keyring.software_honest w.supported w.availability biometric
  processor := by
    have seen {s t : Surroundings Station} (same : s.holdings = t.holdings) :
        Station.shelf.view s = Station.shelf.view t := by
      obtain ⟨store, desk, -⟩ := Holdings.mk.inj same
      simp only [Shelf.view, Station.shelf, store, desk]
    exact ⟨fun s => seen (w.apart.acquire s), fun handle s => seen (w.apart.platformType handle s),
      fun handle s => seen (w.apart.release handle s)⟩

/-- A source as long as all requests together need supplies each of them. -/
theorem supplied_of_need {requests : List Request} {start : Session Station}
    (enough : (requests.map Request.need).sum ≤ start.holdings.entropy.bytes.length) :
    ∀ x ∈ w.service.exchanges requests start, x.Supplied Station.shelf := by
  intro x member
  induction requests generalizing start with
  | nil => cases member
  | cons request rest ih =>
    rw [List.map_cons, List.sum_cons] at enough
    rcases List.mem_cons.mp member with rfl | member
    · intro tag made _
      have needed : request.need = 32 := by
        rw [Request.need, show request.call? = _ from made]
        rfl
      have first : 32 ≤ start.holdings.entropy.bytes.length := by omega
      exact first
    · refine ih ?_ member
      have taken : _ ∧ _ := (accounted request start : w.Accounted _).taken
      have bounded : _ ≤ request.need := (w.service.exchange request start).cost_le_need
      rw [taken.2, List.length_drop, w.service.before_exchange]
      omega

end Host.Wiring

/-- Over a host whose users approve and whose random bytes suffice, and over a simulated
platform without set outcomes, biometry being supported, every run of requests whatsoever
goes through the states of its tags: what is there at any point is what the requests so far
have left there, and every request is answered accordingly. -/
theorem credentials_come_and_go :
    (∀ (w : Host.Wiring) (start : Session Station) (requests : List Request),
      w.Biometric → start.device.desk.Approving →
      (∀ x ∈ w.service.exchanges requests start, x.Supplied Station.shelf) →
      w.service.Refines (fun station => station.store.find?) start requests) ∧
    ∀ (prompt : Prompt) (start : Session Simulated.Device) (requests : List Request),
      start.device.settings.Unforced →
      (start.device.settings.supported = true ∨
        start.device.settings.availability = .available) →
      (Stack.service ⟨Simulated.processor, Simulated.keyring, prompt⟩ Codec.ofEnvelopes).Refines
        (fun device => Simulated.found device.tags) start requests := by
  constructor
  · intro w start requests biometric approving supplied
    exact (w.stack_honest biometric).refines approving supplied
  · intro prompt start requests unforced biometric
    have honest : Stack.Honest ⟨Simulated.processor, Simulated.keyring, prompt⟩ Simulated.shelf :=
      ⟨Simulated.keyring_honest, Simulated.processor_keeps⟩
    exact honest.refines ⟨unforced, biometric⟩ fun _ _ _ _ _ => Nat.zero_le _

/-- A key that is created twice, deleted, missed and created again is there in the end. -/
theorem key_comes_and_goes :
    let w := Host.Wiring.ofSettings {} none
    let start := Host.session .autoApprove ⟨List.replicate 96 7⟩
    let simulated : Session Simulated.Device := ⟨⟨⟨{}, ⟨[]⟩⟩, []⟩, {}⟩
    let simulation :=
      Stack.service ⟨Simulated.processor, Simulated.keyring, {}⟩ Codec.ofEnvelopes
    let requests : List Request := [
      .ofTexts "configure" [("windowsDataToSign", "s")], .ofTexts "generateKey" [("tag", "t")],
      .ofTexts "generateKey" [("tag", "t")], .ofTexts "deleteKey" [("tag", "t")],
      .ofTexts "decrypt" [("data", "x"), ("tag", "t")], .ofTexts "generateKey" [("tag", "t")]]
    (w.service.Refines (fun station => station.store.find?) start requests ∧
      (w.service.after requests start).device.store.contains "t" = true) ∧
    (simulation.Refines (fun device => Simulated.found device.tags) simulated requests ∧
      "t" ∈ (simulation.after requests simulated).device.tags) := by
  intro w start simulated simulation requests
  have enough : (requests.map Request.need).sum ≤ start.holdings.entropy.bytes.length := by decide
  have software := credentials_come_and_go.1 w start requests (.inl rfl) (.of_gate (.inl rfl))
    (w.supplied_of_need enough)
  have scripted := credentials_come_and_go.2 {} simulated requests ⟨rfl, rfl, rfl, rfl⟩ (.inl rfl)
  refine ⟨⟨software, ?_⟩, scripted, ?_⟩
  · have last := software.states requests [] (List.append_nil _).symm "t"
    obtain ⟨pair, found⟩ := Life.of_eq_present_iff.mp (last.trans (by decide))
    simp [Store.contains, show _ = some pair from found]
  · have last := scripted.states requests [] (List.append_nil _).symm "t"
    obtain ⟨_, found⟩ := Life.of_eq_present_iff.mp (last.trans (by decide))
    by_contra missing
    cases (Simulated.found_eq_none_iff.mpr missing).symm.trans found

end PresenceSeal
