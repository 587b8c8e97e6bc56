import PresenceSeal.Proofs.Json.Printing
import PresenceSeal.Proofs.Json.Record
import PresenceSeal.Proofs.Json.Rereading
import PresenceSeal.Proofs.Request.Exchange
import PresenceSeal.Request.Channel

/-! Responses on their lines. A response holds the identifier of its request, which fits a
document since it has been read from one, and texts and small numbers beside it; so its line is
an object that can be read, and all but the identifier is read as it was. -/
namespace PresenceSeal

/-! ### Results -/

/-- An attempt whose values are such, where it yields one. -/
def Attempt.Yields (x : Attempt σ ε α) (P : α → Prop) : Prop :=
  ∀ s a t, x.run.run s = (.ok a, t) → P a

namespace Attempt

variable {P : α → Prop} {Q : β → Prop}

theorem yields_of_forall {x : Attempt σ ε α} (all : ∀ a, P a) : x.Yields P := fun _ a _ _ => all a

theorem yields_pure {a : α} (holds : P a) : (pure a : Attempt σ ε α).Yields P := by
  intro s b t given
  cases given
  exact holds

theorem yields_throw (e : ε) : (throw e : Attempt σ ε α).Yields P := by
  intro s b t given
  cases given

theorem Yields.bind {x : Attempt σ ε α} {f : α → Attempt σ ε β} (first : x.Yields P)
    (second : ∀ a, P a → (f a).Yields Q) : (x >>= f).Yields Q := by
  intro s b t given
  rw [Attempt.run_bind] at given
  cases made : x.run.run s with
  | mk outcome t' =>
    rw [made] at given
    cases outcome with
    | error e => cases given
    | ok a => exact second a (first s a t' made) t' b t given

/-- What is made of any value. -/
theorem yields_bind {x : Attempt σ ε α} {f : α → Attempt σ ε β} (every : ∀ a, (f a).Yields Q) :
    (x >>= f).Yields Q :=
  Yields.bind (yields_of_forall (P := fun _ => True) fun _ => trivial) fun a _ => every a

end Attempt

namespace Service

open Attempt

variable (service : Service δ)

theorem tpmStatus_small : service.tpmStatus.Yields (· < 7) := by
  refine yields_bind fun outcome => ?_
  split
  · rename_i status
    cases status <;> exact yields_pure (by decide)
  · exact yields_bind fun _ => yields_pure (by decide)
  · exact yields_bind fun _ => yields_pure (by decide)
  · exact yields_throw _

theorem biometryStatus_small : service.biometryStatus.Yields (· < 7) :=
  yields_bind fun status => by cases status <;> exact yields_pure (by decide)

/-- Results are texts, small numbers or nothing. -/
theorem perform_plain (call : Call) : (service.perform call).Yields Json.Plain := by
  have number {n : Nat} (small : n < 7) : (Json.int n).Plain := ⟨by omega, by omega⟩
  cases call with
  | getTpmStatus => exact service.tpmStatus_small.bind fun n small => yields_pure (number small)
  | getBiometryStatus =>
    exact service.biometryStatus_small.bind fun n small => yields_pure (number small)
  | generateKey tag => exact yields_bind fun _ => yields_pure trivial
  | deleteKey tag => exact yields_bind fun _ => yields_pure trivial
  | encrypt tag data => exact yields_bind fun _ => yields_pure trivial
  | decrypt tag data => exact yields_bind fun _ => yields_pure trivial
  | configure seed => exact yields_bind fun _ => yields_pure trivial

theorem handle_plain {name : String} {arguments : Option Json} {session : Session δ} {result : Json}
    (given : ((service.handle name arguments).run session).1 = .success result) :
    result.Plain := by
  cases named : Method.ofName? name with
  | none =>
    simp only [handle, named] at given
    cases given
  | some method =>
    have plain : (service.dispatch method arguments).Yields Json.Plain :=
      yields_bind fun _ => yields_bind fun call => service.perform_plain call
    rw [service.run_handle named] at given
    cases made : (service.dispatch method arguments).run.run session with
    | mk outcome after =>
      rw [made] at given
      cases outcome with
      | error fault => cases given
      | ok value =>
        cases given
        exact plain session result after made

end Service

/-! ### Responses -/

namespace Channel

/-- A response that can be read again from its line. -/
structure Response.Sound (response : Response) : Prop where
  id : Json.Fits 126 response.id
  result : ∀ result, response.reply = .success result → result.Plain

theorem record_keeps_id :
    record.Keeps 126 fun draft => ∀ id, draft.id = some id → Json.Fits 126 id where
  start := by nofun
  field := by
    intro field inside gathered text next rest holds given
    simp only [record, List.mem_cons, List.not_mem_nil, or_false] at inside
    rcases inside with rfl | rfl | rfl
    · obtain ⟨id, _, read, made⟩ := Json.bind_eq_ok given
      cases made
      intro id' same
      cases same
      exact Json.fits_of_value read
    · obtain ⟨_, _, -, made⟩ := Json.bind_eq_ok given
      cases made
      exact holds
    · obtain ⟨_, _, -, made⟩ := Json.bind_eq_ok given
      cases made
      exact holds
  other := by
    intro gathered key text next rest holds given
    obtain ⟨_, _, -, given⟩ := Json.bind_eq_ok given
    obtain ⟨_, _, -, made⟩ := Json.bind_eq_ok given
    cases made
    exact holds

/-- An identifier that has been read with its request fits. -/
theorem fits_of_request {line : String} {read : Request} (given : request line = .ok read) :
    Json.Fits 126 read.id := by
  obtain ⟨⟨found, rest⟩, made, given⟩ := Json.andThen_eq_ok given
  obtain ⟨draft, kept, finished⟩ := record_keeps_id.read made
  have same : found = read := by
    dsimp only at given
    split at given
    · exact Except.ok.inj given
    · cases given
  rw [← same, ← Except.ok.inj finished]
  cases id : draft.id with
  | none => exact .null
  | some j => exact kept j id

theorem run_respond_of_ok {line : String} {read : Request} (given : request line = .ok read)
    (service : Service δ) (session : Session δ) :
    (respond service line).run session =
      (⟨read.id, (service.exchange ⟨read.method, read.arguments⟩ session).reply⟩,
        (service.exchange ⟨read.method, read.arguments⟩ session).after) := by
  simp only [respond, given]
  rfl

/-- A line that is no request is answered as an invalid argument. -/
theorem run_respond_of_error {line : String} {error : Json.Error}
    (given : request line = .error error) (service : Service δ) (session : Session δ) :
    (respond service line).run session =
      (⟨.null, .error .invalidArgument ("malformed request: " ++ error.message)⟩,
        session.noting .warn "malformed request line") := by
  simp only [respond, given]
  rfl

theorem respond_sound (service : Service δ) (line : String) (session : Session δ) :
    ((respond service line).run session).1.Sound := by
  cases given : request line with
  | error error =>
    rw [run_respond_of_error given]
    exact ⟨.null, nofun⟩
  | ok read =>
    rw [run_respond_of_ok given]
    exact ⟨fits_of_request given, fun result success => service.handle_plain success⟩

theorem Response.Sound.plain {response : Response} (sound : response.Sound) :
    ∀ member ∈ response.reply.members, Json.Plain member.2 := by
  cases reply : response.reply with
  | success result =>
    exact List.forall_mem_cons.mpr ⟨trivial,
      List.forall_mem_singleton.mpr (sound.result result reply)⟩
  | error code message =>
    exact List.forall_mem_cons.mpr ⟨trivial, List.forall_mem_cons.mpr ⟨trivial,
      List.forall_mem_singleton.mpr trivial⟩⟩
  | notImplemented => exact List.forall_mem_singleton.mpr trivial

/-- What is read of plain members is the members. -/
theorem entries_eq_of_plain {members entries : List (String × Json)}
    (plain : ∀ member ∈ members, Json.Plain member.2)
    (related : List.Forall₂ (Json.Entry Json.Kept) members entries) : entries = members := by
  induction related with
  | nil => rfl
  | cons entry _ ih =>
    obtain ⟨first, others⟩ := List.forall_mem_cons.mp plain
    rw [ih others]
    exact congrArg (· :: _) (Prod.ext entry.1 (entry.2 first))

theorem Response.render_printable (response : Response) : ∀ c ∈ response.render, Printable c :=
  Json.printable_render _

theorem Response.distinct (id : Json) (reply : Reply) :
    ((("id", id) :: reply.members).map (·.1)).Nodup := by
  cases reply with
  | success result => exact (by decide : ["id", "status", "result"].Nodup)
  | error code message => exact (by decide : ["id", "status", "code", "message"].Nodup)
  | notImplemented => exact (by decide : ["id", "status"].Nodup)

/-- The line of a response is an object in which all but the identifier is found as it was. -/
theorem Response.Sound.reread {response : Response} (sound : response.Sound) :
    ∃ id members, (response.id.Plain → id = response.id) ∧
      Json.parse response.render = .ok (.object members) ∧
      ∀ key, members.lookup key = (("id", id) :: response.reply.members).lookup key := by
  have fits : ∀ member ∈ ("id", response.id) :: response.reply.members, Json.Fits 126 member.2 :=
    List.forall_mem_cons.mpr ⟨sound.id, fun member inside => (sound.plain member inside).fits⟩
  obtain ⟨entries, related, parsed⟩ := Json.parse_render fits
  cases related with
  | @cons _ first _ rest entry related =>
    obtain ⟨key, id⟩ := first
    obtain rfl : key = "id" := entry.1
    obtain rfl := entries_eq_of_plain sound.plain related
    refine ⟨id, _, entry.2, parsed, fun key => ?_⟩
    rw [Json.lookup_insertAll (Response.distinct _ _), List.lookup_nil, Option.or_none]

end Channel

end PresenceSeal
