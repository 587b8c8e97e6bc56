import PresenceSeal.Proofs.Envelope.Sealing
import PresenceSeal.Request.Facade

/-! Requests answered one after another. An exchange is one request with the session
before it, its reply and the session after it; what every exchange keeps, every run
keeps. The service and its platform are arbitrary. -/
namespace PresenceSeal

structure Request where
  name : String
  arguments : Option Json

def Request.ofTexts (name : String) (arguments : List (String × String)) : Request :=
  ⟨name, some (.object (arguments.map fun (key, text) => (key, .string text)))⟩

/-- The call that a request makes, if its method is known and its arguments are right. -/
def Request.call? (request : Request) : Option Call :=
  match Method.ofName? request.name with
  | none => none
  | some method => (method.call request.arguments).toOption

theorem Request.call?_of_call {name : String} {arguments : Option Json} {method : Method}
    {call : Call} (named : Method.ofName? name = some method)
    (made : method.call arguments = .ok call) : call? ⟨name, arguments⟩ = some call := by
  simp only [call?, named, made, Except.toOption]

/-- The fault of an encryption whose text turns out too long when its nonce has been drawn. -/
def Fault.tooLong : Fault := .encrypt "AES-256-GCM encryption failed"

/-- A call with a text that is not too long, if it is to encrypt one. -/
def Call.Sealable : Call → Prop
  | .encrypt _ text => PresenceSeal.Sealable text
  | _ => True

/-- A request that has nothing encrypted which is too long for it. -/
def Request.Sealable (request : Request) : Prop :=
  ∀ call, request.call? = some call → call.Sealable

theorem Call.exists_of_not_sealable {call : Call} (long : ¬ call.Sealable) :
    ∃ tag text, call = .encrypt tag text ∧ ¬ PresenceSeal.Sealable text := by
  cases call with
  | encrypt tag text => exact ⟨tag, text, rfl, long⟩
  | _ => exact absurd trivial long

theorem Request.sealable_of_call {request : Request} {call : Call}
    (made : request.call? = some call) : request.Sealable ↔ call.Sealable := by
  constructor
  · exact fun sealable => sealable call made
  · rintro sealable other called
    obtain rfl := Option.some.inj (made.symm.trans called)
    exact sealable

/-- A request and what became of it. -/
structure Exchange (δ : Type) where
  before : Session δ
  request : Request
  reply : Reply
  after : Session δ

def Reply.ofOutcome : Except Fault Json → Reply
  | .ok result => .success result
  | .error fault => .ofFault fault

theorem Reply.ofOutcome_eq_success_iff {outcome : Except Fault Json} {result : Json} :
    ofOutcome outcome = .success result ↔ outcome = .ok result := by
  cases outcome <;> simp [ofOutcome, ofFault]

def Session.noting (severity : Severity) (text : String) (session : Session δ) : Session δ :=
  Session.noted.set (⟨severity, text⟩ :: session.scene.journal) session

namespace Service

variable (service : Service δ)

def exchange (request : Request) (session : Session δ) : Exchange δ :=
  let answered := (service.handle request.name request.arguments).run session
  ⟨session, request, answered.1, answered.2⟩

theorem before_exchange (request : Request) (session : Session δ) :
    (service.exchange request session).before = session := rfl

def exchanges : List Request → Session δ → List (Exchange δ)
  | [], _ => []
  | request :: rest, session =>
    service.exchange request session :: exchanges rest (service.exchange request session).after

/-- The session behind some requests. -/
def after (requests : List Request) (session : Session δ) : Session δ :=
  requests.foldl (fun session request => (service.exchange request session).after) session

/-- An exchange of a run answers one of its requests, in the session behind the earlier ones. -/
theorem mem_exchanges {requests : List Request} {session : Session δ} {x : Exchange δ} :
    x ∈ service.exchanges requests session ↔
      ∃ earlier request later, requests = earlier ++ request :: later ∧
        x = service.exchange request (service.after earlier session) := by
  induction requests generalizing session with
  | nil => simp [exchanges]
  | cons first rest ih =>
    rw [exchanges, List.mem_cons, ih]
    constructor
    · rintro (rfl | ⟨earlier, request, later, rfl, rfl⟩)
      · exact ⟨[], first, rest, rfl, rfl⟩
      · exact ⟨first :: earlier, request, later, rfl, rfl⟩
    · rintro ⟨earlier, request, later, split, rfl⟩
      cases earlier with
      | nil =>
        obtain ⟨rfl, rfl⟩ := List.cons.inj split
        exact .inl rfl
      | cons head earlier =>
        obtain ⟨rfl, rfl⟩ := List.cons.inj split
        exact .inr ⟨earlier, request, later, rfl, rfl⟩

/-- What every exchange of a run keeps holds behind the run. -/
theorem after_keeps (holds : Session δ → Prop) {requests : List Request} {session : Session δ}
    (kept : ∀ x ∈ service.exchanges requests session, holds x.before → holds x.after)
    (start : holds session) : holds (service.after requests session) := by
  induction requests generalizing session with
  | nil => exact start
  | cons request rest ih =>
    exact ih (fun x member => kept x (List.mem_cons_of_mem _ member))
      (kept _ List.mem_cons_self start)

theorem run_dispatch (method : Method) (arguments : Option Json) (session : Session δ) :
    (service.dispatch method arguments).run.run session =
      match method.call arguments with
      | .ok call => (service.perform call).run.run (session.noting .debug "handling method call")
      | .error fault => (.error fault, session.noting .debug "handling method call") := by
  rw [dispatch, Attempt.run_bind, Session.note, Part.run_always]
  simp only []
  rw [Attempt.run_bind, Attempt.run_ofExcept]
  cases method.call arguments <;> rfl

theorem run_handle {name : String} {method : Method} (named : Method.ofName? name = some method)
    (arguments : Option Json) (session : Session δ) :
    (service.handle name arguments).run session =
      match (service.dispatch method arguments).run.run session with
      | (.ok result, after) => (.success result, after)
      | (.error fault, after) => (.ofFault fault, after.noting .debug "method failed") := by
  simp only [handle, named]
  rw [StateT.run_bind]
  rcases (service.dispatch method arguments).run.run session with ⟨_ | _, _⟩ <;> rfl

/-- A request that makes a call is answered by what comes of the call. -/
theorem exchange_of_call {request : Request} {call : Call} (made : request.call? = some call)
    (session : Session δ) :
    service.exchange request session =
      match (service.perform call).run.run (session.noting .debug "handling method call") with
      | (.ok result, after) => ⟨session, request, .success result, after⟩
      | (.error fault, after) =>
        ⟨session, request, .ofFault fault, after.noting .debug "method failed"⟩ := by
  unfold Request.call? at made
  split at made
  · contradiction
  · rename_i method named
    cases called : method.call request.arguments with
    | error fault => simp [called, Except.toOption] at made
    | ok found =>
      obtain rfl : found = call := by simpa [called, Except.toOption] using made
      simp only [exchange, service.run_handle named, run_dispatch, called]
      rcases (service.perform found).run.run _ with ⟨_ | _, _⟩ <;> rfl

/-- The exchange of a request that makes a call, but for what is noted. -/
theorem exchange_of_perform {request : Request} {call : Call} (made : request.call? = some call)
    {session after : Session δ} {outcome : Except Fault Json}
    (performed : (service.perform call).run.run (session.noting .debug "handling method call") =
      (outcome, after)) :
    let x := service.exchange request session
    x.reply = .ofOutcome outcome ∧ x.after.register = after.register ∧
      x.after.scene.surroundings = after.scene.surroundings := by
  rw [service.exchange_of_call made, performed]
  cases outcome with
  | error fault => exact ⟨rfl, rfl, rfl⟩
  | ok result => exact ⟨rfl, rfl, rfl⟩

theorem exchange_of_fault {request : Request} {method : Method} {fault : Fault}
    (named : Method.ofName? request.name = some method)
    (failed : method.call request.arguments = .error fault) (session : Session δ) :
    service.exchange request session = ⟨session, request, .ofFault fault,
      (session.noting .debug "handling method call").noting .debug "method failed"⟩ := by
  simp only [exchange, service.run_handle named, run_dispatch, failed]

/-- A request that makes no call fails, and nothing but the journal changes. -/
theorem exchange_of_no_call {request : Request} (made : request.call? = none)
    (session : Session δ) :
    ∃ reply entries, (∀ result, reply ≠ .success result) ∧
      service.exchange request session =
        ⟨session, request, reply,
          Session.noted.set (entries ++ session.scene.journal) session⟩ := by
  unfold Request.call? at made
  split at made
  · rename_i unnamed
    refine ⟨.notImplemented, [⟨.debug, "method not implemented"⟩], nofun, ?_⟩
    simp only [exchange, handle, unnamed]
    rfl
  · rename_i method named
    cases called : method.call request.arguments with
    | error fault =>
      refine ⟨.ofFault fault,
        [⟨.debug, "method failed"⟩, ⟨.debug, "handling method call"⟩], nofun, ?_⟩
      simp only [exchange, service.run_handle named, run_dispatch, called]
      rfl
    | ok found => simp [called, Except.toOption] at made

end Service

end PresenceSeal
