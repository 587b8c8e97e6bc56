import Mathlib.Logic.ExistsUnique
import PresenceSeal.Proofs.Request.Arguments

/-! Which requests reach the service. A name is looked up in a table, and the arguments that
the table wants of it are looked for in their order. A request makes one call, or the first
thing wrong with it is said, or its name is unknown; what the service is does not matter. -/
namespace PresenceSeal

/-- The names of the methods, and the arguments that each of them wants, in their order. -/
def Request.table : List (String × List String) :=
  [("getTPMStatus", []), ("getBiometryStatus", []), ("generateKey", ["tag"]),
    ("deleteKey", ["tag"]), ("encrypt", ["tag", "data"]), ("decrypt", ["tag", "data"]),
    ("configure", ["windowsDataToSign"])]

namespace Call

def name : Call → String
  | getTpmStatus => "getTPMStatus"
  | getBiometryStatus => "getBiometryStatus"
  | generateKey _ => "generateKey"
  | deleteKey _ => "deleteKey"
  | encrypt _ _ => "encrypt"
  | decrypt _ _ => "decrypt"
  | configure _ => "configure"

theorem name_method (call : Call) : call.method.name = call.name := by
  cases call <;> rfl

/-- A call has a text for each argument that its method requires, and no others. -/
theorem given_names (call : Call) :
    call.given.map Prod.fst = call.method.required.map Argument.name := by
  cases call <;> rfl

theorem exists_given {call : Call} {argument : Argument}
    (required : argument ∈ call.method.required) : ∃ text, (argument.name, text) ∈ call.given := by
  have listed : argument.name ∈ call.given.map Prod.fst := by
    rw [given_names]
    exact List.mem_map_of_mem required
  obtain ⟨⟨name, text⟩, given, rfl⟩ := List.mem_map.mp listed
  exact ⟨text, given⟩

theorem given_eq_nil_iff {call : Call} : call.given = [] ↔ call.method.required = [] := by
  rw [← List.map_eq_nil_iff (f := Prod.fst), given_names, List.map_eq_nil_iff]

/-- There is one call of a method that has its texts from the same members. -/
theorem eq_of_given {call other : Call} {members : List (String × Json)}
    (same : call.method = other.method)
    (found : ∀ argument ∈ call.given, members.lookup argument.1 = some (.string argument.2))
    (alike : ∀ argument ∈ other.given, members.lookup argument.1 = some (.string argument.2)) :
    call = other := by
  cases call <;> cases other <;> cases same <;>
    simp only [given, List.forall_mem_cons, List.not_mem_nil, false_implies, implies_true,
      and_true] at found alike <;> simp_all

end Call

namespace Request

/-- A call is made by its name, and if it has any texts, they are found in an object. -/
structure Makes (request : Request) (call : Call) : Prop where
  named : request.name = call.name
  found : call.given = [] ∨ ∃ members, request.arguments = some (.object members) ∧
    ∀ argument ∈ call.given, members.lookup argument.1 = some (.string argument.2)

end Request

namespace Method

/-- No members are refused without the method's wanting any. -/
theorem members_of_wants_none {method : Method} (free : method.required = [])
    (arguments : Option Json) : ∃ members, method.members arguments = .ok members := by
  unfold members
  rw [free]
  simp only [List.isEmpty_nil, ↓reduceIte]
  split
  · exact ⟨_, rfl⟩
  · exact ⟨_, rfl⟩

end Method

namespace Request

variable {request : Request}

/-- The tag is asked for first, although the data is no text. -/
example : Method.encrypt.call (some (.object [("data", .int 1)])) =
    .error (.invalidArgument "Argument tag is missing.") := rfl

/-- The members in which a call finds its texts are accepted. -/
theorem members_of_makes {call : Call} (makes : request.Makes call) :
    ∃ members, call.method.members request.arguments = .ok members ∧
      ∀ argument ∈ call.given, members.lookup argument.1 = some (.string argument.2) := by
  by_cases free : call.method.required = []
  · obtain ⟨members, accepted⟩ := Method.members_of_wants_none free request.arguments
    exact ⟨members, accepted, by simp [Call.given_eq_nil_iff.mpr free]⟩
  · have needs : call.method.required.isEmpty = false := by simpa using free
    obtain textless | ⟨members, isObject, found⟩ := makes.found
    · exact absurd (Call.given_eq_nil_iff.mp textless) free
    · refine ⟨members, (Method.members_eq_ok_iff needs).mpr ⟨isObject, ?_⟩, found⟩
      intro argument required
      obtain ⟨text, given⟩ := Call.exists_given required
      exact ⟨text, Argument.text_eq_ok_iff.mpr (found _ given)⟩

/-- A call is made exactly if its texts are found where they belong. -/
theorem makes_iff {call : Call} : request.Makes call ↔ request.call? = some call := by
  rw [call?_eq_some_iff]
  constructor
  · intro makes
    obtain ⟨members, accepted, found⟩ := members_of_makes makes
    obtain ⟨other, called, method, alike⟩ := Method.call_of_members accepted
    obtain rfl := Call.eq_of_given method alike found
    refine ⟨_, ?_, called⟩
    rw [makes.named, ← Call.name_method]
    exact Method.ofName?_name _
  · rintro ⟨method, named, called⟩
    obtain ⟨rfl, members, accepted, found⟩ := Method.members_of_call called
    refine ⟨?_, ?_⟩
    · rw [← Call.name_method, Method.name_of_ofName? named]
    · by_cases free : call.method.required = []
      · exact .inl (Call.given_eq_nil_iff.mpr free)
      · have needs : call.method.required.isEmpty = false := by simpa using free
        exact .inr ⟨members, ((Method.members_eq_ok_iff needs).mp accepted).1, found⟩

end Request

namespace Service

variable (service : Service δ)

end Service

end PresenceSeal
