import PresenceSeal.Proofs.Request.Exchange

/-! Arguments that are right, and those that are not: a method makes its call exactly if it
finds every argument that it requires, and what else it is given is an invalid argument. -/
namespace PresenceSeal

theorem Argument.invalid_of_check {members : List (String × Json)} {arguments : List Argument}
    {fault : Fault} (failed : Argument.check members arguments = .error fault) :
    ∃ reason, fault = .invalidArgument reason := by
  induction arguments with
  | nil => cases failed
  | cons argument rest ih =>
    rw [check] at failed
    split at failed
    · exact ⟨_, (Except.error.inj failed).symm⟩
    · exact ih failed
    · exact ⟨_, (Except.error.inj failed).symm⟩

theorem Method.invalid_of_members {method : Method} {arguments : Option Json} {fault : Fault}
    (failed : method.members arguments = .error fault) :
    ∃ reason, fault = .invalidArgument reason := by
  unfold members at failed
  split at failed
  · split at failed <;> cases failed
  · split at failed
    · exact ⟨_, (Except.error.inj failed).symm⟩
    · exact ⟨_, (Except.error.inj failed).symm⟩
    · rename_i found
      cases checked : Argument.check found method.required with
      | error fault =>
        rw [checked] at failed
        obtain rfl := Except.error.inj failed
        exact Argument.invalid_of_check checked
      | ok =>
        rw [checked] at failed
        cases failed
    · exact ⟨_, (Except.error.inj failed).symm⟩

theorem Argument.text_eq_ok_iff {argument : Argument} {members : List (String × Json)}
    {text : String} :
    argument.text members = .ok text ↔ members.lookup argument.name = some (.string text) := by
  unfold Argument.text
  split
  · rename_i given found
    rw [found]
    simp
  · rename_i other
    constructor
    · nofun
    · exact fun found => absurd found (other text)

theorem Argument.check_eq_ok_iff {members : List (String × Json)} {arguments : List Argument} :
    check members arguments = .ok () ↔
      ∀ argument ∈ arguments, ∃ text, argument.text members = .ok text := by
  induction arguments with
  | nil => simp [check]
  | cons argument rest ih =>
    rw [check, List.forall_mem_cons, ← ih]
    simp only [text_eq_ok_iff]
    split
    · rename_i missing
      simp [missing]
    · rename_i given found
      simp [found]
    · rename_i other wrong found
      simp only [reduceCtorEq, false_iff, not_and]
      rintro ⟨text, isText⟩
      exact absurd (Option.some.inj (found.symm.trans isText)) (wrong text)

/-- The members of a method that requires arguments are those of an object which has them all. -/
theorem Method.members_eq_ok_iff {method : Method} {arguments : Option Json}
    {members : List (String × Json)} (needs : method.required.isEmpty = false) :
    method.members arguments = .ok members ↔
      arguments = some (.object members) ∧
        ∀ argument ∈ method.required, ∃ text, argument.text members = .ok text := by
  rw [← Argument.check_eq_ok_iff]
  unfold Method.members
  rw [needs]
  rcases arguments with _ | ⟨_ | _ | _ | _ | _ | found⟩ <;>
    simp only [Bool.false_eq_true, ↓reduceIte, reduceCtorEq, Option.some.injEq, false_and,
      Json.object.injEq]
  cases checked : Argument.check found method.required with
  | error fault =>
    simp only [bind, Except.bind, reduceCtorEq, false_iff, not_and]
    rintro rfl
    rw [checked]
    nofun
  | ok =>
    simp only [bind, Except.bind, pure, Except.pure, Except.ok.injEq]
    constructor
    · rintro rfl
      exact ⟨rfl, checked⟩
    · exact And.left

/-- The method that makes a call. -/
def Call.method : Call → Method
  | getTpmStatus => .getTpmStatus
  | getBiometryStatus => .getBiometryStatus
  | generateKey _ => .generateKey
  | deleteKey _ => .deleteKey
  | encrypt _ _ => .encrypt
  | decrypt _ _ => .decrypt
  | configure _ => .configure

/-- The texts of a call, under the names of its arguments. -/
def Call.given : Call → List (String × String)
  | getTpmStatus | getBiometryStatus => []
  | generateKey tag | deleteKey tag => [("tag", tag)]
  | encrypt tag data | decrypt tag data => [("tag", tag), ("data", data)]
  | configure seed => [("windowsDataToSign", seed)]

namespace Method

/-- Members that are accepted have a text for every argument, and the call gets these texts. -/
theorem call_of_members {method : Method} {arguments : Option Json}
    {members : List (String × Json)} (accepted : method.members arguments = .ok members) :
    ∃ call, method.call arguments = .ok call ∧ call.method = method ∧
      ∀ argument ∈ call.given, members.lookup argument.1 = some (.string argument.2) := by
  have right (needs : method.required.isEmpty = false) (argument : Argument)
      (listed : argument ∈ method.required) :
      ∃ text, members.lookup argument.name = some (.string text) := by
    obtain ⟨text, found⟩ := ((members_eq_ok_iff needs).mp accepted).2 argument listed
    exact ⟨text, Argument.text_eq_ok_iff.mp found⟩
  simp only [call, accepted, bind, Except.bind, pure, Except.pure]
  cases method with
  | getTpmStatus | getBiometryStatus => exact ⟨_, rfl, rfl, by simp [Call.given]⟩
  | generateKey | deleteKey | configure =>
    obtain ⟨text, found⟩ := right rfl _ (List.mem_singleton_self _)
    simp only [Argument.text_eq_ok_iff.mpr found]
    exact ⟨_, rfl, rfl, List.forall_mem_singleton.mpr found⟩
  | encrypt | decrypt =>
    obtain ⟨tag, tagged⟩ := right rfl .tag List.mem_cons_self
    obtain ⟨data, found⟩ := right rfl .data (by simp [required])
    simp only [Argument.text_eq_ok_iff.mpr tagged, Argument.text_eq_ok_iff.mpr found]
    exact ⟨_, rfl, rfl, List.forall_mem_cons.mpr ⟨tagged, List.forall_mem_singleton.mpr found⟩⟩

/-- What refuses a call is the check of the arguments, never a look-up behind it. -/
theorem call_eq_error_iff {method : Method} {arguments : Option Json} {fault : Fault} :
    method.call arguments = .error fault ↔ method.members arguments = .error fault := by
  constructor
  · intro failed
    cases accepted : method.members arguments with
    | error refused => simpa [call, accepted, bind, Except.bind] using failed
    | ok members =>
      obtain ⟨made, called, -⟩ := call_of_members accepted
      rw [called] at failed
      cases failed
  · intro refused
    simp [call, refused, bind, Except.bind]

/-- A call is of the method that makes it, out of members that were accepted. -/
theorem members_of_call {method : Method} {arguments : Option Json} {made : Call}
    (called : method.call arguments = .ok made) :
    made.method = method ∧ ∃ members, method.members arguments = .ok members ∧
      ∀ argument ∈ made.given, members.lookup argument.1 = some (.string argument.2) := by
  cases accepted : method.members arguments with
  | error fault => cases called.symm.trans (call_eq_error_iff.mpr accepted)
  | ok members =>
    obtain ⟨call, alike, same, found⟩ := call_of_members accepted
    obtain rfl := Except.ok.inj (called.symm.trans alike)
    exact ⟨same, members, rfl, found⟩

theorem method_of_call {method : Method} {arguments : Option Json} {made : Call}
    (called : method.call arguments = .ok made) : made.method = method :=
  (members_of_call called).1

/-- Arguments that make no call are invalid. -/
theorem invalid_of_call {method : Method} {arguments : Option Json} {fault : Fault}
    (failed : method.call arguments = .error fault) :
    ∃ reason, fault = .invalidArgument reason :=
  invalid_of_members (call_eq_error_iff.mp failed)

end Method

/-- A request to configure whose seed is there and is a text. -/
def Request.Configures (request : Request) (seed : String) : Prop :=
  request.name = "configure" ∧ ∃ members, request.arguments = some (.object members) ∧
    members.lookup "windowsDataToSign" = some (.string seed)

theorem Method.call_configure_iff {arguments : Option Json} {seed : String} :
    configure.call arguments = .ok (.configure seed) ↔
      ∃ members, arguments = some (.object members) ∧
        members.lookup "windowsDataToSign" = some (.string seed) := by
  constructor
  · intro called
    obtain ⟨-, members, accepted, found⟩ := members_of_call called
    exact ⟨members, ((members_eq_ok_iff rfl).mp accepted).1, found _ (List.mem_singleton_self _)⟩
  · rintro ⟨members, rfl, found⟩
    have given : Argument.windowsDataToSign.text members = .ok seed :=
      Argument.text_eq_ok_iff.mpr found
    have accepted : configure.members (some (.object members)) = .ok members :=
      (members_eq_ok_iff rfl).mpr ⟨rfl, List.forall_mem_singleton.mpr ⟨seed, given⟩⟩
    simp [call, accepted, given, bind, Except.bind, pure, Except.pure]

theorem Request.call?_eq_some_iff {request : Request} {call : Call} :
    request.call? = some call ↔
      ∃ method, Method.ofName? request.name = some method ∧
        method.call request.arguments = .ok call := by
  unfold call?
  cases Method.ofName? request.name with
  | none => simp
  | some method => cases called : method.call request.arguments <;> simp [called, Except.toOption]

theorem Method.invalid_of_no_call {request : Request} {method : Method}
    (named : ofName? request.name = some method) (made : request.call? = none) :
    ∃ reason, method.call request.arguments = .error (.invalidArgument reason) := by
  cases called : method.call request.arguments with
  | error fault =>
    obtain ⟨reason, rfl⟩ := invalid_of_call called
    exact ⟨reason, rfl⟩
  | ok call =>
    rw [Request.call?_eq_some_iff.mpr ⟨method, named, called⟩] at made
    contradiction

theorem Request.configures_iff {request : Request} {seed : String} :
    request.Configures seed ↔ request.call? = some (.configure seed) := by
  rw [call?_eq_some_iff]
  constructor
  · rintro ⟨named, given⟩
    exact ⟨.configure, by rw [named]; rfl, Method.call_configure_iff.mpr given⟩
  · rintro ⟨method, named, called⟩
    obtain rfl := Method.method_of_call called
    exact ⟨(Method.name_of_ofName? named).symm, Method.call_configure_iff.mp called⟩

/-- By that name no other call is made. -/
theorem Request.configures_of_name {request : Request} {call : Call}
    (named : request.name = "configure") (made : request.call? = some call) :
    ∃ seed, request.Configures seed := by
  obtain ⟨method, found, called⟩ := call?_eq_some_iff.mp made
  have seeded : call.method = .configure := by
    rw [Method.method_of_call called]
    rw [named] at found
    exact (Option.some.inj found).symm
  cases call with
  | configure seed => exact ⟨seed, configures_iff.mpr made⟩
  | _ => cases seeded

end PresenceSeal
