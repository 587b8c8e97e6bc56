import PresenceSeal.Host.Run
import PresenceSeal.Proofs.Json.Filling
import PresenceSeal.Proofs.Request.Responses

/-! However a request is written, it is handled. It may be an object with its fields in any
order and with further fields that nobody knows, or a list; the identifier goes back as it
came, and what is left out is null. -/
namespace PresenceSeal.Channel

open Json (Slot Blanks Writes Exact Formed Takes Gathers commas optional?)
open Json.Record (Fills)

/-! ### Ways to write a request -/

def fieldNames : List String := ["id", "method", "arguments"]

/-- What stands behind the colon of a member: the value of the field of that name, or anything
well formed if no field has that name. -/
inductive Tells (id : Json) (method : String) (arguments : Json) : String → List Char → Prop where
  | id {text} : Writes id text → Tells id method arguments "id" text
  | method {text} : Writes (.string method) text → Tells id method arguments "method" text
  | arguments {text} : Writes arguments text → Tells id method arguments "arguments" text
  | other {name text} : name ∉ fieldNames → Formed text → Tells id method arguments name text

/-- The ways to write a request. Each field stands in it once, and only null may be left out. -/
inductive Renders (id : Json) (method : String) (arguments : Json) : List Char → Prop where
  | blanks {before text after} : Blanks before → Blanks after →
      Renders id method arguments text → Renders id method arguments (before ++ text ++ after)
  | object {slots : List Slot} : (∀ slot ∈ slots, slot.Named) →
      (∀ slot ∈ slots, Tells id method arguments slot.name slot.text) →
      ((slots.map (·.name)).filter (· ∈ fieldNames)).Nodup →
      "method" ∈ slots.map (·.name) →
      ("id" ∈ slots.map (·.name) ∨ id = .null) →
      ("arguments" ∈ slots.map (·.name) ∨ arguments = .null) →
      Renders id method arguments ('\x7b' :: commas (slots.map Slot.spell) ++ ['\x7d'])
  | list {first second third} : Writes id first → Writes (.string method) second →
      Writes arguments third →
      Renders id method arguments ('[' :: commas [first, second, third] ++ [']'])
  | shortList {first second} : Writes id first → Writes (.string method) second →
      arguments = .null → Renders id method arguments ('[' :: commas [first, second] ++ [']'])

/-! ### Reading -/

section

variable {id arguments : Json} {method : String}

/-- What has been read of a request once the fields of these names have been. -/
def told (id : Json) (method : String) (arguments : Json) (names : List String) : Draft where
  id := if "id" ∈ names then some id else none
  method := if "method" ∈ names then some method else none
  arguments := if "arguments" ∈ names then some (optional? arguments) else none

theorem told_other {name : String} (unknown : name ∉ fieldNames) (names : List String) :
    told id method arguments (names ++ [name]) = told id method arguments names := by
  have apart : ∀ field ∈ fieldNames, field ≠ name := by
    rintro field inside rfl
    exact unknown inside
  have first := apart "id" (by decide)
  have second := apart "method" (by decide)
  have third := apart "arguments" (by decide)
  simp [told, first, second, third]

theorem find?_unknown {name : String} (unknown : name ∉ fieldNames) :
    record.fields.find? (·.name == name) = none := by
  rw [List.find?_eq_none]
  intro field inside same
  have known : field.name ∈ record.fields.map (·.name) := List.mem_map_of_mem inside
  exact unknown (beq_iff_eq.mp same ▸ known)

theorem takes_told {name : String} {text : List Char} (tells : Tells id method arguments name text)
    (exactId : Exact 126 id) (exactArguments : Exact 126 arguments) {names : List String}
    (fresh : name ∈ fieldNames → name ∉ names) :
    Takes (record.readMember 126 (told id method arguments names) name)
      (told id method arguments (names ++ [name])) (':' :: text) := by
  cases tells with
  | id writes =>
    apply Json.Record.takes_field rfl
    · simp [told, fresh (by decide)]
    · exact (writes.takes exactId).followed fun _ => by simp [told]; rfl
  | method writes =>
    apply Json.Record.takes_field rfl
    · simp [told, fresh (by decide)]
    · exact (writes.takes_string "a string").followed fun _ => by simp [told]; rfl
  | arguments writes =>
    apply Json.Record.takes_field rfl
    · simp [told, fresh (by decide)]
    · exact (writes.takes_optional exactArguments).followed fun _ => by simp [told]; rfl
  | other unknown formed =>
    rw [told_other unknown]
    exact Json.Record.takes_ignored rfl (find?_unknown unknown) formed

theorem gathers_told {slots : List Slot} (named : ∀ slot ∈ slots, slot.Named)
    (tells : ∀ slot ∈ slots, Tells id method arguments slot.name slot.text)
    (exactId : Exact 126 id) (exactArguments : Exact 126 arguments) (names : List String)
    (distinct : ((names ++ slots.map (·.name)).filter (· ∈ fieldNames)).Nodup) :
    Gathers (record.readMember 126) (told id method arguments names) slots
      (told id method arguments (names ++ slots.map (·.name))) := by
  induction slots generalizing names with
  | nil =>
    rw [List.map_nil, List.append_nil]
    exact .nil
  | cons slot slots ih =>
    obtain ⟨name, others⟩ := List.forall_mem_cons.mp named
    obtain ⟨tell, rest⟩ := List.forall_mem_cons.mp tells
    -- A field that was told before would stand twice among the names.
    have fresh : slot.name ∈ fieldNames → slot.name ∉ names := by
      intro known before
      rw [List.filter_append, List.nodup_append] at distinct
      obtain ⟨-, -, apart⟩ := distinct
      refine apart slot.name ?_ slot.name ?_ rfl
      · exact List.mem_filter.mpr ⟨before, decide_eq_true known⟩
      · exact List.mem_filter.mpr ⟨List.mem_cons_self, decide_eq_true known⟩
    rw [List.map_cons, List.append_cons] at distinct ⊢
    exact .cons name (takes_told tell exactId exactArguments fresh) (ih others rest _ distinct)

theorem missing?_told {names : List String} (inside : "method" ∈ names) :
    record.missing? (told id method arguments names) = none := by
  simp [Json.Record.missing?, record, told, inside]

theorem finish_told {names : List String} (inside : "method" ∈ names)
    (identified : "id" ∈ names ∨ id = .null) (argued : "arguments" ∈ names ∨ arguments = .null) :
    record.finish (told id method arguments names) = .ok ⟨id, method, optional? arguments⟩ := by
  have first : (told id method arguments names).id.getD .null = id := by
    rcases identified with named | rfl
    · simp [told, named]
    · by_cases named : "id" ∈ names <;> simp [told, named]
  have second : (told id method arguments names).method.getD "" = method := by
    simp [told, inside]
  have third : (told id method arguments names).arguments.getD none = optional? arguments := by
    rcases argued with named | rfl
    · simp [told, named]
    · by_cases named : "arguments" ∈ names <;> simp [told, named, optional?]
  simp only [record, first, second, third]

/-- However a request is written, it is read. -/
theorem Renders.takes {text : List Char} (renders : Renders id method arguments text)
    (exactId : Exact 126 id) (exactArguments : Exact 126 arguments) :
    Takes (record.read Json.maxDepth) ⟨id, method, optional? arguments⟩ text := by
  induction renders with
  | blanks front back _ ih => exact ih.blanks front back
  | object named tells distinct inside identified argued =>
    have gathers : Gathers (record.readMember 126) record.start _ _ :=
      gathers_told named tells exactId exactArguments [] distinct
    exact Json.Record.takes_object gathers (missing?_told inside)
      (finish_told inside identified argued)
  | list first second third =>
    have fills : Fills 126 record.fields record.start _ (told id method arguments fieldNames) :=
      .cons first.opens ((first.takes exactId).followed fun _ => rfl) <|
      .cons second.opens ((second.takes_string "a string").followed fun _ => rfl) <|
      .cons third.opens ((third.takes_optional exactArguments).followed fun _ => rfl) <|
      .short nofun
    exact Json.Record.takes_list fills rfl
      (finish_told (by decide) (.inl (by decide)) (.inl (by decide)))
  | shortList first second absent =>
    have fills :
        Fills 126 record.fields record.start _ (told id method arguments ["id", "method"]) :=
      .cons first.opens ((first.takes exactId).followed fun _ => rfl) <|
      .cons second.opens ((second.takes_string "a string").followed fun _ => rfl) <|
      .short (List.forall_mem_singleton.mpr rfl)
    exact Json.Record.takes_list fills rfl
      (finish_told (by decide) (.inl (by decide)) (.inr absent))

theorem Renders.request {line : String} (renders : Renders id method arguments line.toList)
    (exactId : Exact 126 id) (exactArguments : Exact 126 arguments) :
    Channel.request line = .ok ⟨id, method, optional? arguments⟩ :=
  (renders.takes exactId exactArguments).document

end

/-! ### Handling -/

/-- Nothing and null are the same arguments. -/
theorem handle_optional? (service : Service δ) (name : String) (arguments : Json) :
    service.handle name (optional? arguments) = service.handle name (some arguments) := by
  have called (method : Method) : method.call none = method.call (some .null) := by
    cases method <;> rfl
  cases arguments with
  | null => simp only [optional?, Service.handle, Service.dispatch, called]
  | _ => rfl

/-- The line of a response to an exact identifier is an object of what is in the response. -/
theorem Response.parse_render {response : Response} (exact : Exact 126 response.id)
    (plain : ∀ member ∈ response.reply.members, Json.Plain member.2) :
    ∃ members, Json.parse response.render = .ok (.object members) ∧
      ∀ key, members.lookup key = (("id", response.id) :: response.reply.members).lookup key := by
  refine ⟨_, Json.parse_render_of_exact ?_, fun key => ?_⟩
  · exact List.forall_mem_cons.mpr ⟨exact, fun member inside => (plain member inside).exact⟩
  · rw [Json.lookup_insertAll (Response.distinct _ _), List.lookup_nil, Option.or_none]

/-- What becomes of a request that has been written on a line. -/
structure Handles (service : Service δ) (session : Session δ) (id : Json) (method : String)
    (arguments : Json) (line : String) : Prop where
  /-- The response is what the service makes of the method and the arguments, with the
  identifier, and nothing else is done. -/
  answered :
    let handled := (service.handle method (some arguments)).run session
    (respond service line).run session = (⟨id, handled.1⟩, handled.2)
  /-- The line of the response is an object with the same identifier and the same reply. -/
  reread :
    let response := ((respond service line).run session).1
    ∃ members, Json.parse response.render = .ok (.object members) ∧
      ∀ key, members.lookup key = (("id", id) :: response.reply.members).lookup key
  /-- The identifier comes back from its print. -/
  echoed : Json.parse id.render = .ok id
  /-- No arguments are handled like null. -/
  absent : service.handle method none = service.handle method (some .null)

/-- However a request is written, its method is handled with its arguments and its identifier
goes back. -/
theorem written_requests_are_handled {id arguments : Json} {method line : String}
    (exactId : Exact 126 id) (exactArguments : Exact 126 arguments)
    (renders : Renders id method arguments line.toList) (service : Service δ)
    (session : Session δ) : Handles service session id method arguments line := by
  have ran := run_respond_of_ok (renders.request exactId exactArguments) service session
  constructor
  case answered =>
    rw [ran]
    simp only [Service.exchange, handle_optional?]
  case reread =>
    have sound := respond_sound service line session
    have identified : ((respond service line).run session).1.id = id := by rw [ran]
    have exact : Exact 126 ((respond service line).run session).1.id := by
      rw [identified]
      exact exactId
    have parsed := Response.parse_render exact sound.plain
    rw [identified] at parsed
    exact parsed
  case echoed => exact (exactId.mono (by decide)).parse_render
  case absent => exact handle_optional? service method .null

/-- The fields stand in another order, and one that nobody knows has a number too large to be
one. -/
theorem rearranged_request_is_handled :
    let settings : Settings := { tpm := { backend := .none }, consent := { mode := .autoApprove } }
    let service := Host.service settings none
    let session := Host.session .autoApprove ⟨[]⟩
    let line := "\x7b\"x\":1e999,\"arguments\":\x7b\"a\":[]\x7d," ++
      "\"method\":\"getBiometryStatus\",\"id\":-1\x7d"
    let arguments : Json := .object [("a", .array [])]
    Exact 126 (.int (-1)) ∧ Exact 126 arguments ∧
      Renders (.int (-1)) "getBiometryStatus" arguments line.toList ∧
      ((respond service line).run session).1 = ⟨.int (-1), .success (.int 0)⟩ ∧
      ∃ members, Json.parse (Response.render ⟨.int (-1), .success (.int 0)⟩) =
        .ok (.object members) ∧ members.lookup "id" = some (.int (-1)) := by
  intro settings service session line arguments
  have exactId : Exact 126 (.int (-1)) := .integer (by decide) (by decide)
  have exactArguments : Exact 126 arguments :=
    .object (List.pairwise_singleton _ _) (List.forall_mem_singleton.mpr (.array nofun))
  have exactMethod : Exact 126 (.string "getBiometryStatus") := .string _
  have large : Formed ['1', 'e', '9', '9', '9'] :=
    .number (.mk (.inl rfl) (.inr ⟨'1', [], rfl, by decide, List.all_eq_true.mp rfl⟩) (.inl rfl)
      (.inr ⟨'e', [], ['9', '9', '9'], .inl rfl, .inl rfl, ⟨nofun, List.all_eq_true.mp rfl⟩, rfl⟩))
  let slots : List Slot := [⟨"x", Json.quote "x".toList, ['1', 'e', '9', '9', '9']⟩,
    Json.printed ("arguments", arguments), Json.printed ("method", .string "getBiometryStatus"),
    Json.printed ("id", .int (-1))]
  have same : line.toList = '\x7b' :: commas (slots.map Slot.spell) ++ ['\x7d'] := by
    simp only [line, slots]
    decide +kernel
  have renders : Renders (.int (-1)) "getBiometryStatus" arguments line.toList := by
    rw [same]
    refine .object ?_ ?_ (by decide) (by decide) (.inl (by decide)) (.inl (by decide))
    · simp only [slots, List.forall_mem_cons]
      exact ⟨Json.printed_named ("x", .null), Json.printed_named _, Json.printed_named _,
        Json.printed_named _, nofun⟩
    · simp only [slots, List.forall_mem_cons]
      exact ⟨.other (by decide) large, .arguments exactArguments.writes_render,
        .method exactMethod.writes_render, .id exactId.writes_render, nofun⟩
  have handles := written_requests_are_handled exactId exactArguments renders service session
  have response : ((respond service line).run session).1 = ⟨.int (-1), .success (.int 0)⟩ := by
    rw [handles.answered]
    rfl
  refine ⟨exactId, exactArguments, renders, response, ?_⟩
  obtain ⟨members, parsed, found⟩ := handles.reread
  rw [response] at parsed
  exact ⟨members, parsed, found "id"⟩

end PresenceSeal.Channel
