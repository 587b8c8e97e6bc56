import PresenceSeal.Proofs.Consent.Answer
import PresenceSeal.Proofs.Request.Responses
import PresenceSeal.Proofs.Service.Payloads
import PresenceSeal.Proofs.Text.Lines

/-! Lines in, lines out. The lines of a stream that are not blank are answered one after
another, each by one line, so requests and responses stay aligned to the end of the stream;
and a line that is no request is answered and forgotten. -/
namespace PresenceSeal

namespace Channel

/-- The lines that are answered: those that are not blank. -/
def asked (lines : List (List Char)) : List String :=
  (lines.filter fun line => !line.all Text.isBlank).map String.ofList

theorem asked_cons (line : List Char) (lines : List (List Char)) :
    asked (line :: lines) =
      if line.all Text.isBlank then asked lines else String.ofList line :: asked lines := by
  rw [asked, List.filter_cons]
  cases line.all Text.isBlank with
  | true => rfl
  | false => rfl

theorem asked_append (front back : List (List Char)) :
    asked (front ++ back) = asked front ++ asked back := by
  rw [asked, List.filter_append, List.map_append, asked, asked]

/-! ### One response to a line -/

section

variable (service : Service δ)

/-- The responses to some lines, one after another. -/
def answers (lines : List String) : StateM (Session δ) (List Response) :=
  lines.mapM (respond service)

theorem run_answers_cons (line : String) (lines : List String) (session : Session δ) :
    (answers service (line :: lines)).run session =
      let first := (respond service line).run session
      let others := (answers service lines).run first.2
      (first.1 :: others.1, others.2) := by
  rw [answers, List.mapM_cons]
  rfl

theorem run_answers_append (front back : List String) (session : Session δ) :
    (answers service (front ++ back)).run session =
      let first := (answers service front).run session
      let second := (answers service back).run first.2
      (first.1 ++ second.1, second.2) := by
  rw [answers, List.mapM_append]
  rfl

theorem length_answers (lines : List String) (session : Session δ) :
    ((answers service lines).run session).1.length = lines.length := by
  induction lines generalizing session with
  | nil => rfl
  | cons line lines ih =>
    rw [run_answers_cons]
    exact congrArg Nat.succ (ih _)

/-- Every response answers some line in some session. -/
theorem mem_answers {lines : List String} {session : Session δ} {response : Response}
    (inside : response ∈ ((answers service lines).run session).1) :
    ∃ line session, response = ((respond service line).run session).1 := by
  induction lines generalizing session with
  | nil => cases inside
  | cons line lines ih =>
    rw [run_answers_cons] at inside
    rcases List.mem_cons.mp inside with rfl | later
    · exact ⟨line, session, rfl⟩
    · exact ih later

theorem run_step (line : List Char) (session : Session δ) :
    (step service (String.ofList line)).run session =
      if line.all Text.isBlank then (none, session)
      else
        let answered := (respond service (String.ofList line)).run session
        (some answered.1, answered.2) := by
  have empty : (Text.trim (String.ofList line).toList).isEmpty = line.all Text.isBlank := by
    rw [String.toList_ofList, Bool.eq_iff_iff, List.isEmpty_iff, Text.trim_eq_nil_iff,
      List.all_eq_true]
  rw [step, empty]
  cases line.all Text.isBlank with
  | true => rfl
  | false => rfl

/-- Lines of text that are not blank are answered in their order before any other line is
looked at. -/
theorem run_serveLines_append (lines : List (List Char)) (rest : List (List UInt8))
    (session : Session δ) :
    (serveLines service (lines.map Text.bytesOf ++ rest)).run session =
      let answered := (answers service (asked lines)).run session
      let others := (serveLines service rest).run answered.2
      ((answered.1 ++ others.1.1, others.1.2), others.2) := by
  induction lines generalizing session with
  | nil => rfl
  | cons line lines ih =>
    have text : Text.ofUtf8? (Text.bytesOf line) = some (String.ofList line) := by
      rw [Text.ofUtf8?_eq_some_iff, Text.utf8_eq_bytesOf, String.toList_ofList]
    have served : (serveLines service ((line :: lines).map Text.bytesOf ++ rest)).run session =
        let first := (step service (String.ofList line)).run session
        let others := (serveLines service (lines.map Text.bytesOf ++ rest)).run first.2
        ((first.1.toList ++ others.1.1, others.1.2), others.2) := by
      simp only [List.map_cons, List.cons_append, serveLines, text]
      rfl
    rw [served, run_step, asked_cons]
    cases line.all Text.isBlank with
    | true =>
      simp only [↓reduceIte, ih]
      rfl
    | false =>
      simp only [Bool.false_eq_true, ↓reduceIte, ih, run_answers_cons]
      rfl

/-- The lines of a text that are not blank are answered in their order, and at its end the
session is closed. -/
theorem run_serveLines (lines : List (List Char)) (session : Session δ) :
    (serveLines service (lines.map Text.bytesOf)).run session =
      let answered := (answers service (asked lines)).run session
      ((answered.1, .closed), answered.2.noting closing.severity closing.text) := by
  have served := run_serveLines_append service lines [] session
  rw [List.append_nil] at served
  rw [served]
  exact congrArg (fun responses => ((responses, Ending.closed), _)) (List.append_nil _)

end

/-! ### One line for a response -/

theorem not_printable_feed : ¬Printable '\n' := by decide

theorem chomp_of_printable {line : List Char} (printable : ∀ c ∈ line, Printable c) :
    (Text.chomp line.reverse).reverse = line := by
  have kept : Text.chomp line.reverse = line.reverse := by
    unfold Text.chomp
    split
    · rename_i rest same
      have inside : '\r' ∈ line := by
        rw [← List.mem_reverse, same]
        exact List.mem_cons_self
      exact absurd (printable '\r' inside) (by decide)
    · rfl
  rw [kept, List.reverse_reverse]

theorem output_cons (response : Response) (responses : List Response) :
    output (response :: responses) = response.render ++ '\n' :: output responses := by
  rw [output, List.flatMap_cons, List.append_assoc, output]
  rfl

/-- What is written is read back line by line. -/
theorem lines_output (responses : List Response) :
    Text.lines (output responses) = responses.map Response.render := by
  induction responses with
  | nil => rfl
  | cons response responses ih =>
    have printable := response.render_printable
    rw [output_cons, Text.lines_append (fun feed => not_printable_feed (printable _ feed)),
      chomp_of_printable printable, ih, List.map_cons]

/-- Every response ends its line. -/
theorem count_output (responses : List Response) :
    (output responses).count '\n' = responses.length := by
  induction responses with
  | nil => rfl
  | cons response responses ih =>
    have none' : response.render.count '\n' = 0 :=
      List.count_eq_zero.mpr fun feed => not_printable_feed (response.render_printable _ feed)
    rw [output_cons, List.count_append, List.count_cons_self, none', ih, List.length_cons]
    omega

end Channel

/-! ### Lines that are no requests -/

namespace Stack

variable (stack : Stack δ) {s t : Session δ}

theorem respond_alike (line : String) (related : s.Alike Eq t) :
    ((Channel.respond (stack.service Codec.ofEnvelopes) line).run s).1 =
        ((Channel.respond (stack.service Codec.ofEnvelopes) line).run t).1 ∧
      ((Channel.respond (stack.service Codec.ofEnvelopes) line).run s).2.Alike Eq
        ((Channel.respond (stack.service Codec.ofEnvelopes) line).run t).2 := by
  cases given : Channel.request line with
  | error error =>
    rw [Channel.run_respond_of_error given, Channel.run_respond_of_error given]
    exact ⟨rfl, related⟩
  | ok read =>
    obtain ⟨replies, after⟩ :=
      stack.service_alike_self.exchange ⟨read.method, read.arguments⟩ related
    rw [Channel.run_respond_of_ok given, Channel.run_respond_of_ok given, replies]
    exact ⟨rfl, after⟩

theorem answers_alike (lines : List String) (related : s.Alike Eq t) :
    ((Channel.answers (stack.service Codec.ofEnvelopes) lines).run s).1 =
        ((Channel.answers (stack.service Codec.ofEnvelopes) lines).run t).1 ∧
      ((Channel.answers (stack.service Codec.ofEnvelopes) lines).run s).2.Alike Eq
        ((Channel.answers (stack.service Codec.ofEnvelopes) lines).run t).2 := by
  induction lines generalizing s t with
  | nil => exact ⟨rfl, related⟩
  | cons line lines ih =>
    obtain ⟨first, after⟩ := stack.respond_alike line related
    obtain ⟨others, final⟩ := ih after
    rw [Channel.run_answers_cons, Channel.run_answers_cons]
    exact ⟨congrArg₂ List.cons first others, final⟩

/-- A line that is no request gets a response of its own and leaves no trace in the others. -/
theorem answers_refused {line : String} {error : Json.Error}
    (refused : Channel.request line = .error error) (front back : List String) :
    let service := stack.service Codec.ofEnvelopes
    let whole := (Channel.answers service (front ++ line :: back)).run s
    let rest := (Channel.answers service (front ++ back)).run s
    ∃ earlier later, earlier.length = front.length ∧
      whole.1 = earlier ++
        ⟨.null, .error .invalidArgument ("malformed request: " ++ error.message)⟩ :: later ∧
      rest.1 = earlier ++ later ∧ whole.2.Alike Eq rest.2 := by
  intro service whole rest
  let before := (Channel.answers service front).run s
  let noted := before.2.noting .warn "malformed request line"
  have same : noted.Alike Eq before.2 := ⟨⟨rfl, rfl⟩, rfl⟩
  obtain ⟨others, final⟩ := stack.answers_alike back same
  have refusing : whole = (before.1 ++
      ⟨.null, .error .invalidArgument ("malformed request: " ++ error.message)⟩ ::
        ((Channel.answers service back).run noted).1,
      ((Channel.answers service back).run noted).2) := by
    simp only [whole, Channel.run_answers_append, Channel.run_answers_cons,
      Channel.run_respond_of_error refused]
    rfl
  have without : rest = (before.1 ++ ((Channel.answers service back).run before.2).1,
      ((Channel.answers service back).run before.2).2) := Channel.run_answers_append service _ _ s
  rw [refusing, without]
  exact ⟨before.1, _, Channel.length_answers service front s, rfl,
    congrArg (before.1 ++ ·) others.symm, final⟩

end Stack

namespace Channel

/-- The responses to a text, how the session ends and what it is then. -/
def served (service : Service δ) (text : String) (start : Session δ) :
    (List Response × Ending) × Session δ :=
  (serve service (Text.utf8 text)).run start

theorem served_eq (service : Service δ) (text : String) (start : Session δ) :
    served service text start =
      let answered := (answers service (asked (Text.lines text.toList))).run start
      ((answered.1, .closed), answered.2.noting closing.severity closing.text) := by
  rw [served, serve, Text.channelLines_utf8, run_serveLines]

/-- A line that is no request. -/
def Malformed (line : String) : Prop := ∀ read, request line ≠ .ok read

example : Malformed "oops" := by
  have refused : request "oops" = .error .expectedValue := rfl
  exact fun read same => nomatch refused.symm.trans same

theorem Malformed.exists_error {line : String} (malformed : Malformed line) :
    ∃ error, request line = .error error := by
  cases given : request line with
  | error error => exact ⟨error, rfl⟩
  | ok read => exact absurd given (malformed read)

/-- A text and the responses to it, line by line. -/
structure Aligned (service : Service δ) (text : String) (start : Session δ) : Prop where
  /-- The text is read to its end. -/
  closed : (served service text start).1.2 = .closed
  /-- Its lines that are not blank are answered in their order, each in the session behind
  the earlier ones. -/
  answered : (served service text start).1.1 =
    ((answers service (asked (Text.lines text.toList))).run start).1
  /-- Each of them has one response. -/
  counted : (served service text start).1.1.length = (asked (Text.lines text.toList)).length
  /-- Each response is a line, and each line has its end. -/
  written : Text.lines (output (served service text start).1.1) =
    (served service text start).1.1.map Response.render
  ended : (output (served service text start).1.1).count '\n' =
    (served service text start).1.1.length
  /-- A line holds no control character, whatever is told in it. -/
  printable : ∀ response ∈ (served service text start).1.1, ∀ c ∈ response.render, Printable c
  /-- A line is an object with the response's identifier and the members of its reply; a plain
  identifier and the members are read as they were. -/
  reread : ∀ response ∈ (served service text start).1.1,
    ∃ id members, (response.id.Plain → id = response.id) ∧
      Json.parse response.render = .ok (.object members) ∧
      ∀ key, members.lookup key = (("id", id) :: response.reply.members).lookup key
  /-- A line that is no request is refused and changes nothing. -/
  refused : ∀ line session, Malformed line →
    let answer := (respond service line).run session
    answer.1.id = .null ∧ (∃ message, answer.1.reply = .error .invalidArgument message) ∧
      answer.1.reply.members.lookup "code" = some (.string "INVALID_ARGUMENT") ∧
      answer.2.register = session.register ∧
      answer.2.scene.surroundings = session.scene.surroundings
  /-- Without such a line the others are answered as they are with it. -/
  leftOut : ∀ front (line shorter : String) back,
    Text.lines text.toList = front ++ line.toList :: back →
    Text.lines shorter.toList = front ++ back →
    (¬∀ c ∈ line.toList, Text.isBlank c) → Malformed line →
    let whole := served service text start
    let rest := served service shorter start
    ∃ earlier refusal later, earlier.length = (asked front).length ∧
      refusal.id = .null ∧ (∃ message, refusal.reply = .error .invalidArgument message) ∧
      whole.1.1 = earlier ++ refusal :: later ∧ rest.1.1 = earlier ++ later ∧
      whole.2.register = rest.2.register ∧
      whole.2.scene.surroundings = rest.2.scene.surroundings

end Channel

open Channel in
/-- Requests and responses of a host stay aligned, whatever it is sent. -/
theorem Host.responses_are_aligned (settings : Settings) (folder : Option Processor.Folder)
    (start : Session Station) (text : String) :
    Channel.Aligned (Host.service settings folder) text start where
  closed := by rw [served_eq]
  answered := by rw [served_eq]
  counted := by
    rw [served_eq]
    exact length_answers _ _ start
  written := Channel.lines_output _
  ended := Channel.count_output _
  printable response _ := response.render_printable
  reread := by
    intro response inside
    rw [served_eq] at inside
    obtain ⟨line, session, rfl⟩ := Channel.mem_answers _ inside
    exact (Channel.respond_sound _ line session).reread
  refused := by
    intro line session malformed
    obtain ⟨error, refused⟩ := malformed.exists_error
    rw [Channel.run_respond_of_error refused]
    exact ⟨rfl, ⟨_, rfl⟩, rfl, rfl, rfl⟩
  leftOut := by
    intro front line shorter back whole rest visible malformed
    obtain ⟨error, refused⟩ := malformed.exists_error
    obtain ⟨earlier, later, length, first, second, related⟩ :=
      (Host.stack settings folder).answers_refused (s := start) refused (asked front) (asked back)
    have asking : asked (Text.lines text.toList) = asked front ++ line :: asked back := by
      rw [whole, asked_append, asked_cons, if_neg (mt List.all_eq_true.mp visible),
        String.ofList_toList]
    have asking' : asked (Text.lines shorter.toList) = asked front ++ asked back := by
      rw [rest, asked_append]
    rw [service_stack] at first second related
    refine ⟨earlier, ⟨.null, .error .invalidArgument ("malformed request: " ++ error.message)⟩,
      later, length, rfl, ⟨_, rfl⟩, ?_, ?_, ?_, ?_⟩
    · rw [served_eq, asking]
      exact first
    · rw [served_eq, asking']
      exact second
    · rw [served_eq, served_eq, asking, asking']
      exact related.2
    · rw [served_eq, served_eq, asking, asking']
      exact Surroundings.Alike.eq related.1

end PresenceSeal
