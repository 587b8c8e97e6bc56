import PresenceSeal.Proofs.Request.Framing

/-! How far a stream is read. Whatever text a line holds, the next one is read; but at the
first line whose bytes are no text the session ends, and what stands behind it is never
looked at. -/
namespace PresenceSeal.Channel

def isLegible (line : List UInt8) : Bool := (Text.ofUtf8? line).isSome

/-- A line of blanks, which is passed over. -/
def isBlankLine (line : List UInt8) : Bool :=
  (Text.ofUtf8? line).any fun text => text.toList.all Text.isBlank

/-- The request that a line is, if it is one. -/
def asRequest? (line : List UInt8) : Option Request := do
  let text ← Text.ofUtf8? line
  (request text).toOption

/-- A response that is due to a line: a request has the reply to it, in some session, and
every other line is refused. -/
inductive Due (service : Service δ) (line : List UInt8) : Response → Prop where
  | handled {read : Request} (session : Session δ) : asRequest? line = some read →
      Due service line ⟨read.id, ((service.handle read.method read.arguments).run session).1⟩
  | refused (message : String) : asRequest? line = none →
      Due service line ⟨.null, .error .invalidArgument message⟩

/-- A stream that no line brings to an early end: each line that is not blank has its response. -/
structure Endured (service : Service δ) (stream : List UInt8) (start : Session δ) : Prop where
  closed : ((serve service stream).run start).1.2 = .closed
  answered : List.Forall₂ (Due service) ((lines stream).filter (!isBlankLine ·))
    ((serve service stream).run start).1.1

/-! ### Lines of text -/

theorem ofUtf8?_bytesOf (line : List Char) :
    Text.ofUtf8? (Text.bytesOf line) = some (String.ofList line) := by
  rw [Text.ofUtf8?_eq_some_iff, Text.utf8_eq_bytesOf, String.toList_ofList]

theorem isBlankLine_bytesOf (line : List Char) :
    isBlankLine (Text.bytesOf line) = line.all Text.isBlank := by
  rw [isBlankLine, ofUtf8?_bytesOf, Option.any_some, String.toList_ofList]

theorem exists_bytesOf {line : List UInt8} (legible : isLegible line = true) :
    ∃ text, line = Text.bytesOf text := by
  obtain ⟨text, read⟩ := Option.isSome_iff_exists.mp legible
  refine ⟨text.toList, ?_⟩
  rw [← Text.utf8_eq_bytesOf, Text.ofUtf8?_eq_some_iff.mp read]

/-- Lines are texts up to some line that is none, if there is one. -/
theorem exists_texts (stream : List (List UInt8)) :
    ∃ texts : List (List Char), stream.takeWhile isLegible = texts.map Text.bytesOf := by
  induction stream with
  | nil => exact ⟨[], rfl⟩
  | cons line rest ih =>
    rw [List.takeWhile_cons]
    cases legible : isLegible line with
    | false => exact ⟨[], rfl⟩
    | true =>
      obtain ⟨text, rfl⟩ := exists_bytesOf legible
      obtain ⟨texts, same⟩ := ih
      refine ⟨text :: texts, ?_⟩
      simp only [same, ↓reduceIte, List.map_cons]

section

variable (service : Service δ)

theorem due_respond (line : List Char) (session : Session δ) :
    Due service (Text.bytesOf line)
      ((respond service (String.ofList line)).run session).1 := by
  have asking : asRequest? (Text.bytesOf line) = (request (String.ofList line)).toOption := by
    rw [asRequest?, ofUtf8?_bytesOf]
    rfl
  cases given : request (String.ofList line) with
  | error error =>
    rw [run_respond_of_error given]
    apply Due.refused
    rw [asking, given]
    rfl
  | ok read =>
    rw [run_respond_of_ok given]
    apply Due.handled session
    rw [asking, given]
    rfl

/-- Each line that is asked has the response that is due to it. -/
theorem due_answers (texts : List (List Char)) (session : Session δ) :
    List.Forall₂ (Due service) ((texts.map Text.bytesOf).filter (!isBlankLine ·))
      ((answers service (asked texts)).run session).1 := by
  induction texts generalizing session with
  | nil => exact .nil
  | cons line texts ih =>
    rw [List.map_cons, List.filter_cons, isBlankLine_bytesOf, asked_cons]
    cases line.all Text.isBlank with
    | true => exact ih session
    | false =>
      simp only [Bool.not_false, ↓reduceIte, Bool.false_eq_true, run_answers_cons]
      exact .cons (due_respond service line session) (ih _)

/-- What is done with the lines behind those that are texts: nothing. -/
theorem run_serveLines_dropWhile (stream : List (List UInt8)) (session : Session δ) :
    (serveLines service (stream.dropWhile isLegible)).run session =
      if stream.all isLegible then
        (([], .closed), session.noting closing.severity closing.text)
      else (([], .notText), session) := by
  induction stream with
  | nil => rfl
  | cons line rest ih =>
    rw [List.dropWhile_cons, List.all_cons]
    cases legible : isLegible line with
    | true => simpa only [↓reduceIte, Bool.true_and] using ih
    | false =>
      have illegible : Text.ofUtf8? line = none := by
        simpa only [isLegible, Option.isSome_eq_false_iff, Option.isNone_iff_eq_none] using legible
      simp only [Bool.false_eq_true, ↓reduceIte, Bool.false_and, serveLines, illegible]
      rfl

/-- Lines are answered as far as they are texts, and only if all of them are is the session
closed. -/
theorem run_serveLines_legible {stream : List (List UInt8)} {texts : List (List Char)}
    (leading : stream.takeWhile isLegible = texts.map Text.bytesOf) (session : Session δ) :
    (serveLines service stream).run session =
      let answered := (answers service (asked texts)).run session
      if stream.all isLegible then
        ((answered.1, .closed), answered.2.noting closing.severity closing.text)
      else ((answered.1, .notText), answered.2) := by
  have parts : stream.takeWhile isLegible ++ stream.dropWhile isLegible = stream :=
    List.takeWhile_append_dropWhile
  rw [leading] at parts
  have served := run_serveLines_append service texts (stream.dropWhile isLegible) session
  dsimp only at served
  rw [parts, run_serveLines_dropWhile] at served
  rw [served]
  cases stream.all isLegible with
  | true => simp only [↓reduceIte, List.append_nil]
  | false => simp only [Bool.false_eq_true, ↓reduceIte, List.append_nil]

end

/-- A stream is answered as far as its lines are texts. -/
structure Heard (service : Service δ) (stream : List UInt8) (start : Session δ) : Prop where
  /-- Each of the leading texts that is not blank has its response, and nothing else has one. -/
  answered : List.Forall₂ (Due service)
    (((lines stream).takeWhile isLegible).filter (!isBlankLine ·))
    ((serve service stream).run start).1.1
  /-- It is as if the stream had ended there. -/
  alone :
    let ran := (serve service stream).run start
    let heard := (serveLines service ((lines stream).takeWhile isLegible)).run start
    ran.1.1 = heard.1.1 ∧ ran.2.register = heard.2.register ∧
      ran.2.scene.surroundings = heard.2.scene.surroundings
  /-- The end of the stream is reached by way of texts only. -/
  closed_iff : ((serve service stream).run start).1.2 = .closed ↔
    ∀ line ∈ lines stream, isLegible line = true
  /-- A stream of texts is not brought to an early end by any of its lines. -/
  endured : (∀ line ∈ lines stream, isLegible line = true) → Endured service stream start

/-- Every stream is answered as far as its lines are texts, whatever the service does. -/
theorem streams_are_answered_while_legible (service : Service δ) (stream : List UInt8)
    (start : Session δ) : Heard service stream start := by
  obtain ⟨texts, leading⟩ := exists_texts (lines stream)
  have ran : (serve service stream).run start = _ := run_serveLines_legible service leading start
  have heard := run_serveLines service texts start
  have due := due_answers service texts start
  have responses : ((serve service stream).run start).1.1 =
      ((answers service (asked texts)).run start).1 := by
    rw [ran]
    cases (lines stream).all isLegible <;> rfl
  have closed : ((serve service stream).run start).1.2 = .closed ↔
      ∀ line ∈ lines stream, isLegible line = true := by
    rw [ran, ← List.all_eq_true]
    cases (lines stream).all isLegible <;> simp
  constructor
  case answered =>
    rw [leading, responses]
    exact due
  case alone =>
    rw [leading, heard, ran]
    cases (lines stream).all isLegible <;> exact ⟨rfl, rfl, rfl⟩
  case closed_iff => exact closed
  case endured =>
    intro legible
    refine ⟨closed.mpr legible, ?_⟩
    have whole : (lines stream).takeWhile isLegible = lines stream :=
      List.takeWhile_eq_self_iff.mpr legible
    rw [← whole, leading, responses]
    exact due

/-- One byte that is no text costs a host all that follows it. -/
theorem illegible_line_ends_session :
    let settings : Settings := { tpm := { backend := .none }, consent := { mode := .autoApprove } }
    let asking := "\x7b\"id\":1,\"method\":\"getBiometryStatus\"\x7d\n"
    ¬Endured (Host.service settings none) (0xFF :: 0x0A :: Text.utf8 asking)
      (Host.session .autoApprove ⟨[]⟩) := by
  intro settings asking endured
  have interrupted : ((serve (Host.service settings none) (0xFF :: 0x0A :: Text.utf8 asking)).run
      (Host.session .autoApprove ⟨[]⟩)).1.2 = .notText := rfl
  rw [endured.closed] at interrupted
  contradiction

end PresenceSeal.Channel
