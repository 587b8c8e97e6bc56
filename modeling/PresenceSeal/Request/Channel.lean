import PresenceSeal.Json.Record
import PresenceSeal.Request.Facade
import PresenceSeal.Text.Utf8

/-! The channel: one request on a line in, one response on a line out, strictly one
after another. Blank lines are passed over and a line that is no request is answered
as an invalid argument; only a line that is no text at all ends the session early. -/
namespace PresenceSeal.Channel

structure Request where
  /-- Given back in the response as it is. -/
  id : Json
  method : String
  /-- Absent and null are the same. -/
  arguments : Option Json

/-- The fields of a request as far as they have been read. -/
structure Draft where
  id : Option Json := none
  method : Option String := none
  arguments : Option (Option Json) := none

def record : Json.Record Draft Request where
  title := "Request"
  fields := [
    { name := "id"
      seen := fun draft => draft.id.isSome
      read := fun draft budget => do
        let id ← Json.Reader.value budget
        pure { draft with id := some id } },
    { name := "method"
      required := true
      seen := fun draft => draft.method.isSome
      read := fun draft _ => do
        let method ← Json.Reader.string "a string"
        pure { draft with method := some method } },
    { name := "arguments"
      seen := fun draft => draft.arguments.isSome
      read := fun draft budget => do
        let arguments ← Json.Reader.optional (Json.Reader.value budget)
        pure { draft with arguments := some arguments } }]
  other := Json.Record.ignore
  start := {}
  finish draft := .ok {
    id := draft.id.getD .null
    method := draft.method.getD ""
    arguments := draft.arguments.getD none }

def request (line : String) : Except Json.Error Request := Json.document record.read line.toList

structure Response where
  id : Json
  reply : Reply

def Response.render (response : Response) : List Char :=
  (Json.object (("id", response.id) :: response.reply.members)).render

/-- The response to a line. -/
def respond (service : Service δ) (line : String) : StateM (Session δ) Response := do
  match request line with
  | .ok request =>
    let reply ← service.handle request.method request.arguments
    pure ⟨request.id, reply⟩
  | .error error =>
    Session.remark .warn "malformed request line"
    pure ⟨.null, .error .invalidArgument ("malformed request: " ++ error.message)⟩

/-- The response to a line, unless the line is blank. -/
def step (service : Service δ) (line : String) : StateM (Session δ) (Option Response) :=
  if (Text.trim line.toList).isEmpty then pure none
  else do pure (some (← respond service line))

/-- The lines of some bytes, the first of which has begun with `begun`, its last byte
first. A line ends with a line feed, which may follow a carriage return; what stands
behind the last line feed is a line unless it is empty. -/
def linesFrom (begun : List UInt8) : List UInt8 → List (List UInt8)
  | [] => if begun.isEmpty then [] else [begun.reverse]
  | b :: rest =>
    if b = 0x0A then
      let line :=
        match begun with
        | 0x0D :: line => line
        | line => line
      line.reverse :: linesFrom [] rest
    else linesFrom (b :: begun) rest

def lines (stream : List UInt8) : List (List UInt8) := linesFrom [] stream

/-- How a session ends. -/
inductive Ending where
  | closed
  | notText
  deriving DecidableEq, Repr

/-- What is noted when the stream has been read to its end. -/
def closing : Journal.Entry := ⟨.info, "request stream closed"⟩

/-- Answers lines one after another. -/
def serveLines (service : Service δ) :
    List (List UInt8) → StateM (Session δ) (List Response × Ending)
  | [] => do
    Session.remark closing.severity closing.text
    pure ([], .closed)
  | line :: rest =>
    match Text.ofUtf8? line with
    | none => pure ([], .notText)
    | some text => do
      let response ← step service text
      let (responses, ending) ← serveLines service rest
      pure (response.toList ++ responses, ending)

/-- Answers a whole stream. -/
def serve (service : Service δ) (stream : List UInt8) :
    StateM (Session δ) (List Response × Ending) :=
  serveLines service (lines stream)

/-- What is written for some responses: a line each. -/
def output (responses : List Response) : List Char :=
  responses.flatMap fun response => response.render ++ ['\n']

end PresenceSeal.Channel
