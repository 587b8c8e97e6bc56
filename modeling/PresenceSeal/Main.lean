import PresenceSeal.Host.Run
import Std.Time.Format

/-! The program: a host on the machine it is started on. What to answer is decided by
the service and the channel; here lines, files and answers typed by the user are
fetched and handed on. -/
namespace PresenceSeal.Program

/-- The directory in which the kernel describes the security processor. -/
def classDirectory : IO.FS.DirEntry := ⟨"/sys/class/tpm", "tpm0"⟩

def terminal : String := "/dev/tty"

/-- What the program was told about its journal. -/
structure Log where
  filter : Journal.Filter
  file : Option IO.FS.Handle

/-- Shows what has been noted, in the order in which it was. -/
def Log.report (log : Log) (journal : Journal) : IO Unit := do
  for entry in (journal.filter log.filter.admits).reverse do
    let line := entry.severity.name ++ " " ++ entry.text
    (← IO.getStderr).putStrLn line
    if let some file := log.file then
      file.putStrLn line
      file.flush

def fail (message : String) : IO UInt32 := do
  (← IO.getStderr).putStrLn (CommandLine.programName ++ ": " ++ message)
  return 1

def diskError? : IO.Error → Option DiskError
  | .noFileOrDirectory _ _ _ => some .notFound
  | .permissionDenied _ _ _ => some .permissionDenied
  | .inappropriateType _ code _ => some (if code = 20 then .notADirectory else .isADirectory)
  | .resourceExhausted _ _ _ => some .storageFull
  | .resourceBusy _ _ => some .busy
  | .invalidArgument _ code _ => if code = 36 then some .nameTooLong else none
  | _ => none

def failWith (error : IO.Error) : IO UInt32 :=
  match diskError? error with
  | some error => fail (Host.Failure.disk error).message
  | none => fail ("I/O error: " ++ toString error)

def readFile? (path : String) : IO (Option (List UInt8)) := do
  let .ok bytes ← (IO.FS.readBinFile path).toBaseIO | return none
  return some bytes.toList

def folder? : IO (Option Processor.Folder) := do
  let directory := classDirectory.path
  if ← directory.isDir then
    return some ⟨← readFile? (toString (directory / "tpm_version_major"))⟩
  return none

/-- Fresh random bytes, more than one request can draw. -/
def entropy : IO Entropy := do
  let .ok bytes ← (IO.getRandomBytes 64).toBaseIO | return ⟨[]⟩
  return ⟨bytes.toList⟩

/-- The line typed in answer to a prompt, if there is a terminal. -/
def typed? (prompt : Prompt) : IO (Option String) := do
  let asking : IO String := do
    let output ← IO.FS.Handle.mk terminal .write
    output.putStr (Consent.shown prompt)
    output.flush
    let input ← IO.FS.Handle.mk terminal .read
    input.getLine
  let .ok answer ← asking.toBaseIO | return none
  return some answer

/-- Answers a line. No request asks twice, so it can be seen without a terminal whether
this one asks at all; if it does, it is answered anew with what the user typed. -/
def answer (settings : Settings) (session : Session Station) (line : String) :
    IO (Option Channel.Response × Session Station) := do
  let service := Host.service settings (← folder?)
  let source ← entropy
  let attempt (gate : Consent.Gate) : Option Channel.Response × Session Station :=
    (Channel.step service line).run (Host.reopened session gate source)
  let first := attempt (Host.gate settings.consent.mode none)
  match settings.consent.mode, first.2.scene.surroundings.device.desk.asked with
  | .terminal, prompt :: _ =>
    let some answer ← typed? prompt | return first
    return attempt (.terminal [answer])
  | _, _ => return first

/-- The bytes up to the next line feed, which is taken as well, or to the stream's end. -/
partial def nextLine (stream : IO.FS.Stream) (begun : List UInt8) : IO (List UInt8) := do
  match (← stream.read 1).toList with
  | [] => return begun.reverse
  | b :: _ => if b = 0x0A then return (b :: begun).reverse else nextLine stream (b :: begun)

partial def serve (settings : Settings) (log : Log) (session : Session Station) : IO UInt32 := do
  match Channel.lines (← nextLine (← IO.getStdin) []) with
  | [] =>
    log.report [Channel.closing]
    return 0
  | bytes :: _ =>
    let some line := Text.ofUtf8? bytes | fail Host.Failure.notText.message
    let (response, session) ← answer settings session line
    log.report (Host.journal session)
    let output ← IO.getStdout
    output.putStr (String.ofList (Channel.output response.toList))
    output.flush
    serve settings log session

/-- The day that it is, as journal files are named for it. -/
def today : IO String := do
  let now := Std.Time.DateTime.ofTimestampWithZone (← Std.Time.Timestamp.now) Std.Time.TimeZone.UTC
  return now.toPlainDate.toSQLDateString

/-- Begins the day's journal file in a directory, which is made if need be. -/
def beginLog (folder : String) : IO IO.FS.Handle := do
  unless folder.isEmpty do
    IO.FS.createDirAll folder
  IO.FS.Handle.mk (Path.join folder (Host.journalName (← today))) .append

def start (options : CommandLine.Options) : IO UInt32 := do
  let (settings, error) := Settings.ofBytes? (← readFile? options.config)
  let level := Journal.effectiveLevel settings.logLevel options.verbosity
  let some filter := Journal.Filter.ofName? level | fail Host.Failure.journal.message
  let .ok file ← (settings.logDir.mapM beginLog).toBaseIO | fail Host.Failure.journal.message
  let log : Log := ⟨filter, file⟩
  log.report (Host.opening (error.map (Settings.warning options.config)))
  let gate := Host.gate settings.consent.mode none
  serve settings log (Host.session gate ⟨[]⟩)

def writeDefault (path : String) : IO UInt32 := do
  let draft := Settings.draftName path
  IO.FS.writeFile draft (String.ofList ({} : Settings).render)
  IO.setAccessRights draft ⟨⟨true, true, false⟩, {}, {}⟩
  IO.FS.rename draft path
  return 0

def refuse (refused : CommandLine.Refused) : IO UInt32 := do
  for line in refused.output do
    IO.println line
  if refused.output.isEmpty then
    for line in CommandLine.help do
      IO.eprintln line
  return UInt32.ofNat refused.exitCode

end PresenceSeal.Program

open PresenceSeal in
def main (arguments : List String) : IO UInt32 := do
  match CommandLine.parse arguments with
  | .error refused => Program.refuse refused
  | .ok options =>
    let work := if options.writeDefault then Program.writeDefault options.config
      else Program.start options
    match ← work.toBaseIO with
    | .ok code => return code
    | .error error => Program.failWith error
