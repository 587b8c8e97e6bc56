import PresenceSeal.Host.CommandLine
import PresenceSeal.Host.SettingsFile
import PresenceSeal.Platform.Processors
import PresenceSeal.Request.Channel

/-! A run of the host: the command line, the settings, the journal's filter, and then
requests until their stream ends. -/
namespace PresenceSeal.Host

/-- The processor that settings ask for, beside the machine's own class directory. -/
def processor (settings : Settings.Tpm) (folder : Option Processor.Folder) : Processor Station :=
  match settings.backend with
  | .classFolder => Processor.classFolder folder
  | .fixed => Processor.fixed settings.platformType
  | .none => Processor.absent

/-- The gate of a mode, beside the machine's terminal and what is typed there. -/
def gate (mode : Settings.ConsentMode) (terminal : Option (List String)) : Consent.Gate :=
  match mode with
  | .autoApprove => .autoApprove
  | .deny => .deny
  | .terminal => terminal.elim .noTerminal .terminal

def service (settings : Settings) (folder : Option Processor.Folder) : Service Station :=
  let processor := processor settings.tpm folder
  let keyring :=
    Keyring.software settings.biometry.supported settings.biometry.availability.availability
  let oracle := Oracle.ofPlatform processor keyring
  { oracle
    vault := Vault.ofKeyring keyring oracle settings.consent.prompt
    codec := Codec.ofEnvelopes }

/-- A session before its first request: no credential and no seed. -/
def session (gate : Consent.Gate) (entropy : Entropy) : Session Station where
  scene := {
    surroundings := { device := { desk := { gate } }, entropy }
    journal := [] }

/-- A session before its next request, with consent asked at this gate and these random
bytes to draw from. Nothing has been asked or noted yet. -/
def reopened (session : Session Station) (gate : Consent.Gate) (entropy : Entropy) :
    Session Station :=
  let store := session.scene.surroundings.device.store
  { session with scene := {
      surroundings := { device := { store, desk := { gate } }, entropy }
      journal := [] } }

def journal (session : Session Station) : Journal :=
  session.scene.journal ++ session.scene.surroundings.device.journal ++
    session.scene.surroundings.device.desk.journal

structure Machine where
  disk : Disk := {}
  /-- The day of the run, as journal files are named for it. -/
  day : String := "1970-01-01"
  input : List UInt8 := []
  entropy : Entropy := ⟨[]⟩
  terminal : Option (List String) := none
  folder : Option Processor.Folder := none

/-- Why a run ends with a message. -/
inductive Failure where
  | disk (error : DiskError)
  | notText
  | journal
  deriving DecidableEq, Repr

def Failure.message : Failure → String
  | .disk error => "I/O error: " ++ error.message
  | .notText => "I/O error: stream did not contain valid UTF-8"
  | .journal => "logging setup failed"

/-- What a run leaves behind. -/
structure Result where
  exitCode : Nat
  failure : Option Failure := none
  /-- What the output gets in answer to the command line alone. -/
  told : List String := []
  responses : List Channel.Response := []
  /-- The severities of the entries that were shown. -/
  severities : List Severity := []
  /-- Where the journal's file was begun. What is noted in it is not kept. -/
  journalFile : Option Place := none
  disk : Disk
  written : String := ""

/-- The name of a day's journal file. -/
def journalName (day : String) : String := CommandLine.programName ++ ".log." ++ day

/-- Begins a journal file in a directory, which is made if need be. A file that is there
already goes on. -/
def beginJournal (disk : Disk) (folder day : String) : Except DiskError (Place × Disk) := do
  let disk ← disk.makeDirectories folder
  let path := Path.join folder (journalName day)
  let place ← disk.locate Disk.opening path
  let (result, disk) := disk.write path ((disk.file? place).getD [])
  result
  return (place, disk)

/-- What opening a session notes: the warning about its settings, and that it is ready. -/
def opening (warning : Option String) : Journal :=
  ⟨.info, "host ready"⟩ :: (warning.map fun text => (⟨.warn, text⟩ : Journal.Entry)).toList

def serve (machine : Machine) (settings : Settings) (warning : Option String)
    (filter : Journal.Filter) (journalFile : Option Place) : Result :=
  let start := session (gate settings.consent.mode machine.terminal) machine.entropy
  let ((responses, ending), final) :=
    (Channel.serve (service settings machine.folder) machine.input).run start
  let shown := Journal.shown filter (journal final ++ opening warning)
  { exitCode := if ending = .closed then 0 else 1
    failure := if ending = .closed then none else some .notText
    responses
    severities := shown
    journalFile
    disk := machine.disk
    written := final.scene.surroundings.device.desk.written }

/-- Serves under settings that have been loaded, once the journal has been set up. -/
def start (machine : Machine) (settings : Settings) (warning : Option String)
    (verbosity : Nat) : Result :=
  let refused : Result := { exitCode := 1, failure := some .journal, disk := machine.disk }
  match Journal.Filter.ofName? (Journal.effectiveLevel settings.logLevel verbosity) with
  | none => refused
  | some filter =>
    match settings.logDir with
    | none => serve machine settings warning filter none
    | some folder =>
      match beginJournal machine.disk folder machine.day with
      | .error _ => refused
      | .ok (place, disk) => serve { machine with disk } settings warning filter (some place)

/-- A run with options that have been accepted. -/
def runWith (machine : Machine) (options : CommandLine.Options) : Result :=
  if options.writeDefault then
    match (({} : Settings).save options.config).run machine.disk with
    | (.ok (), disk) => { exitCode := 0, disk }
    | (.error error, disk) => { exitCode := 1, failure := some (.disk error), disk }
  else
    let (settings, warning) := Settings.load machine.disk options.config
    start machine settings warning options.verbosity

def run (machine : Machine) (arguments : List String) : Result :=
  match CommandLine.parse arguments with
  | .error refused =>
    { exitCode := refused.exitCode, told := refused.output, disk := machine.disk }
  | .ok options => runWith machine options

end PresenceSeal.Host
