import PresenceSeal.Consent.Prompt
import PresenceSeal.Json.Record
import PresenceSeal.Platform.Outcome

/-! The settings of a host: which platform it is given, how consent is obtained and
what is noted. The file never holds the seed. Every field may be missing and then
has its default; a document that cannot be read as a whole counts for nothing. -/
namespace PresenceSeal

namespace Settings

/-- Where the security processor comes from. -/
inductive Backend where
  | classFolder
  | fixed
  | none
  deriving DecidableEq, Repr

def Backend.variants : List (String × Backend) :=
  [("sysfs", classFolder), ("fixed", fixed), ("none", none)]

def Backend.name : Backend → String
  | classFolder => "sysfs"
  | fixed => "fixed"
  | none => "none"

structure Tpm where
  backend : Backend := .classFolder
  platformType : String := "TPM-Version:2.0"
  deriving DecidableEq, Repr

/-- What the consent verifier reports where biometry is not supported. -/
inductive Presence where
  | available
  | deviceNotPresent
  | notConfiguredForUser
  | disabledByPolicy
  | deviceBusy
  | securityUpdateRequired
  deriving DecidableEq, Repr

def Presence.variants : List (String × Presence) :=
  [("available", available), ("deviceNotPresent", deviceNotPresent),
    ("notConfiguredForUser", notConfiguredForUser), ("disabledByPolicy", disabledByPolicy),
    ("deviceBusy", deviceBusy), ("securityUpdateRequired", securityUpdateRequired)]

def Presence.name : Presence → String
  | available => "available"
  | deviceNotPresent => "deviceNotPresent"
  | notConfiguredForUser => "notConfiguredForUser"
  | disabledByPolicy => "disabledByPolicy"
  | deviceBusy => "deviceBusy"
  | securityUpdateRequired => "securityUpdateRequired"

/-- The availability that a platform with this setting reports. -/
def Presence.availability : Presence → Availability
  | available => .available
  | deviceNotPresent => .deviceNotPresent
  | notConfiguredForUser => .notConfiguredForUser
  | disabledByPolicy => .disabledByPolicy
  | deviceBusy => .deviceBusy
  | securityUpdateRequired => .securityUpdateRequired

structure Biometry where
  supported : Bool := true
  availability : Presence := .available
  deriving DecidableEq, Repr

/-- How the keyring in memory obtains consent. -/
inductive ConsentMode where
  | autoApprove
  | deny
  | terminal
  deriving DecidableEq, Repr

def ConsentMode.variants : List (String × ConsentMode) :=
  [("autoApprove", autoApprove), ("deny", deny), ("terminal", terminal)]

def ConsentMode.name : ConsentMode → String
  | autoApprove => "autoApprove"
  | deny => "deny"
  | terminal => "terminal"

structure Consent where
  mode : ConsentMode := .terminal
  prompt : Prompt := {}
  deriving DecidableEq, Repr

/-- The name under which the host announces its channel. -/
inductive ChannelName where
  | biometricCipher
  | secureMnemonic
  deriving DecidableEq, Repr

def ChannelName.variants : List (String × ChannelName) :=
  [("biometric_cipher", biometricCipher), ("secure_mnemonic", secureMnemonic)]

def ChannelName.name : ChannelName → String
  | biometricCipher => "biometric_cipher"
  | secureMnemonic => "secure_mnemonic"

end Settings

structure Settings where
  logLevel : String := "info"
  logDir : Option String := none
  tpm : Settings.Tpm := {}
  biometry : Settings.Biometry := {}
  consent : Settings.Consent := {}
  channel : Settings.ChannelName := .biometricCipher
  deriving DecidableEq, Repr

namespace Settings

structure Tpm.Draft where
  backend : Option Backend := none
  platformType : Option String := none

def Tpm.record : Json.Record Tpm.Draft Tpm where
  title := "TpmConfig"
  fields := [
    { name := "backend"
      seen := fun draft => draft.backend.isSome
      read := fun draft budget => do
        let backend ← Json.Reader.choice Backend.variants budget
        pure { draft with backend := some backend } },
    { name := "platformType"
      seen := fun draft => draft.platformType.isSome
      read := fun draft _ => do
        let platformType ← Json.Reader.string "a string"
        pure { draft with platformType := some platformType } }]
  other := Json.Record.ignore
  start := {}
  finish draft :=
    let usual : Tpm := {}
    .ok ⟨draft.backend.getD usual.backend, draft.platformType.getD usual.platformType⟩

structure Biometry.Draft where
  supported : Option Bool := none
  availability : Option Presence := none

def Biometry.record : Json.Record Biometry.Draft Biometry where
  title := "BiometryConfig"
  fields := [
    { name := "supported"
      seen := fun draft => draft.supported.isSome
      read := fun draft _ => do
        let supported ← Json.Reader.bool
        pure { draft with supported := some supported } },
    { name := "availability"
      seen := fun draft => draft.availability.isSome
      read := fun draft budget => do
        let availability ← Json.Reader.choice Presence.variants budget
        pure { draft with availability := some availability } }]
  other := Json.Record.ignore
  start := {}
  finish draft :=
    let usual : Biometry := {}
    .ok ⟨draft.supported.getD usual.supported, draft.availability.getD usual.availability⟩

/-- The mode as far as it has been read, and the other members as they stand. -/
structure Consent.Draft where
  mode : Option ConsentMode := none
  members : List (String × Json) := []

/-- The prompt's fields stand beside the mode. They are kept as values until the
object ends, so consent cannot be written as a list. -/
def Consent.record : Json.Record Consent.Draft Consent where
  title := "ConsentConfig"
  positional := false
  fields := [
    { name := "mode"
      seen := fun draft => draft.mode.isSome
      read := fun draft budget => do
        let mode ← Json.Reader.choice ConsentMode.variants budget
        pure { draft with mode := some mode } }]
  other := fun draft key budget => do
    Json.Reader.colon
    let value ← Json.Reader.value budget
    pure { draft with members := draft.members ++ [(key, value)] }
  start := {}
  finish draft := do
    let usual : Consent := {}
    let prompt ← Prompt.ofMembers draft.members
    .ok ⟨draft.mode.getD usual.mode, prompt⟩

structure Draft where
  logLevel : Option String := none
  logDir : Option (Option String) := none
  tpm : Option Tpm := none
  biometry : Option Biometry := none
  consent : Option Consent := none
  channel : Option ChannelName := none

def record : Json.Record Draft Settings where
  title := "HostConfig"
  fields := [
    { name := "logLevel"
      seen := fun draft => draft.logLevel.isSome
      read := fun draft _ => do
        let logLevel ← Json.Reader.string "a string"
        pure { draft with logLevel := some logLevel } },
    { name := "logDir"
      seen := fun draft => draft.logDir.isSome
      read := fun draft _ => do
        let logDir ← Json.Reader.optional (Json.Reader.string "path string")
        pure { draft with logDir := some logDir } },
    { name := "tpm"
      seen := fun draft => draft.tpm.isSome
      read := fun draft budget => do
        let tpm ← Tpm.record.read budget
        pure { draft with tpm := some tpm } },
    { name := "biometry"
      seen := fun draft => draft.biometry.isSome
      read := fun draft budget => do
        let biometry ← Biometry.record.read budget
        pure { draft with biometry := some biometry } },
    { name := "consent"
      seen := fun draft => draft.consent.isSome
      read := fun draft budget => do
        let consent ← Consent.record.read budget
        pure { draft with consent := some consent } },
    { name := "channel"
      seen := fun draft => draft.channel.isSome
      read := fun draft budget => do
        let channel ← Json.Reader.choice ChannelName.variants budget
        pure { draft with channel := some channel } }]
  other := Json.Record.ignore
  start := {}
  finish draft :=
    let usual : Settings := {}
    .ok {
      logLevel := draft.logLevel.getD usual.logLevel
      logDir := draft.logDir.getD usual.logDir
      tpm := draft.tpm.getD usual.tpm
      biometry := draft.biometry.getD usual.biometry
      consent := draft.consent.getD usual.consent
      channel := draft.channel.getD usual.channel }

def parse (text : List Char) : Except Json.Error Settings := Json.document record.read text

/-- The settings as a value, every field in its declared place. -/
def toJson (settings : Settings) : Json :=
  .object [
    ("logLevel", .string settings.logLevel),
    ("logDir", settings.logDir.elim .null .string),
    ("tpm", .object [
      ("backend", .string settings.tpm.backend.name),
      ("platformType", .string settings.tpm.platformType)]),
    ("biometry", .object [
      ("supported", .bool settings.biometry.supported),
      ("availability", .string settings.biometry.availability.name)]),
    ("consent", .object [
      ("mode", .string settings.consent.mode.name),
      ("title", .string settings.consent.prompt.title),
      ("description", .string settings.consent.prompt.description)]),
    ("channel", .string settings.channel.name)]

def render (settings : Settings) : List Char := settings.toJson.pretty 0

end Settings

end PresenceSeal
