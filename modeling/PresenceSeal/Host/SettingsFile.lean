import PresenceSeal.Host.Disk
import PresenceSeal.Host.Settings
import PresenceSeal.Text.Utf8

/-! The settings file. Loading never fails: a file that is missing or no text gives the
defaults, and a document that cannot be read gives the defaults and a warning. Saving
writes a second file, protects it and moves it into place, so that the settings that
were there stay until the new ones are complete. -/
namespace PresenceSeal.Settings

/-- What a document's text gives: settings, or the defaults and the error. -/
def ofText (text : List Char) : Settings × Option Json.Error :=
  match parse text with
  | .ok settings => (settings, none)
  | .error error => ({}, some error)

/-- What a file's bytes give, if there is a file. -/
def ofBytes? (bytes : Option (List UInt8)) : Settings × Option Json.Error :=
  match bytes.bind Text.ofUtf8? with
  | some text => ofText text.toList
  | none => ({}, none)

/-- The warning about a document that could not be read. -/
def warning (path : String) (error : Json.Error) : String :=
  "ignoring corrupt " ++ path ++ ": " ++ error.message

/-- The settings under a path, and the warning about them. -/
def load (disk : Disk) (path : String) : Settings × Option String :=
  let (settings, error) := ofBytes? (disk.read? path)
  (settings, error.map (warning path))

def draftName (path : String) : String := path ++ ".tmp"

/-- The mode of a settings file: its owner's alone. -/
def fileMode : Nat := 0o600

/-- Saves settings under a path. The first step that is refused ends it. -/
def save (settings : Settings) (path : String) : ExceptT DiskError (StateM Disk) Unit := do
  ExceptT.mk fun disk => disk.write (draftName path) (Text.utf8 (String.ofList settings.render))
  ExceptT.mk fun disk => disk.setMode (draftName path) fileMode
  ExceptT.mk fun disk => disk.rename (draftName path) path

end PresenceSeal.Settings
