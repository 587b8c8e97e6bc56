import PresenceSeal.Platform.Software
import PresenceSeal.Platform.Version
import PresenceSeal.Text.Utf8

/-! The security processors that a host can be given: one that reports a fixed
platform type, none at all, and the one whose class directory the kernel keeps. -/
namespace PresenceSeal.Processor

def deviceNotFound : UInt32 := 0x80090035

def propertyNotFound : UInt32 := 0x80090011

/-- Reports a text as it is. -/
def fixed (platformType : String) : Processor Station where
  acquire := pure ⟨0⟩
  platformType _ := pure platformType
  release _ := pure ()

def absent : Processor Station where
  acquire := throw deviceNotFound
  platformType _ := throw propertyNotFound
  release _ := pure ()

structure Folder where
  /-- The contents of the file with the major version, if there is one. -/
  version : Option (List UInt8)

/-- The platform type that the version file's text makes. -/
def typeOfVersion (text : String) : String :=
  String.ofList (Version.token ++ Text.trim text.toList ++ ['.', '0'])

/-- The processor of a class directory, which may be missing. Its handle needs no release. -/
def classFolder (folder : Option Folder) : Processor Station where
  acquire :=
    if folder.isSome then pure ⟨0⟩
    else do
      Station.note .debug "no TPM class directory"
      throw deviceNotFound
  platformType _ :=
    match folder.bind (·.version) |>.bind Text.ofUtf8? with
    | some text => pure (typeOfVersion text)
    | none => throw propertyNotFound
  release _ := pure ()

end PresenceSeal.Processor
