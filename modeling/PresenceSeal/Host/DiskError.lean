/-! What goes wrong on a disk: the causes that callers tell apart, each with the name of
its kind and the wording of its message. -/
namespace PresenceSeal

/-- Why a disk refuses an operation. -/
inductive DiskError where
  | notFound
  | notADirectory
  | isADirectory
  | permissionDenied
  | storageFull
  | busy
  | nameTooLong
  | invalidName
  deriving DecidableEq, Repr

namespace DiskError

def kind : DiskError → String
  | notFound => "NotFound"
  | notADirectory => "NotADirectory"
  | isADirectory => "IsADirectory"
  | permissionDenied => "PermissionDenied"
  | storageFull => "StorageFull"
  | busy => "ResourceBusy"
  | nameTooLong => "InvalidFilename"
  | invalidName => "InvalidInput"

def message : DiskError → String
  | notFound => "No such file or directory (os error 2)"
  | notADirectory => "Not a directory (os error 20)"
  | isADirectory => "Is a directory (os error 21)"
  | permissionDenied => "Permission denied (os error 13)"
  | storageFull => "No space left on device (os error 28)"
  | busy => "Device or resource busy (os error 16)"
  | nameTooLong => "File name too long (os error 36)"
  | invalidName => "file name contained an unexpected NUL byte"

end DiskError

end PresenceSeal
