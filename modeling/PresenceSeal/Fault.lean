import PresenceSeal.Envelope.Basic
import PresenceSeal.Text.Numeral

/-! Why the service could not do what it was asked. Every fault collapses to one
stable code, which callers match on; the wording is advisory. -/
namespace PresenceSeal

inductive Fault where
  | tpmUnsupported (reason : String)
  | tpmVersion (reason : String)
  | biometryNotSupported
  | configure (reason : String)
  | invalidArgument (reason : String)
  | generateKey (reason : String)
  | keyNotFound
  | keyAlreadyExists
  | deleteKey (reason : String)
  | encrypt (reason : String)
  | decrypt (reason : String)
  | authenticationCanceled
  | userPrefersPassword
  | secureDeviceLocked
  | convertingString (reason : String)
  | unknown (reason : String)
  deriving DecidableEq, Repr

/-- The stable codes, in the order of their table. -/
inductive Code where
  | tpmUnsupported
  | tpmVersionError
  | biometryNotSupported
  | configureError
  | generateKeyError
  | keyNotFound
  | keyAlreadyExists
  | deleteKeyError
  | encryptError
  | decryptError
  | authenticationUserCanceled
  | userPrefersPassword
  | secureDeviceLocked
  | convertingStringError
  | invalidArgument
  | unknownError
  deriving DecidableEq, Repr

namespace Code

def all : List Code :=
  [tpmUnsupported, tpmVersionError, biometryNotSupported, configureError, generateKeyError,
    keyNotFound, keyAlreadyExists, deleteKeyError, encryptError, decryptError,
    authenticationUserCanceled, userPrefersPassword, secureDeviceLocked, convertingStringError,
    invalidArgument, unknownError]

/-- The text that callers match on. -/
def text : Code → String
  | tpmUnsupported => "TPM_UNSUPPORTED"
  | tpmVersionError => "TPM_VERSION_ERROR"
  | biometryNotSupported => "BIOMETRY_NOT_SUPPORTED"
  | configureError => "CONFIGURE_ERROR"
  | generateKeyError => "GENERATE_KEY_ERROR"
  | keyNotFound => "KEY_NOT_FOUND"
  | keyAlreadyExists => "KEY_ALREADY_EXISTS"
  | deleteKeyError => "DELETE_KEY_ERROR"
  | encryptError => "ENCRYPT_ERROR"
  | decryptError => "DECRYPT_ERROR"
  | authenticationUserCanceled => "AUTHENTICATION_USER_CANCELED"
  | userPrefersPassword => "USER_PREFERS_PASSWORD"
  | secureDeviceLocked => "SECURE_DEVICE_LOCKED"
  | convertingStringError => "CONVERTING_STRING_ERROR"
  | invalidArgument => "INVALID_ARGUMENT"
  | unknownError => "UNKNOWN_ERROR"

/-- The numeric status of the same failure on native platforms. -/
def platform : Code → UInt32
  | tpmUnsupported => 0xA0082001
  | tpmVersionError => 0xA0082002
  | biometryNotSupported => 0xA0082003
  | configureError => 0xA0082004
  | generateKeyError => 0xA0082005
  | keyNotFound => 0xA0082006
  | keyAlreadyExists => 0xA0082007
  | deleteKeyError => 0xA0082008
  | encryptError => 0xA0082009
  | decryptError => 0xA008200A
  | authenticationUserCanceled => 0xA008200B
  | userPrefersPassword => 0xA008200C
  | secureDeviceLocked => 0xA008200D
  | convertingStringError => 0xA008200E
  | invalidArgument => 0x80070057
  | unknownError => 0x80004005

end Code

namespace Fault

def message : Fault → String
  | tpmUnsupported reason => "TPM unsupported: " ++ reason
  | tpmVersion reason => "TPM version error: " ++ reason
  | biometryNotSupported => "biometry is not supported"
  | configure reason => "configure error: " ++ reason
  | invalidArgument reason => "invalid argument: " ++ reason
  | generateKey reason => "generate key error: " ++ reason
  | keyNotFound => "key credential not found"
  | keyAlreadyExists => "key credential already exists"
  | deleteKey reason => "delete key error: " ++ reason
  | encrypt reason => "encrypt error: " ++ reason
  | decrypt reason => "decrypt error: " ++ reason
  | authenticationCanceled => "user canceled the operation"
  | userPrefersPassword => "user prefers password"
  | secureDeviceLocked => "security device is locked"
  | convertingString reason => "string conversion error: " ++ reason
  | unknown reason => "unknown error: " ++ reason

def code : Fault → Code
  | tpmUnsupported _ => .tpmUnsupported
  | tpmVersion _ => .tpmVersionError
  | biometryNotSupported => .biometryNotSupported
  | configure _ => .configureError
  | invalidArgument _ => .invalidArgument
  | generateKey _ => .generateKeyError
  | keyNotFound => .keyNotFound
  | keyAlreadyExists => .keyAlreadyExists
  | deleteKey _ => .deleteKeyError
  | encrypt _ => .encryptError
  | decrypt _ => .decryptError
  | authenticationCanceled => .authenticationUserCanceled
  | userPrefersPassword => .userPrefersPassword
  | secureDeviceLocked => .secureDeviceLocked
  | convertingString _ => .convertingStringError
  | unknown _ => .unknownError

/-- A failure to seal or open keeps its phase. -/
def ofSeal : SealFault → Fault
  | .encryption reason => encrypt reason
  | .decryption => decrypt "authentication tag verification failed"
  | .malformedEnvelope reason => decrypt reason
  | .stringConversion reason => convertingString reason
  | .keyDerivation reason => unknown reason
  | .secureMemory reason => unknown reason

/-- The reason given for a raw platform status: its 32 bits in hexadecimal. -/
def statusReason (operation : String) (status : UInt32) : String :=
  operation ++ " failed: 0x" ++ String.ofList (Text.upperHex 8 status.toNat)

end Fault

end PresenceSeal
