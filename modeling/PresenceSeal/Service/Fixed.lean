import PresenceSeal.Service.Codec
import PresenceSeal.Service.Vault

/-! Components whose answers are fixed beforehand. They stand in where only the
service around them matters. -/
namespace PresenceSeal

def Oracle.fixed (platform : Except Fault TpmStatus) (biometry : Except Fault BiometryStatus) :
    Oracle δ where
  platformStatus := Attempt.ofExcept platform
  biometryStatus := Attempt.ofExcept biometry

def Vault.fixed (create delete : Except Fault Unit) (sign : Except Fault Secret.Buffer) :
    Vault δ where
  create _ := Attempt.ofExcept create
  delete _ := Attempt.ofExcept delete
  sign _ _ := Attempt.ofExcept sign

/-- Puts a fixed text in front of the text given, or fails. -/
def Codec.fixed (encrypt decrypt : Except Fault String) : Codec δ where
  encrypt _ text := Attempt.ofExcept (encrypt.map (· ++ text))
  decrypt _ text := Attempt.ofExcept (decrypt.map (· ++ text))

end PresenceSeal
