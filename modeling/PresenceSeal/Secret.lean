import PresenceSeal.Bytes

/-! Holders of sensitive bytes. What they hold is read only on purpose; their text
form shows a length at most, so that a holder in a message gives nothing away. -/
namespace PresenceSeal.Secret

/-- Sensitive bytes of any length: a signature, a challenge or an opened payload. -/
structure Buffer where
  bytes : List UInt8
  deriving DecidableEq

namespace Buffer

def length (buffer : Buffer) : Nat := buffer.bytes.length

def isEmpty (buffer : Buffer) : Bool := buffer.bytes.isEmpty

/-- The holder as text: how many bytes it holds. -/
def masked (buffer : Buffer) : String := s!"SecretBuffer({buffer.length} bytes)"

/-- Whether the bytes are known to stay in memory. With no bytes they do; otherwise the machine
decides. -/
def pinned? (buffer : Buffer) : Option Bool := if buffer.isEmpty then some true else none

end Buffer

structure Fixed (n : Nat) where
  bytes : Bytes n
  deriving DecidableEq

namespace Fixed

def masked {n : Nat} (_ : Fixed n) : String := s!"SecretBytes<{n}>(***)"

def wipe {n : Nat} (_ : Fixed n) : Fixed n := ⟨Bytes.zero n⟩

end Fixed

end PresenceSeal.Secret
