import PresenceSeal.Envelope.Sealing
import PresenceSeal.Platform.Surroundings

/-! The codec turns text into envelopes and back under a session key. The service
sees texts only; what an envelope looks like is the codec's business. -/
namespace PresenceSeal

/-- The component that seals and opens texts. -/
structure Codec (δ : Type) where
  encrypt : SessionKey → String → Attempt (Scene δ) Fault String
  decrypt : SessionKey → String → Attempt (Scene δ) Fault String

/-- The codec over envelopes. Only encryption draws from the random source. -/
def Codec.ofEnvelopes : Codec δ where
  encrypt key text := (Scene.entropy.attempt (key.sealText text)).adapt Fault.ofSeal
  decrypt key wire := Attempt.ofExcept ((key.openText wire).mapError Fault.ofSeal)

end PresenceSeal
