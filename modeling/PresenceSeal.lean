import PresenceSeal.Main
import PresenceSeal.Platform.Simulated
import PresenceSeal.Proofs.Envelope.Tampering
import PresenceSeal.Proofs.Host.Accounting
import PresenceSeal.Proofs.Host.Frame
import PresenceSeal.Proofs.Host.Lifecycle
import PresenceSeal.Proofs.Host.Saving
import PresenceSeal.Proofs.Json.Filling
import PresenceSeal.Proofs.Json.Grammar
import PresenceSeal.Proofs.Json.Reading
import PresenceSeal.Proofs.Json.Skipping
import PresenceSeal.Proofs.Platform.Races
import PresenceSeal.Proofs.Request.Decoding
import PresenceSeal.Proofs.Request.Interruption
import PresenceSeal.Proofs.Service.Balance
import PresenceSeal.Proofs.Service.Codes
import PresenceSeal.Proofs.Service.Configuration
import PresenceSeal.Proofs.Service.Relay
import PresenceSeal.Service.Fixed
import PresenceSeal.Proofs.Text.Spelling
import PresenceSeal.Proofs.Envelope.Wire
import PresenceSeal.Proofs.Envelope.Opening
import PresenceSeal.Proofs.Platform.Version
import PresenceSeal.Proofs.Host.Fields
import PresenceSeal.Proofs.Request.Validation
import PresenceSeal.Proofs.Service.Statuses
