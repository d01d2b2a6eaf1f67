import Cryptoki.Host.Command
import Cryptoki.Mechanism.Layout
import Cryptoki.Number.Decimal
import Cryptoki.Proofs.Attribute.Lending
import Cryptoki.Simulation.Script
import Cryptoki.Simulation.World
import Cryptoki.Text.Hex
import Cryptoki.Proofs.Attribute.Reading
import Cryptoki.Proofs.Attribute.Decoding
import Cryptoki.Proofs.Attribute.StoredObject
import Cryptoki.Proofs.CodeNames
import Cryptoki.Proofs.Date.Reading
import Cryptoki.Proofs.Attribute.RoundTrip
import Cryptoki.Proofs.Mechanism.Lending
import Cryptoki.Proofs.Mechanism.CopyBack
import Cryptoki.Proofs.Notifications
import Cryptoki.Proofs.Host.Refusals
import Cryptoki.Proofs.Host.Sizes
import Cryptoki.Proofs.Host.Outputs
import Cryptoki.Proofs.Host.Locking
import Cryptoki.Proofs.Host.Isolation
import Cryptoki.Proofs.Host.Releasing
import Cryptoki.Proofs.Host.Handles
import Cryptoki.Proofs.Callback.Nesting
import Cryptoki.Proofs.Attribute.Stopping
import Cryptoki.Proofs.Host.Guessing
import Cryptoki.Proofs.Mechanism.Applying
import Cryptoki.Proofs.Mechanism.Reading
import Cryptoki.Proofs.Attribute.Mirroring
import Cryptoki.Proofs.Flaws
import Cryptoki.Proofs.Text.Conversion
import Cryptoki.Proofs.Text.Lossy
import Cryptoki.Proofs.Info
import Cryptoki.Proofs.Host.Labels
import Cryptoki.Proofs.Registry.Registrations
import Cryptoki.Proofs.Callback.Mutexes
import Cryptoki.Proofs.Attribute.Reencoding
