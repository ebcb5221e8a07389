import Ocpp.Command.FileTree
import Ocpp.FieldView
import Ocpp.Main
import Ocpp.MessageId
import Ocpp.Proofs.Codec.Text
import Ocpp.Session
import Ocpp.Proofs.Text.Bytes
import Ocpp.Proofs.Coherence
import Ocpp.Proofs.Codec.Exchange
import Ocpp.Proofs.Session
import Ocpp.Proofs.Text.Blank
import Ocpp.Proofs.Profile.Field
import Ocpp.Proofs.Profile.Reading
import Ocpp.Proofs.Checks
import Ocpp.Proofs.Profile.Clean
import Ocpp.Proofs.Profile.Document
import Ocpp.Proofs.Profile.Reread
import Ocpp.Proofs.Profile.Idempotence
import Ocpp.Proofs.Codec.Answer
import Ocpp.Proofs.Json.Layout
import Ocpp.Proofs.Command.Process
import Ocpp.Proofs.Number.Decimal
import Ocpp.Proofs.Profile.Rate
import Ocpp.Proofs.Number.Nearest
import Ocpp.Proofs.Number.Shortest
import Ocpp.Proofs.Json.Float
import Ocpp.Proofs.Codec.Relay
import Ocpp.Proofs.Number.Rounding
import Ocpp.Proofs.Json.Accuracy
import Ocpp.Proofs.Json.Reread
import Ocpp.Proofs.Codec.FrameFault
import Ocpp.Proofs.Profile.Dispatch
import Ocpp.Proofs.Profile.ReadingOrder
import Ocpp.Proofs.Profile.Traversal
import Ocpp.Proofs.Profile.Spelling
import Ocpp.Proofs.Profile.WholeNumber
import Ocpp.Proofs.Profile.Replacement
import Ocpp.Proofs.Profile.RateSpelling
import Ocpp.Proofs.Profile.TimeSpelling
import Ocpp.Proofs.Calendar.Text
import Ocpp.Proofs.Codec.Extension
import Ocpp.Proofs.Codec.CanonicalFrame
