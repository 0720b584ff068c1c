import Signet.Main
import Signet.Registry.Script
import Signet.Proofs.Assoc
import Signet.Proofs.Bytes.Base64
import Signet.Proofs.Exchange.Checks
import Signet.Proofs.Exchange.Course
import Signet.Proofs.Exchange.Pair
import Signet.Proofs.Files.Name
import Signet.Proofs.Json.Canonical
import Signet.Proofs.Json.Form
import Signet.Proofs.Json.Keys
import Signet.Proofs.Json.Normal
import Signet.Proofs.Json.Order
import Signet.Proofs.Json.Plain
import Signet.Proofs.Json.RoundTrip
import Signet.Proofs.Json.Token
import Signet.Proofs.Json.Writable
import Signet.Proofs.Payload.Simple
import Signet.Proofs.Payload.Statement
import Signet.Proofs.Program.Course
import Signet.Proofs.Program.Escape
import Signet.Proofs.Program.ExitCode
import Signet.Proofs.Program.Input
import Signet.Proofs.Program.Precedence
import Signet.Proofs.Reference.Artifact
import Signet.Proofs.Reference.Grammar
import Signet.Proofs.Reference.Printed
import Signet.Proofs.Reference.Repository
import Signet.Proofs.Reference.Tag
import Signet.Proofs.Registry.Address
import Signet.Proofs.Registry.Change
import Signet.Proofs.Registry.Deposit
import Signet.Proofs.Registry.Frame
import Signet.Proofs.Registry.Growth
import Signet.Proofs.Registry.Layers
import Signet.Proofs.Registry.Location
import Signet.Proofs.Registry.Origin
import Signet.Proofs.Registry.Reading
import Signet.Proofs.Remote.Client
import Signet.Proofs.Remote.Described
import Signet.Proofs.Remote.Fault
import Signet.Proofs.Remote.Image
import Signet.Proofs.Remote.Manifest
import Signet.Proofs.Remote.Origin
import Signet.Proofs.Remote.Subject
import Signet.Proofs.Remote.TagImage
import Signet.Proofs.Settings.Interpolation
import Signet.Proofs.Settings.Loaded
import Signet.Proofs.Settings.Storage
import Signet.Proofs.Settings.Usable
import Signet.Proofs.Storage.Absence
import Signet.Proofs.Storage.Again
import Signet.Proofs.Storage.Attached
import Signet.Proofs.Storage.Change
import Signet.Proofs.Storage.Commute
import Signet.Proofs.Storage.Contents
import Signet.Proofs.Storage.Early
import Signet.Proofs.Storage.Envelope
import Signet.Proofs.Storage.Fallback
import Signet.Proofs.Storage.Fault
import Signet.Proofs.Storage.Formats
import Signet.Proofs.Storage.Kept
import Signet.Proofs.Storage.Legacy
import Signet.Proofs.Storage.Material
import Signet.Proofs.Storage.Origin
import Signet.Proofs.Storage.Outcome
import Signet.Proofs.Storage.Prepared
import Signet.Proofs.Storage.Push
import Signet.Proofs.Storage.ReadBack
import Signet.Proofs.Storage.Resolve
import Signet.Proofs.Storage.Run
import Signet.Proofs.Storage.Subject
import Signet.Proofs.Text.CodePoint
import Signet.Proofs.Text.Decimal
import Signet.Proofs.Text.Decoded
import Signet.Proofs.Text.Hex
import Signet.Proofs.Text.Utf8
