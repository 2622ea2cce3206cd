import DocPull.Auth.Callback
import DocPull.Auth.Error
import DocPull.Auth.Grant
import DocPull.Auth.Identity
import DocPull.Auth.Manager
import DocPull.Auth.Session
import DocPull.Auth.Source
import DocPull.Auth.Token
import DocPull.Auth.TokenFile
import DocPull.Bytes
import DocPull.Cli.Command
import DocPull.Cli.Error
import DocPull.Cli.Flag
import DocPull.Cli.Help
import DocPull.Cli.Run
import DocPull.Config.Document
import DocPull.Config.Locations
import DocPull.Config.Resolve
import DocPull.Config.Settings
import DocPull.Config.Unknown
import DocPull.Config.Validate
import DocPull.Csv
import DocPull.Drive.Client
import DocPull.Drive.Error
import DocPull.Drive.Export
import DocPull.Drive.FileShape
import DocPull.Drive.Shapes
import DocPull.Duration
import DocPull.EditDistance
import DocPull.Export.Download
import DocPull.Export.FileName
import DocPull.Export.Stream
import DocPull.Failure
import DocPull.Files.AtomicWrite
import DocPull.Files.Path
import DocPull.Files.Tree
import DocPull.Host
import DocPull.Http.Client
import DocPull.Http.MediaType
import DocPull.Http.Status
import DocPull.Http.Wire
import DocPull.Instant
import DocPull.Json.Basic
import DocPull.Json.Decode
import DocPull.Json.Reader
import DocPull.Json.Shape
import DocPull.Log
import DocPull.Main
import DocPull.Number.Binary64
import DocPull.Number.Numeral
import DocPull.Published
import DocPull.Size
import DocPull.Table
import DocPull.Text.Base64
import DocPull.Text.Blank
import DocPull.Text.CombiningClass
import DocPull.Text.Decomposition
import DocPull.Text.Fold
import DocPull.Text.Lookup
import DocPull.Text.LowerCase
import DocPull.Text.Normal
import DocPull.Text.Printable
import DocPull.Text.Quoted
import DocPull.Text.Segment
import DocPull.Text.Sha256
import DocPull.Text.Unit
import DocPull.Toml.Document
import DocPull.Toml.Literal
import DocPull.Toml.Statement
import DocPull.Url.Address
import DocPull.Url.Basic
import DocPull.Url.DomainName
import DocPull.Url.Escape
import DocPull.Url.Query
import DocPull.Url.Template
import DocPull.Proofs.Files.AtomicWrite
import DocPull.Proofs.Files.Place
import DocPull.Proofs.Files.Closed
import DocPull.Proofs.Export.Download
import DocPull.Proofs.Drive.Assembly
import DocPull.Proofs.Drive.ContentRange
import DocPull.Proofs.Http.Client
import DocPull.Proofs.Drive.Delivery
import DocPull.Proofs.Json.Quoted
import DocPull.Proofs.Json.RoundTrip
import DocPull.Proofs.Calendar
import DocPull.Proofs.Instant
import DocPull.Proofs.Json.Decode
import DocPull.Proofs.Auth.TokenFile
import DocPull.Proofs.Auth.Grant
import DocPull.Proofs.Auth.Obtain
import DocPull.Proofs.Http.Wire
import DocPull.Proofs.Auth.Exchange
import DocPull.Proofs.Auth.Scopes
import DocPull.Proofs.Auth.Login
import DocPull.Proofs.Auth.Source
import DocPull.Proofs.Auth.Rotation
import DocPull.Proofs.Files.CrashPoints
import DocPull.Proofs.Files.PlainName
import DocPull.Proofs.Auth.Register
import DocPull.Proofs.Config.Valid
import DocPull.Proofs.Config.Resolve
import DocPull.Proofs.Config.Layers
import DocPull.Proofs.Config.Bounds
import DocPull.Proofs.Files.Alike
import DocPull.Proofs.Auth.Secrets
import DocPull.Proofs.Auth.Secrecy
import DocPull.Proofs.Cli.Frame
import DocPull.Proofs.Cli.Operands
import DocPull.Proofs.Json.Variation
import DocPull.Proofs.Export.Calls
import DocPull.Proofs.Export.Fraction
import DocPull.Proofs.Drive.Failures
import DocPull.Proofs.Export.Interruption
import DocPull.Proofs.Drive.Causes
import DocPull.Proofs.Auth.Listening
import DocPull.Proofs.Http.Cancellation
import DocPull.Proofs.EditDistance
import DocPull.Proofs.Export.Termination
import DocPull.Proofs.Text.Line
import DocPull.Proofs.Config.Problems
import DocPull.Proofs.Config.Suggestion
import DocPull.Proofs.Config.Unknown
import DocPull.Proofs.Published.Cancellation
import DocPull.Proofs.Number.Rounding
import DocPull.Proofs.Number.Monotone
import DocPull.Proofs.Text.Blank
import DocPull.Proofs.Number.Quotient
import DocPull.Proofs.Size.Written
import DocPull.Proofs.Text.Upper
import DocPull.Proofs.Size.Units
import DocPull.Proofs.Size.Overflow
import DocPull.Proofs.Published.Address
import DocPull.Proofs.Export.FileName
import DocPull.Proofs.Export.ComposedName
import DocPull.Proofs.Published.Table
import DocPull.Proofs.Size.Shown
import DocPull.Proofs.Text.Boundary
import DocPull.Proofs.Table
