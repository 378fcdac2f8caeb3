import RuntimeFlag.Calendar
import RuntimeFlag.Catalog.Application
import RuntimeFlag.Catalog.Organization
import RuntimeFlag.Catalog.Page
import RuntimeFlag.Catalog.Resource
import RuntimeFlag.Catalog.Runtime
import RuntimeFlag.Catalog.Space
import RuntimeFlag.Client
import RuntimeFlag.Command
import RuntimeFlag.CommandLine.Arguments
import RuntimeFlag.CommandLine.Command
import RuntimeFlag.CommandLine.Help
import RuntimeFlag.CommandLine.Rejection
import RuntimeFlag.Credential.Base64Url
import RuntimeFlag.Credential.Claims
import RuntimeFlag.Credential.Token
import RuntimeFlag.Decimal.Shortest
import RuntimeFlag.Dialogue
import RuntimeFlag.Directory
import RuntimeFlag.Failure
import RuntimeFlag.Json.Decode
import RuntimeFlag.Json.Doc
import RuntimeFlag.Json.Fault
import RuntimeFlag.Json.Number
import RuntimeFlag.Json.Reader
import RuntimeFlag.Json.TextScan
import RuntimeFlag.Json.Value
import RuntimeFlag.Listing.Document
import RuntimeFlag.Listing.Format
import RuntimeFlag.Listing.Rows
import RuntimeFlag.Listing.Table
import RuntimeFlag.Log
import RuntimeFlag.Main
import RuntimeFlag.Network
import RuntimeFlag.Palette
import RuntimeFlag.Pattern.Basic
import RuntimeFlag.Pattern.Bracket
import RuntimeFlag.Pattern.CharSet
import RuntimeFlag.Pattern.Cursor
import RuntimeFlag.Pattern.Escape
import RuntimeFlag.Pattern.Fault
import RuntimeFlag.Pattern.Group
import RuntimeFlag.Pattern.Meaning
import RuntimeFlag.Pattern.Reader
import RuntimeFlag.Pattern.Room
import RuntimeFlag.Pattern.Text
import RuntimeFlag.Pattern.Written
import RuntimeFlag.Program
import RuntimeFlag.Request
import RuntimeFlag.Session
import RuntimeFlag.Settings.Basic
import RuntimeFlag.Settings.Credential
import RuntimeFlag.Settings.File
import RuntimeFlag.Settings.Session
import RuntimeFlag.Surroundings
import RuntimeFlag.Text.Blank
import RuntimeFlag.Text.CodeMap
import RuntimeFlag.Text.CombiningClass
import RuntimeFlag.Text.Composed
import RuntimeFlag.Text.Decomposition
import RuntimeFlag.Text.Direction
import RuntimeFlag.Text.Hex
import RuntimeFlag.Text.Hidden
import RuntimeFlag.Text.Joining
import RuntimeFlag.Text.Letter
import RuntimeFlag.Text.Lines
import RuntimeFlag.Text.Mark
import RuntimeFlag.Text.Plain
import RuntimeFlag.Text.Quoted
import RuntimeFlag.Text.Ranges
import RuntimeFlag.Text.Utf8
import RuntimeFlag.Text.Width
import RuntimeFlag.Text.Width.Ligature
import RuntimeFlag.Text.Width.Picture
import RuntimeFlag.Text.Width.Table
import RuntimeFlag.Toggle
import RuntimeFlag.Transport.Delivery
import RuntimeFlag.Transport.Message
import RuntimeFlag.Transport.Response
import RuntimeFlag.Transport.Status
import RuntimeFlag.Url.Address
import RuntimeFlag.Url.Basic
import RuntimeFlag.Url.Domain
import RuntimeFlag.Url.Domain.Label
import RuntimeFlag.Url.Domain.Mapping
import RuntimeFlag.Url.Form
import RuntimeFlag.Url.Host
import RuntimeFlag.Url.Origin
import RuntimeFlag.Url.Parser
import RuntimeFlag.Url.Path
import RuntimeFlag.Url.Percent
import RuntimeFlag.Url.Punycode
import RuntimeFlag.Walk
import RuntimeFlag.Yaml.Character
import RuntimeFlag.Yaml.Fault
import RuntimeFlag.Yaml.Node
import RuntimeFlag.Yaml.Property
import RuntimeFlag.Yaml.Scalar
import RuntimeFlag.Yaml.Token
import RuntimeFlag.Yaml.Typed
import RuntimeFlag.Proofs.Dialogue
import RuntimeFlag.Proofs.Result
import RuntimeFlag.Proofs.Url.Site
import RuntimeFlag.Proofs.Request
import RuntimeFlag.Proofs.Walk
import RuntimeFlag.Proofs.Confinement
import RuntimeFlag.Proofs.Lookup
import RuntimeFlag.Proofs.Toggle
import RuntimeFlag.Proofs.Collection
import RuntimeFlag.Proofs.Rows
import RuntimeFlag.Proofs.FirstPage
import RuntimeFlag.Proofs.Text.Utf8
import RuntimeFlag.Proofs.Url.Form
import RuntimeFlag.Proofs.Json.Written
import RuntimeFlag.Proofs.Catalog.Page
import RuntimeFlag.Proofs.Url.Words
import RuntimeFlag.Proofs.Url.Front
import RuntimeFlag.Proofs.ControlPlane.Basic
import RuntimeFlag.Proofs.ControlPlane.Service
import RuntimeFlag.Proofs.ControlPlane.Toggle
import RuntimeFlag.Proofs.ControlPlane.Listing
import RuntimeFlag.Proofs.Cycle
import RuntimeFlag.Proofs.Guid
import RuntimeFlag.Proofs.Json.Reading
import RuntimeFlag.Proofs.Json.Whole
import RuntimeFlag.Proofs.Json.Accepted
import RuntimeFlag.Proofs.Json.Growth
import RuntimeFlag.Proofs.Catalog.Growth
import RuntimeFlag.Proofs.Catalog.Written
import RuntimeFlag.Proofs.Catalog.Extent
import RuntimeFlag.Proofs.Json.Fills
import RuntimeFlag.Proofs.Json.Flaws
import RuntimeFlag.Proofs.Catalog.Flaws
import RuntimeFlag.Proofs.Json.Pretty
import RuntimeFlag.Proofs.Session
import RuntimeFlag.Proofs.Program
import RuntimeFlag.Proofs.Listing.Document
import RuntimeFlag.Proofs.CommandLine.Written
import RuntimeFlag.Proofs.CommandLine.Level
import RuntimeFlag.Proofs.CommandLine.Line
import RuntimeFlag.Proofs.CommandLine.Acceptance
import RuntimeFlag.Proofs.CommandLine.Placement
import RuntimeFlag.Proofs.CommandLine.Environment
import RuntimeFlag.Proofs.Secrecy
import RuntimeFlag.Proofs.Log
import RuntimeFlag.Proofs.FirstUrl
import RuntimeFlag.Proofs.Cursor
import RuntimeFlag.Proofs.Endpoint
import RuntimeFlag.Proofs.Bound
import RuntimeFlag.Proofs.Directory
import RuntimeFlag.Proofs.Text.Blank
import RuntimeFlag.Proofs.Json.Integer
import RuntimeFlag.Proofs.Credential.Base64Url
import RuntimeFlag.Proofs.Credential.Token
import RuntimeFlag.Proofs.Credential.Claims
import RuntimeFlag.Proofs.Credential.Name
import RuntimeFlag.Proofs.Text.Lines
import RuntimeFlag.Proofs.Transport.Response
import RuntimeFlag.Proofs.CommandLine.Usage
import RuntimeFlag.Proofs.Text.Ranges
import RuntimeFlag.Proofs.Text.Width
import RuntimeFlag.Proofs.Listing.Table
