import FileDepot.Backend
import FileDepot.Binary64.Basic
import FileDepot.Binary64.Shortest
import FileDepot.Binary64.Text
import FileDepot.Calendar.Civil
import FileDepot.Calendar.Instant
import FileDepot.Calendar.Reading
import FileDepot.CommandLine.Command
import FileDepot.CommandLine.Help
import FileDepot.CommandLine.Reading
import FileDepot.CommandLine.Slot
import FileDepot.Config.Environment
import FileDepot.Config.Key
import FileDepot.Config.Layer
import FileDepot.Config.Setting
import FileDepot.Config.Source
import FileDepot.Config.Toml.Document
import FileDepot.Config.Toml.Scalar
import FileDepot.Config.Toml.Text
import FileDepot.Config.Toml.Tree
import FileDepot.Database.Access
import FileDepot.Database.Basic
import FileDepot.Database.Fault
import FileDepot.Database.Image
import FileDepot.Database.Keyword
import FileDepot.Database.Schema
import FileDepot.Depot.Address
import FileDepot.Depot.Basic
import FileDepot.Depot.Connect
import FileDepot.Depot.Describe
import FileDepot.Depot.Download
import FileDepot.Depot.Expire
import FileDepot.Depot.Inspect
import FileDepot.Depot.Payload
import FileDepot.Depot.Provision
import FileDepot.Depot.Settings
import FileDepot.Depot.Site
import FileDepot.Depot.Store
import FileDepot.Depot.Transfer
import FileDepot.Descriptor
import FileDepot.Event
import FileDepot.Failure
import FileDepot.FileTree.Access
import FileDepot.FileTree.Basic
import FileDepot.FileTree.Path
import FileDepot.FileTree.Walk
import FileDepot.Json.Printer
import FileDepot.Json.Reader
import FileDepot.Json.Scalar
import FileDepot.Json.Value
import FileDepot.Location
import FileDepot.LogFilter
import FileDepot.Program
import FileDepot.Provenance
import FileDepot.Run
import FileDepot.Table.Name
import FileDepot.Table.Record
import FileDepot.Table.Statement
import FileDepot.Text.Blank
import FileDepot.Text.Casing
import FileDepot.Text.Escaped
import FileDepot.Text.Lower
import FileDepot.Text.Number
import FileDepot.Text.Quoted
import FileDepot.Text.Utf8
import FileDepot.Main
import FileDepot.Proofs.Statement
import FileDepot.Proofs.FileTree
import FileDepot.Proofs.Chain
import FileDepot.Proofs.Json.Grammar
import FileDepot.Proofs.Json.Tokens
import FileDepot.Proofs.Json.Numbers
import FileDepot.Proofs.Json.Values
import FileDepot.Proofs.Json.Objects
import FileDepot.Proofs.Json.Printing
import FileDepot.Proofs.Json.Unambiguous
import FileDepot.Proofs.Provenance.Reading
import FileDepot.Proofs.Provenance.RoundTrip
import FileDepot.Proofs.Provenance.Survival
import FileDepot.Proofs.Connecting
import FileDepot.Proofs.Utf8
import FileDepot.Proofs.Address
import FileDepot.Proofs.Transfer
import FileDepot.Proofs.Store
import FileDepot.Proofs.Session.Basic
import FileDepot.Proofs.Session.Edits
import FileDepot.Proofs.Session.Effect
import FileDepot.Proofs.Serving
import FileDepot.Proofs.Session.Written
import FileDepot.Proofs.Session.Rows
import FileDepot.Proofs.Session.Mirror
import FileDepot.Proofs.Age
import FileDepot.Proofs.Session.Latest
import FileDepot.Proofs.Naming
import FileDepot.Proofs.Script
import FileDepot.Proofs.Session.Objects
import FileDepot.Proofs.Provisioning
import FileDepot.Proofs.Race
import FileDepot.Proofs.Directories
import FileDepot.Proofs.Lookup
import FileDepot.Proofs.Expiry
import FileDepot.Proofs.Numbering
import FileDepot.Proofs.Overwrite
import FileDepot.Proofs.Choice
import FileDepot.Proofs.Layer
import FileDepot.Proofs.Blank
import FileDepot.Proofs.Settings
import FileDepot.Proofs.Reopening
import FileDepot.Proofs.Handle
import FileDepot.Proofs.Commands
import FileDepot.Proofs.Activation
import FileDepot.Proofs.Toml.Distinct
import FileDepot.Proofs.Placing
import FileDepot.Proofs.Variables
import FileDepot.Proofs.Resolving
import FileDepot.Proofs.Toml.Written
import FileDepot.Proofs.Overriding
import FileDepot.Proofs.Secrecy
import FileDepot.Proofs.Passing
import FileDepot.Proofs.Telling
import FileDepot.Proofs.Series
import FileDepot.Proofs.Session.Apart
import FileDepot.Proofs.Resemblance
import FileDepot.Proofs.Session.Respelling
import FileDepot.Proofs.Calendar.Civil
import FileDepot.Proofs.Calendar.Reading
import FileDepot.Proofs.Json.Indenting
import FileDepot.Proofs.Json.Tidy
import FileDepot.Proofs.Provenance.Tidy
import FileDepot.Proofs.Descriptor.Reading
import FileDepot.Proofs.Descriptor.RoundTrip
import FileDepot.Proofs.Slices
import FileDepot.Proofs.Sweep
import FileDepot.Proofs.Payload
import FileDepot.Proofs.CommandLine
import FileDepot.Proofs.Wording
import FileDepot.Proofs.Sights
import FileDepot.Proofs.Unseen
import FileDepot.Proofs.Elsewhere
import FileDepot.Proofs.Logging
