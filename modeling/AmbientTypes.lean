import AmbientTypes.Archive.Bits
import AmbientTypes.Archive.Checksum
import AmbientTypes.Archive.Code
import AmbientTypes.Archive.Container
import AmbientTypes.Archive.Field
import AmbientTypes.Archive.File
import AmbientTypes.Archive.Inflate
import AmbientTypes.Archive.Tar
import AmbientTypes.Archive.Unpack
import AmbientTypes.CommandLine.Command
import AmbientTypes.CommandLine.Output
import AmbientTypes.CommandLine.Run
import AmbientTypes.CommandLine.Shell
import AmbientTypes.CommandLine.Usage
import AmbientTypes.Decimal.Number
import AmbientTypes.Decimal.Reading
import AmbientTypes.Decimal.Shortest
import AmbientTypes.Declaration.Clause
import AmbientTypes.Declaration.Directive
import AmbientTypes.Declaration.Document
import AmbientTypes.Declaration.Template
import AmbientTypes.FileTree
import AmbientTypes.Json.Decode
import AmbientTypes.Json.Encode
import AmbientTypes.Json.Value
import AmbientTypes.Logging.Entry
import AmbientTypes.Logging.Journal
import AmbientTypes.Logging.Setup
import AmbientTypes.Main
import AmbientTypes.Network.Fetch
import AmbientTypes.Network.Status
import AmbientTypes.Package.Builtin
import AmbientTypes.Package.Core
import AmbientTypes.Package.Dependency
import AmbientTypes.Package.Metadata
import AmbientTypes.Package.Name
import AmbientTypes.Package.Specifier
import AmbientTypes.Path
import AmbientTypes.Registry.Entryless
import AmbientTypes.Registry.General
import AmbientTypes.Registry.Source
import AmbientTypes.Registry.Sources
import AmbientTypes.Resolution.Builtin
import AmbientTypes.Resolution.Cache
import AmbientTypes.Resolution.Fault
import AmbientTypes.Resolution.Interleaving
import AmbientTypes.Resolution.Load
import AmbientTypes.Resolution.Resolve
import AmbientTypes.Resolution.Wave
import AmbientTypes.Settings.Basic
import AmbientTypes.Settings.Environment
import AmbientTypes.Settings.Reading
import AmbientTypes.Settings.RegistryAddress
import AmbientTypes.Syntax.Escape
import AmbientTypes.Syntax.Expression
import AmbientTypes.Syntax.Goal
import AmbientTypes.Syntax.Import
import AmbientTypes.Syntax.Markup
import AmbientTypes.Syntax.Node
import AmbientTypes.Syntax.Parse
import AmbientTypes.Syntax.Statement
import AmbientTypes.Syntax.Token
import AmbientTypes.Syntax.Types
import AmbientTypes.Text.Affix
import AmbientTypes.Text.Blank
import AmbientTypes.Text.CodePoint
import AmbientTypes.Text.Digit
import AmbientTypes.Text.Encoding
import AmbientTypes.Text.Identifier
import AmbientTypes.Text.LineEnd
import AmbientTypes.Text.Lowercase
import AmbientTypes.Text.Printable
import AmbientTypes.Text.Quoted
import AmbientTypes.Text.Ranges
import AmbientTypes.Text.Utf8
import AmbientTypes.Text.Word
import AmbientTypes.Url.Basic
import AmbientTypes.Url.Host
import AmbientTypes.Url.Percent
import AmbientTypes.Url.Resolve
import AmbientTypes.Proofs.Except
import AmbientTypes.Proofs.Resolution.History
import AmbientTypes.Proofs.Resolution.Tracking
import AmbientTypes.Proofs.Resolution.Trace
import AmbientTypes.Proofs.Resolution.Accounting
import AmbientTypes.Proofs.Resolution.Outcome
import AmbientTypes.Proofs.Resolution.Dispatch
import AmbientTypes.Proofs.Resolution.Termination
import AmbientTypes.Proofs.Resolution.Isolated
import AmbientTypes.Proofs.Resolution.Answer
import AmbientTypes.Proofs.Resolution.Sequential
import AmbientTypes.Proofs.Package.Specifier
import AmbientTypes.Proofs.Registry.Faults
import AmbientTypes.Proofs.Resolution.Containment
import AmbientTypes.Proofs.Package.Regular
import AmbientTypes.Proofs.Package.Place
import AmbientTypes.Proofs.Declaration.Directive
import AmbientTypes.Proofs.Declaration.Clause
import AmbientTypes.Proofs.Declaration.Template
import AmbientTypes.Proofs.Declaration.Document
import AmbientTypes.Proofs.Declaration.Addressable
import AmbientTypes.Proofs.Resolution.Served
import AmbientTypes.Proofs.Declaration.Attribute
import AmbientTypes.Proofs.Declaration.Reference
import AmbientTypes.Proofs.Declaration.Places
import AmbientTypes.Proofs.Resolution.Places
import AmbientTypes.Proofs.Text.Affix
import AmbientTypes.Proofs.Text.Utf8
import AmbientTypes.Proofs.Archive.Checksum
import AmbientTypes.Proofs.Archive.Field
import AmbientTypes.Proofs.Archive.Header
import AmbientTypes.Proofs.Archive.Tar
import AmbientTypes.Proofs.Archive.Inflate
import AmbientTypes.Proofs.Archive.Container
import AmbientTypes.Proofs.Archive.Unpack
import AmbientTypes.Proofs.Archive.Truncation
import AmbientTypes.Proofs.Package.Grammar
import AmbientTypes.Proofs.Package.Foreign
import AmbientTypes.Proofs.Syntax.Literal
import AmbientTypes.Proofs.Syntax.Node
import AmbientTypes.Proofs.Syntax.Loading
import AmbientTypes.Proofs.Syntax.Escape
import AmbientTypes.Proofs.Syntax.Visit
import AmbientTypes.Proofs.Syntax.CodeUnit
import AmbientTypes.Proofs.Syntax.Element
import AmbientTypes.Proofs.Syntax.Value
import AmbientTypes.Proofs.Resolution.Aftermath
import AmbientTypes.Proofs.Resolution.Reset
import AmbientTypes.Resolution.Selection
import AmbientTypes.Proofs.Resolution.Selection
import AmbientTypes.Proofs.Url.Below
import AmbientTypes.Proofs.Registry.Request
import AmbientTypes.Proofs.Registry.Delivery
import AmbientTypes.Proofs.Path
import AmbientTypes.Proofs.Declaration.Renaming
import AmbientTypes.Proofs.Declaration.Literal
import AmbientTypes.Proofs.Declaration.Relocation
import AmbientTypes.Proofs.Resolution.Protocol
import AmbientTypes.Proofs.Resolution.Fallback
import AmbientTypes.Proofs.Registry.Address
import AmbientTypes.Proofs.Settings.RegistryAddress
import AmbientTypes.Proofs.Declaration.Sidecar
import AmbientTypes.Proofs.FileTree
import AmbientTypes.Proofs.CommandLine.Output
