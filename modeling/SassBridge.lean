import SassBridge.Assoc
import SassBridge.Compiler.Compilation
import SassBridge.Compiler.Registry
import SassBridge.Compiler.Request
import SassBridge.Datum.Basic
import SassBridge.Datum.Display
import SassBridge.Datum.Document
import SassBridge.Datum.Equality
import SassBridge.Engine.Basic
import SassBridge.Engine.Reference
import SassBridge.Engine.Render
import SassBridge.Engine.SourceMap
import SassBridge.Engine.Style
import SassBridge.Event
import SassBridge.Failure
import SassBridge.Failure.Arguments
import SassBridge.Function.Call
import SassBridge.Function.Inherited
import SassBridge.Function.Parameter
import SassBridge.Function.Set
import SassBridge.Function.Signature
import SassBridge.Function.Table
import SassBridge.Import.Bridge
import SassBridge.Import.Cache
import SassBridge.Import.CanonicalUrl
import SassBridge.Import.Language
import SassBridge.Import.LegacyImporter
import SassBridge.Journal
import SassBridge.Json.Basic
import SassBridge.Json.Parser
import SassBridge.Json.Printer
import SassBridge.Log.Line
import SassBridge.Log.Record
import SassBridge.Log.Setup
import SassBridge.Number.Binary64
import SassBridge.Number.Decimal
import SassBridge.Number.Numeral
import SassBridge.Options.EngineOptions
import SassBridge.Options.Field
import SassBridge.Options.Settings
import SassBridge.Options.Validation
import SassBridge.Path.Basic
import SassBridge.Path.Windows
import SassBridge.Receiver
import SassBridge.Scripted.Compiler
import SassBridge.Scripted.Functions
import SassBridge.Scripted.Importer
import SassBridge.Session
import SassBridge.Step
import SassBridge.Surroundings
import SassBridge.Text.Base64
import SassBridge.Text.Hex
import SassBridge.Text.LetterCase
import SassBridge.Text.Lines
import SassBridge.Text.Percent
import SassBridge.Text.Printable
import SassBridge.Text.Quoted
import SassBridge.Text.Split
import SassBridge.Text.Utf8
import SassBridge.Text.Wide
import SassBridge.Url.File
import SassBridge.Url.Host
import SassBridge.Url.Optional
import SassBridge.Url.Split
import SassBridge.Value.Basic
import SassBridge.Value.Conversion
import SassBridge.Value.Digest
import SassBridge.Value.Display
import SassBridge.Value.Entries
import SassBridge.Value.Equality
import SassBridge.Proofs.Text.Percent
import SassBridge.Proofs.Text.Split
import SassBridge.Proofs.Text.Occurrence
import SassBridge.Proofs.Text.Base64
import SassBridge.Proofs.Text.Wide
import SassBridge.Proofs.Path.Normal
import SassBridge.Proofs.Url.RoundTrip
import SassBridge.Proofs.Assoc
import SassBridge.Proofs.Import.Cache
import SassBridge.Proofs.Import.Bridge
import SassBridge.Proofs.Import.Request
import SassBridge.Proofs.Import.Uses
import SassBridge.Proofs.Import.FailedRequest
import SassBridge.Proofs.Import.Closure
import SassBridge.Proofs.Import.History
import SassBridge.Proofs.Function.Callback
import SassBridge.Proofs.Step
import SassBridge.Proofs.Journal
import SassBridge.Proofs.Session
import SassBridge.Proofs.Compiler.Registry
import SassBridge.Proofs.Surroundings
import SassBridge.Proofs.Engine.Render
import SassBridge.Proofs.Engine.LastResult
import SassBridge.Proofs.Datum.Equality
import SassBridge.Proofs.Value.Nodes
import SassBridge.Proofs.Value.Equality
import SassBridge.Proofs.Value.Entries
import SassBridge.Proofs.Value.Conversion
import SassBridge.Proofs.Value.Forms
import SassBridge.Proofs.Value.RoundTrip
import SassBridge.Proofs.Number.Rounding
import SassBridge.Proofs.Number.Decimal
import SassBridge.Proofs.Number.Exact
import SassBridge.Proofs.Json.Text
import SassBridge.Proofs.Json.RoundTrip
import SassBridge.Proofs.Path.Relative
import SassBridge.Proofs.Path.Spelling
import SassBridge.Proofs.Engine.SourceMap
import SassBridge.Proofs.Function.Announced
import SassBridge.Proofs.Function.SignatureText
import SassBridge.Proofs.Function.Arity
import SassBridge.Proofs.Function.Listing
import SassBridge.Proofs.Value.Refusal
import SassBridge.Proofs.Value.Convertible
import SassBridge.Proofs.Value.Images
import SassBridge.Proofs.Value.Lawful
import SassBridge.Proofs.Engine.Reference
import SassBridge.Proofs.Engine.Requests
import SassBridge.Proofs.Engine.CompileError
import SassBridge.Proofs.Engine.Snapshot
import SassBridge.Proofs.Engine.Location
import SassBridge.Proofs.Engine.Dependencies
import SassBridge.Proofs.Engine.Congruence
import SassBridge.Proofs.Engine.Repeat
import SassBridge.Proofs.Process.Acts
import SassBridge.Proofs.Process.LoadPaths
import SassBridge.Proofs.Process.Registry
import SassBridge.Proofs.Import.Language
import SassBridge.Proofs.Url.Windows
import SassBridge.Proofs.Value.Merging
import SassBridge.Proofs.Engine.Choices
