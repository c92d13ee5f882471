import Registrar.Binary64
import Registrar.Binary64.Read
import Registrar.Binary64.Shortest
import Registrar.Build
import Registrar.Build.Trace
import Registrar.BuildError
import Registrar.CommandLine
import Registrar.Draft
import Registrar.Emission
import Registrar.Event
import Registrar.Feed.Decode
import Registrar.Feed.Encode
import Registrar.Feed.Mismatch
import Registrar.Feed.Schema
import Registrar.Feed.Stream
import Registrar.Feed.Tag
import Registrar.Feed.Variant
import Registrar.FileTree
import Registrar.GoCode
import Registrar.Host
import Registrar.Json.Numeral
import Registrar.Json.Reader
import Registrar.Json.Spelling
import Registrar.Json.Value
import Registrar.Json.Writer
import Registrar.Log.Directive
import Registrar.Log.Filter
import Registrar.Log.Level
import Registrar.Log.Line
import Registrar.Log.Pattern
import Registrar.Log.Pattern.Brackets
import Registrar.Log.Pattern.Escape
import Registrar.Log.Pattern.Modes
import Registrar.Log.Plan
import Registrar.Log.Record
import Registrar.Main
import Registrar.Metadata
import Registrar.OsError
import Registrar.Path
import Registrar.PathMap
import Registrar.Program
import Registrar.Proofs.Build.Call
import Registrar.Proofs.Build.Coherence
import Registrar.Proofs.Build.Failures
import Registrar.Proofs.Build.Faults
import Registrar.Proofs.Build.Generation
import Registrar.Proofs.Build.Grouping
import Registrar.Proofs.Build.ModulePlace
import Registrar.Proofs.Build.Rendering
import Registrar.Proofs.Build.Retyping
import Registrar.Proofs.Build.Session
import Registrar.Proofs.Code.File
import Registrar.Proofs.Code.Literal
import Registrar.Proofs.Code.Readers
import Registrar.Proofs.Code.SourceText
import Registrar.Proofs.Code.Statement
import Registrar.Proofs.Emission.Actions
import Registrar.Proofs.Emission.Confinement
import Registrar.Proofs.Emission.Coverage
import Registrar.Proofs.Emission.Events
import Registrar.Proofs.Emission.Modes
import Registrar.Proofs.Emission.Placement
import Registrar.Proofs.Feed.Bounds
import Registrar.Proofs.Feed.Cut
import Registrar.Proofs.Feed.EarlyTags
import Registrar.Proofs.Feed.Embedding
import Registrar.Proofs.Feed.Events
import Registrar.Proofs.Feed.Grammar
import Registrar.Proofs.Feed.Records
import Registrar.Proofs.Feed.Refusals
import Registrar.Proofs.Feed.Rejection
import Registrar.Proofs.Feed.RoundTrip
import Registrar.Proofs.Feed.Stream
import Registrar.Proofs.Feed.Tags
import Registrar.Proofs.Feed.ValueTypes
import Registrar.Proofs.Feed.Watch
import Registrar.Proofs.Files.Confined
import Registrar.Proofs.Files.Growth
import Registrar.Proofs.Files.Place
import Registrar.Proofs.Files.Rooted
import Registrar.Proofs.Json.Cut
import Registrar.Proofs.Json.Gaps
import Registrar.Proofs.Json.Integers
import Registrar.Proofs.Json.Numeral
import Registrar.Proofs.Json.Outermost
import Registrar.Proofs.Json.Reader
import Registrar.Proofs.Json.RoundTrip
import Registrar.Proofs.Json.Spelling
import Registrar.Proofs.Paths.Canonical
import Registrar.Proofs.Paths.Clean
import Registrar.Proofs.Paths.Destination
import Registrar.Proofs.Paths.Map
import Registrar.Proofs.Paths.Resolve
import Registrar.Proofs.Result
import Registrar.Proofs.Settings.Fields
import Registrar.Proofs.Settings.Flags
import Registrar.Proofs.Settings.Given
import Registrar.Proofs.Settings.Layers
import Registrar.Proofs.Settings.Loading
import Registrar.Proofs.Settings.Order
import Registrar.Proofs.Settings.Setting
import Registrar.Proofs.Settings.Sources
import Registrar.Proofs.Settings.Vocabulary
import Registrar.Report
import Registrar.Run
import Registrar.Settings.Basic
import Registrar.Settings.Describe
import Registrar.Settings.Extract
import Registrar.Settings.Loader
import Registrar.Settings.Profile
import Registrar.Settings.Tree
import Registrar.Settings.Validate
import Registrar.Settings.Variables
import Registrar.Settings.Wrapped
import Registrar.Text.Alphanumeric
import Registrar.Text.Blank
import Registrar.Text.Cut
import Registrar.Text.Described
import Registrar.Text.Encoding
import Registrar.Text.Escape
import Registrar.Text.Integer
import Registrar.Text.Literal
import Registrar.Text.Lowercase
import Registrar.Text.Printable
import Registrar.Text.Quoted
import Registrar.Text.Split
import Registrar.Toml.Document
import Registrar.Toml.Scalar
import Registrar.Toml.Table
import Registrar.Toml.Text
