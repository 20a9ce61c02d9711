import ProductionClosure.Closure.History
import ProductionClosure.Closure.Iteration
import ProductionClosure.Closure.Lookup
import ProductionClosure.Closure.PathSet
import ProductionClosure.Closure.Walk
import ProductionClosure.CommandLine.Arguments
import ProductionClosure.CommandLine.Commands
import ProductionClosure.CommandLine.Execution
import ProductionClosure.CommandLine.Options
import ProductionClosure.CommandLine.Terminal
import ProductionClosure.Config.Basic
import ProductionClosure.Config.Fault
import ProductionClosure.Config.Loading
import ProductionClosure.Dependency.Basic
import ProductionClosure.Dependency.Reading
import ProductionClosure.Event
import ProductionClosure.Failure
import ProductionClosure.FileSystem.Basic
import ProductionClosure.FileSystem.Lookup
import ProductionClosure.FileSystem.RealPath
import ProductionClosure.Hoisting
import ProductionClosure.Json.Basic
import ProductionClosure.Json.Decoder
import ProductionClosure.Json.Printer
import ProductionClosure.Log.Handler
import ProductionClosure.Log.Level
import ProductionClosure.Log.Record
import ProductionClosure.Log.Root
import ProductionClosure.Log.Setup
import ProductionClosure.Main
import ProductionClosure.Number.Binary64
import ProductionClosure.Overlay
import ProductionClosure.PackageManager.Action
import ProductionClosure.PackageManager.Listing
import ProductionClosure.PackageManager.Operation
import ProductionClosure.PackageManager.Query
import ProductionClosure.PackageManager.Receipt
import ProductionClosure.Path
import ProductionClosure.Process
import ProductionClosure.Resolution
import ProductionClosure.Run
import ProductionClosure.Schema.Basic
import ProductionClosure.Schema.IntegerText
import ProductionClosure.Schema.Scalar
import ProductionClosure.Snapshot
import ProductionClosure.StorePath
import ProductionClosure.Text.Blank
import ProductionClosure.Text.Casing
import ProductionClosure.Text.LowerCase
import ProductionClosure.Text.Newline
import ProductionClosure.Text.Numeral
import ProductionClosure.Text.Pieces
import ProductionClosure.Text.Printable
import ProductionClosure.Text.Quoted
import ProductionClosure.Text.Utf8
import ProductionClosure.Workspace
import ProductionClosure.World
import ProductionClosure.Yaml.Base64
import ProductionClosure.Yaml.Cursor
import ProductionClosure.Yaml.Document
import ProductionClosure.Yaml.Graph.Basic
import ProductionClosure.Yaml.Graph.Merge
import ProductionClosure.Yaml.Graph.OfTokens
import ProductionClosure.Yaml.Graph.Scalar
import ProductionClosure.Yaml.Lexer
import ProductionClosure.Yaml.Number.Form
import ProductionClosure.Yaml.Number.Reading
import ProductionClosure.Yaml.Problem
import ProductionClosure.Yaml.Scalar
import ProductionClosure.Yaml.Tag
import ProductionClosure.Yaml.Timestamp
import ProductionClosure.Yaml.Token
import ProductionClosure.Yaml.Value
import ProductionClosure.Proofs.Closure.Reachability
import ProductionClosure.Proofs.Closure.FirstMention
import ProductionClosure.Proofs.FileSystem.Lookup
import ProductionClosure.Proofs.Run
import ProductionClosure.Proofs.Path
import ProductionClosure.Proofs.Hoisting.StandIn
import ProductionClosure.Proofs.StorePath
import ProductionClosure.Proofs.Overlay
import ProductionClosure.Proofs.Resolution.Steps
import ProductionClosure.Proofs.Resolution.Paths
import ProductionClosure.Proofs.Resolution.BestEffort
import ProductionClosure.Proofs.Hoisting.Versions
import ProductionClosure.Proofs.Resolution.Versions
import ProductionClosure.Proofs.Closure.Listing
import ProductionClosure.Proofs.Schema.Field
import ProductionClosure.Proofs.Dependency.Decoding
import ProductionClosure.Proofs.Dependency.Reading
import ProductionClosure.Proofs.Json.Decoder
import ProductionClosure.Proofs.Resolution.Frame
import ProductionClosure.Proofs.Dependency.Fault
import ProductionClosure.Proofs.Process
import ProductionClosure.Proofs.Resolution.Unreadable
import ProductionClosure.Proofs.PackageManager.Operation
import ProductionClosure.Proofs.PackageManager.Receipt
import ProductionClosure.Proofs.CommandLine.Arguments
import ProductionClosure.Proofs.CommandLine.Execution
import ProductionClosure.Proofs.CommandLine.Listing
import ProductionClosure.Proofs.CommandLine.Settings
import ProductionClosure.Proofs.Dependency.Writing
import ProductionClosure.Proofs.Resolution.Queries
import ProductionClosure.Proofs.CommandLine.Queries
import ProductionClosure.Proofs.Json.Object
import ProductionClosure.Proofs.CommandLine.Overlay
import ProductionClosure.Proofs.CommandLine.RepoRoot
import ProductionClosure.Proofs.Resolution.Environment
import ProductionClosure.Proofs.CommandLine.Verbosity
import ProductionClosure.Proofs.Closure.Rounds
import ProductionClosure.Proofs.StorePath.Spelling
import ProductionClosure.Proofs.StorePath.Grammar
import ProductionClosure.Proofs.Hoisting.Link
import ProductionClosure.Proofs.Path.Collapse
import ProductionClosure.Proofs.Hoisting.Containment
import ProductionClosure.Proofs.FileSystem.RealPath
import ProductionClosure.Proofs.Overlay.Mirror
import ProductionClosure.Proofs.Overlay.Union
import ProductionClosure.Proofs.Closure.Support
import ProductionClosure.Proofs.PackageManager.Query
import ProductionClosure.Proofs.Hoisting.Degradation
import ProductionClosure.Proofs.Resolution.Coherence
import ProductionClosure.Proofs.CommandLine.ExitCode
import ProductionClosure.Proofs.Dependency.Inspection
import ProductionClosure.Proofs.Dependency.Essence
import ProductionClosure.Proofs.Dependency.Edits
import ProductionClosure.Proofs.FileSystem.LinkFree
import ProductionClosure.Proofs.FileSystem.Outline
import ProductionClosure.Proofs.Config.Discovery
import ProductionClosure.Proofs.Config.Wrapping
import ProductionClosure.Proofs.FileSystem.WorkingFolder
import ProductionClosure.Proofs.FileSystem.Writing
import ProductionClosure.Proofs.FileSystem.Growth
import ProductionClosure.Proofs.FileSystem.Sound
import ProductionClosure.Proofs.Config.Anchoring
import ProductionClosure.Proofs.CommandLine.Twin
import ProductionClosure.Proofs.CommandLine.Anchoring
import ProductionClosure.Proofs.Log.History
import ProductionClosure.Proofs.Closure.History
