import LintPreview.Baseline
import LintPreview.Catalog.Basic
import LintPreview.Catalog.Load
import LintPreview.Catalog.Snapshot
import LintPreview.Catalog.Store
import LintPreview.Deflate.Inflate
import LintPreview.Deflate.Stream
import LintPreview.Disk
import LintPreview.Document
import LintPreview.Failure
import LintPreview.Files
import LintPreview.Http.Form
import LintPreview.Http.Message
import LintPreview.Http.Site
import LintPreview.Json.Bytes
import LintPreview.Json.Reader
import LintPreview.Json.Value
import LintPreview.Json.Writer
import LintPreview.Moment
import LintPreview.Number.Binary64
import LintPreview.Number.Literal
import LintPreview.Number.Shortest
import LintPreview.Overlay
import LintPreview.Path
import LintPreview.Program
import LintPreview.Proofs.Catalog.Atomic
import LintPreview.Proofs.Catalog.Content
import LintPreview.Proofs.Catalog.Deeds
import LintPreview.Proofs.Catalog.Details
import LintPreview.Proofs.Catalog.Fetch
import LintPreview.Proofs.Catalog.History
import LintPreview.Proofs.Catalog.LateSave
import LintPreview.Proofs.Catalog.Load
import LintPreview.Proofs.Catalog.Overtaking
import LintPreview.Proofs.Catalog.Recall
import LintPreview.Proofs.Catalog.Recent
import LintPreview.Proofs.Catalog.Save
import LintPreview.Proofs.Catalog.Saving
import LintPreview.Proofs.Catalog.Stage
import LintPreview.Proofs.Catalog.Store
import LintPreview.Proofs.Catalog.Supplied
import LintPreview.Proofs.Catalog.Turn
import LintPreview.Proofs.Catalog.Turns
import LintPreview.Proofs.Catalog.Unreadable
import LintPreview.Proofs.Catalog.Views
import LintPreview.Proofs.Files.Inside
import LintPreview.Proofs.Files.Names
import LintPreview.Proofs.Files.Places
import LintPreview.Proofs.Files.Temporary
import LintPreview.Proofs.Files.Tree
import LintPreview.Proofs.Files.Unusable
import LintPreview.Proofs.Files.Workspace
import LintPreview.Proofs.Http.Handling
import LintPreview.Proofs.Http.Lookup
import LintPreview.Proofs.Http.Request
import LintPreview.Proofs.Http.Unexpected
import LintPreview.Proofs.Json.Number
import LintPreview.Proofs.Json.Pretty
import LintPreview.Proofs.Json.Printable
import LintPreview.Proofs.Json.Sound
import LintPreview.Proofs.Json.Unread
import LintPreview.Proofs.Json.Written
import LintPreview.Proofs.Number.Rounding
import LintPreview.Proofs.Number.Shortest
import LintPreview.Proofs.Number.Undefined
import LintPreview.Proofs.Outcome
import LintPreview.Proofs.Overlay.Baseline
import LintPreview.Proofs.Overlay.Copies
import LintPreview.Proofs.Overlay.Edits
import LintPreview.Proofs.Overlay.Enabling
import LintPreview.Proofs.Overlay.Exclusions
import LintPreview.Proofs.Overlay.Frame
import LintPreview.Proofs.Overlay.Keys
import LintPreview.Proofs.Overlay.Order
import LintPreview.Proofs.Overlay.Others
import LintPreview.Proofs.Overlay.Twice
import LintPreview.Proofs.Remote.Blanks
import LintPreview.Proofs.Remote.Download
import LintPreview.Proofs.Remote.Escapes
import LintPreview.Proofs.Remote.Exchange
import LintPreview.Proofs.Remote.Heard
import LintPreview.Proofs.Remote.Parts
import LintPreview.Proofs.Remote.Raw
import LintPreview.Proofs.Remote.Redirect
import LintPreview.Proofs.Remote.Scheme
import LintPreview.Proofs.Remote.Transfer
import LintPreview.Proofs.Remote.Unexpected
import LintPreview.Proofs.Rule.Described
import LintPreview.Proofs.Rule.Descriptor
import LintPreview.Proofs.Rule.Elements
import LintPreview.Proofs.Rule.Fields
import LintPreview.Proofs.Rule.Firsts
import LintPreview.Proofs.Rule.Listing
import LintPreview.Proofs.Rule.Printed
import LintPreview.Proofs.Rule.Record
import LintPreview.Proofs.Rule.Sections
import LintPreview.Proofs.Rule.Skipping
import LintPreview.Proofs.Rule.Table
import LintPreview.Proofs.Run.Basic
import LintPreview.Proofs.Run.Logged
import LintPreview.Proofs.Run.Moments
import LintPreview.Proofs.Run.Parts
import LintPreview.Proofs.Run.Partway
import LintPreview.Proofs.Run.Rehearsed
import LintPreview.Proofs.Run.Surroundings
import LintPreview.Proofs.Schema.Checked
import LintPreview.Proofs.Schema.Time
import LintPreview.Proofs.Settings
import LintPreview.Proofs.Simulation.Alone
import LintPreview.Proofs.Simulation.Apart
import LintPreview.Proofs.Simulation.Batch
import LintPreview.Proofs.Simulation.Calls
import LintPreview.Proofs.Simulation.Cleanup
import LintPreview.Proofs.Simulation.Course
import LintPreview.Proofs.Simulation.Fetched
import LintPreview.Proofs.Simulation.Findings
import LintPreview.Proofs.Simulation.Frames
import LintPreview.Proofs.Simulation.Reach
import LintPreview.Proofs.Simulation.Records
import LintPreview.Proofs.Simulation.Report
import LintPreview.Proofs.Simulation.SideBySide
import LintPreview.Proofs.Simulation.Stage
import LintPreview.Proofs.Simulation.Traceless
import LintPreview.Proofs.Simulation.Watched
import LintPreview.Proofs.Text.Blocks
import LintPreview.Proofs.Text.Decode
import LintPreview.Proofs.Text.Pieces
import LintPreview.Proofs.Text.Search
import LintPreview.Proofs.Text.Utf8
import LintPreview.Proofs.Tool.Calls
import LintPreview.Proofs.Tool.Memory
import LintPreview.Proofs.Yaml.Built
import LintPreview.Proofs.Yaml.Cursor
import LintPreview.Proofs.Yaml.Filled
import LintPreview.Proofs.Yaml.Folded
import LintPreview.Proofs.Yaml.Laid
import LintPreview.Proofs.Yaml.Load
import LintPreview.Proofs.Yaml.Meaningless
import LintPreview.Proofs.Yaml.Merging
import LintPreview.Proofs.Yaml.Reads
import LintPreview.Proofs.Yaml.Refused
import LintPreview.Proofs.Yaml.RoundTrip
import LintPreview.Proofs.Yaml.Scalar
import LintPreview.Proofs.Yaml.Scanned
import LintPreview.Proofs.Yaml.Simple
import LintPreview.Proofs.Yaml.Steps
import LintPreview.Proofs.Yaml.Tokens
import LintPreview.Proofs.Yaml.Unreadable
import LintPreview.Proofs.Yaml.Whole
import LintPreview.Rehearsal
import LintPreview.Remote.Address
import LintPreview.Remote.ContentCoding
import LintPreview.Remote.Fetch
import LintPreview.Remote.HostName
import LintPreview.Remote.Ip
import LintPreview.Remote.Label
import LintPreview.Remote.LabelTable
import LintPreview.Remote.Url
import LintPreview.Rule.Basic
import LintPreview.Rule.Descriptor
import LintPreview.Rule.Details
import LintPreview.Rule.Listing
import LintPreview.Rule.Record
import LintPreview.Schema.Checked
import LintPreview.Schema.Time
import LintPreview.Service.Act
import LintPreview.Service.Log
import LintPreview.Service.Notice
import LintPreview.Settings
import LintPreview.Simulation.Result
import LintPreview.Simulation.Simulate
import LintPreview.Text.Base64
import LintPreview.Text.Basic
import LintPreview.Text.Case
import LintPreview.Text.CaseTable
import LintPreview.Text.Composition
import LintPreview.Text.CompositionTable
import LintPreview.Text.Digit
import LintPreview.Text.Lines
import LintPreview.Text.Quoted
import LintPreview.Text.Utf8
import LintPreview.Tool.Call
import LintPreview.Tool.Finder
import LintPreview.Tool.Process
import LintPreview.Violation
import LintPreview.Yaml.Cursor
import LintPreview.Yaml.Dump
import LintPreview.Yaml.Load
import LintPreview.Yaml.Merge
import LintPreview.Yaml.Node
import LintPreview.Yaml.Pen
import LintPreview.Yaml.Tag
import LintPreview.Yaml.Token
import LintPreview.Yaml.Token.Block
import LintPreview.Yaml.Token.Mark
import LintPreview.Yaml.Token.Scalar
import LintPreview.Yaml.Token.Stream
import LintPreview.Yaml.Value
