import Rehearsal.Action
import Rehearsal.Action.Classify
import Rehearsal.Action.Document
import Rehearsal.Backup
import Rehearsal.Bridge
import Rehearsal.Bridge.Call
import Rehearsal.Bridge.Statistics
import Rehearsal.Command
import Rehearsal.Command.Builtin
import Rehearsal.Command.Grammar
import Rehearsal.Command.Usage
import Rehearsal.CommandLine
import Rehearsal.Decimal.Binary
import Rehearsal.Decimal.Layout
import Rehearsal.Decimal.Reading
import Rehearsal.Decimal.Shortest
import Rehearsal.Disk
import Rehearsal.Disk.Path
import Rehearsal.Instant
import Rehearsal.Json.Basic
import Rehearsal.Json.Reader
import Rehearsal.Json.Written
import Rehearsal.Language
import Rehearsal.Library
import Rehearsal.Main
import Rehearsal.Proofs.Action.Division
import Rehearsal.Proofs.Action.Groups
import Rehearsal.Proofs.Action.Layout
import Rehearsal.Proofs.Action.Lines
import Rehearsal.Proofs.Action.Members
import Rehearsal.Proofs.Action.Parts
import Rehearsal.Proofs.Action.Precedence
import Rehearsal.Proofs.Action.Search
import Rehearsal.Proofs.Action.Shapes
import Rehearsal.Proofs.Action.SourceForm
import Rehearsal.Proofs.Agreement
import Rehearsal.Proofs.Backup.Accesses
import Rehearsal.Proofs.Backup.Agreement
import Rehearsal.Proofs.Backup.Atomic
import Rehearsal.Proofs.Backup.Bounds
import Rehearsal.Proofs.Backup.Confined
import Rehearsal.Proofs.Backup.Consistent
import Rehearsal.Proofs.Backup.Existing
import Rehearsal.Proofs.Backup.Listing
import Rehearsal.Proofs.Backup.Mirrored
import Rehearsal.Proofs.Backup.Names
import Rehearsal.Proofs.Backup.Newest
import Rehearsal.Proofs.Backup.Outcome
import Rehearsal.Proofs.Backup.Outward
import Rehearsal.Proofs.Backup.Run
import Rehearsal.Proofs.Backup.Snapshot
import Rehearsal.Proofs.Backup.Upheld
import Rehearsal.Proofs.Backup.WriteThrough
import Rehearsal.Proofs.Bridge.Commute
import Rehearsal.Proofs.Bridge.History
import Rehearsal.Proofs.Bridge.Operators
import Rehearsal.Proofs.Bridge.Persistence
import Rehearsal.Proofs.Bridge.Recency
import Rehearsal.Proofs.Bridge.Run
import Rehearsal.Proofs.Bridge.Statistics
import Rehearsal.Proofs.Bridge.Tolerance
import Rehearsal.Proofs.Bridge.Walk
import Rehearsal.Proofs.CommandLine.Arguments
import Rehearsal.Proofs.CommandLine.Interaction
import Rehearsal.Proofs.Disk.Beside
import Rehearsal.Proofs.Disk.Children
import Rehearsal.Proofs.Disk.Differing
import Rehearsal.Proofs.Disk.Document
import Rehearsal.Proofs.Disk.Folders
import Rehearsal.Proofs.Disk.Footprint
import Rehearsal.Proofs.Disk.Frame
import Rehearsal.Proofs.Disk.Place
import Rehearsal.Proofs.Disk.Tree
import Rehearsal.Proofs.Disk.Walk
import Rehearsal.Proofs.Json.Leaves
import Rehearsal.Proofs.Json.RoundTrip
import Rehearsal.Proofs.Json.Spelling
import Rehearsal.Proofs.Registry.RoundTrip
import Rehearsal.Proofs.Registry.Tolerance
import Rehearsal.Proofs.Run
import Rehearsal.Proofs.Shell.Confirmation
import Rehearsal.Proofs.Shell.Deeds
import Rehearsal.Proofs.Shell.Failures
import Rehearsal.Proofs.Shell.Loading
import Rehearsal.Proofs.Shell.Mirrored
import Rehearsal.Proofs.Shell.Parts
import Rehearsal.Proofs.Shell.Reading
import Rehearsal.Proofs.Shell.Removal
import Rehearsal.Proofs.Shell.Simulation
import Rehearsal.Proofs.Shell.Tasks
import Rehearsal.Proofs.Snippet.Agreement
import Rehearsal.Proofs.Snippet.Effects
import Rehearsal.Proofs.Snippet.Naming
import Rehearsal.Proofs.Snippet.Resolution
import Rehearsal.Proofs.Snippet.Undotted
import Rehearsal.Proofs.Storage
import Rehearsal.Proofs.Storage.Bounds
import Rehearsal.Proofs.Storage.Mirror
import Rehearsal.Proofs.Storage.Refused
import Rehearsal.Proofs.Text.Classes
import Rehearsal.Proofs.Text.Octets
import Rehearsal.Proofs.Text.Pieces
import Rehearsal.Proofs.Text.Trimming
import Rehearsal.Registry
import Rehearsal.Registry.Document
import Rehearsal.Routine
import Rehearsal.Session
import Rehearsal.Shell
import Rehearsal.Snippet
import Rehearsal.SortedMap
import Rehearsal.Storage
import Rehearsal.Text.Blank
import Rehearsal.Text.Cluster
import Rehearsal.Text.Cluster.Table
import Rehearsal.Text.Pieces
import Rehearsal.Text.Ranges
import Rehearsal.Text.Typed
import Rehearsal.Text.Utf8
import Rehearsal.Text.Word
import Rehearsal.Text.Word.Table
