import TickCircuit.Circuit.Basic
import TickCircuit.Circuit.Defect
import TickCircuit.Circuit.Editing
import TickCircuit.Circuit.Validation
import TickCircuit.Circuit.Wire
import TickCircuit.CommandLine.CircuitFile
import TickCircuit.CommandLine.Disk
import TickCircuit.CommandLine.FileSystem
import TickCircuit.CommandLine.Grammar
import TickCircuit.CommandLine.Path
import TickCircuit.CommandLine.Program
import TickCircuit.CommandLine.Request
import TickCircuit.CommandLine.Simulation
import TickCircuit.CommandLine.Summary
import TickCircuit.CommandLine.Wildcard
import TickCircuit.Component.Basic
import TickCircuit.Component.History
import TickCircuit.Component.Kind
import TickCircuit.Component.State
import TickCircuit.Document.Printer
import TickCircuit.Document.Reader
import TickCircuit.Engine.Broadcast
import TickCircuit.Engine.Delivery
import TickCircuit.Engine.Settings
import TickCircuit.Engine.SettingsFile
import TickCircuit.Engine.Tick
import TickCircuit.Fault
import TickCircuit.Log
import TickCircuit.Main
import TickCircuit.Number.Basic
import TickCircuit.Number.Binary
import TickCircuit.Number.Mean
import TickCircuit.Number.Notation
import TickCircuit.Number.Reading
import TickCircuit.Number.Shortest
import TickCircuit.Pattern.Reader
import TickCircuit.Pattern.Search
import TickCircuit.Pattern.Tree
import TickCircuit.Proofs.Circuit.Components
import TickCircuit.Proofs.Circuit.Documents
import TickCircuit.Proofs.Circuit.Edits
import TickCircuit.Proofs.Circuit.Endings
import TickCircuit.Proofs.Circuit.Ids
import TickCircuit.Proofs.Circuit.Integrity
import TickCircuit.Proofs.Circuit.Loading
import TickCircuit.Proofs.Circuit.RoundTrip
import TickCircuit.Proofs.Circuit.Wire
import TickCircuit.Proofs.Component.Documents
import TickCircuit.Proofs.Component.Fixture
import TickCircuit.Proofs.Engine.Combinational
import TickCircuit.Proofs.Engine.Convergence
import TickCircuit.Proofs.Engine.Delivery
import TickCircuit.Proofs.Engine.Isolation
import TickCircuit.Proofs.Engine.Meaning
import TickCircuit.Proofs.Engine.Tick
import TickCircuit.Proofs.Engine.Turn
import TickCircuit.Proofs.Number.Exact
import TickCircuit.Proofs.Outcome
import TickCircuit.Proofs.Session.Calls
import TickCircuit.Proofs.Session.FirstWire
import TickCircuit.Proofs.Session.Integrity
import TickCircuit.Proofs.Value.Key
import TickCircuit.Proofs.Value.Table
import TickCircuit.Random.Checksum
import TickCircuit.Random.Generator
import TickCircuit.Random.Seeding
import TickCircuit.Reaction.Arithmetic
import TickCircuit.Reaction.Basic
import TickCircuit.Reaction.Coloring
import TickCircuit.Reaction.Dispatch
import TickCircuit.Reaction.Drawing
import TickCircuit.Reaction.Gate
import TickCircuit.Reaction.Matching
import TickCircuit.Reaction.Oscillation
import TickCircuit.Reaction.Selecting
import TickCircuit.Reaction.Storing
import TickCircuit.Reaction.Switching
import TickCircuit.Reaction.Trigonometry
import TickCircuit.Reaction.Unary
import TickCircuit.Session.Basic
import TickCircuit.Signal.Comparison
import TickCircuit.Signal.Reading
import TickCircuit.Text.Blank
import TickCircuit.Text.DecimalDigit
import TickCircuit.Text.HexDigit
import TickCircuit.Text.Identifier
import TickCircuit.Text.LetterCase
import TickCircuit.Text.Printable
import TickCircuit.Text.Ranges
import TickCircuit.Text.Word
import TickCircuit.Value.Basic
import TickCircuit.Value.Coercion
import TickCircuit.Value.Equality
import TickCircuit.Value.Rendering
import TickCircuit.Value.Table
import TickCircuit.Proofs.Engine.Broadcast
import TickCircuit.Proofs.Engine.Order
import TickCircuit.Proofs.Engine.Publishing
import TickCircuit.Proofs.Engine.Deeds
import TickCircuit.Proofs.Session.Endurance
import TickCircuit.Proofs.Engine.Freshness
import TickCircuit.Proofs.Circuit.Acceptance
import TickCircuit.Proofs.Circuit.Refusal
import TickCircuit.Proofs.CommandLine.Batch
import TickCircuit.Proofs.Engine.Reset
import TickCircuit.Proofs.Pattern.Faults
import TickCircuit.Proofs.Reaction.Reached
import TickCircuit.Proofs.Reaction.Returns
import TickCircuit.Proofs.Reaction.Fallbacks
import TickCircuit.Proofs.Session.States
import TickCircuit.Proofs.Session.Saving
import TickCircuit.Proofs.Session.Growth
import TickCircuit.Proofs.Session.Failures
import TickCircuit.Proofs.Engine.Transmission
import TickCircuit.Proofs.Engine.Attachment
import TickCircuit.Proofs.Circuit.Searches
import TickCircuit.Proofs.Session.Issued
import TickCircuit.Proofs.Circuit.Mirror
import TickCircuit.Proofs.Session.Following
import TickCircuit.Proofs.Engine.Snapshot
import TickCircuit.Proofs.Number.Rounding
import TickCircuit.Proofs.Session.Starting
import TickCircuit.Proofs.Session.Timer
import TickCircuit.Proofs.Engine.Settings
import TickCircuit.Proofs.Session.Pace
import TickCircuit.Proofs.Document.Scalars
import TickCircuit.Proofs.Document.ReadBack
import TickCircuit.Proofs.Engine.SettingsFile
import TickCircuit.Proofs.Reaction.Courses
import TickCircuit.Proofs.Reaction.Relays
import TickCircuit.Proofs.Reaction.Selectors
import TickCircuit.Proofs.Reaction.Skipping
import TickCircuit.Proofs.CommandLine.Tracing
import TickCircuit.Proofs.CommandLine.Writing
import TickCircuit.Proofs.CommandLine.Agreement
import TickCircuit.Proofs.Number.Nearest
import TickCircuit.Proofs.Number.Operations
import TickCircuit.Proofs.Number.Order
import TickCircuit.Proofs.Number.Sums
import TickCircuit.Proofs.Component.Windows
import TickCircuit.Proofs.Reaction.Recording
import TickCircuit.Proofs.Engine.Windows
import TickCircuit.Proofs.Reaction.Delays
import TickCircuit.Proofs.Reaction.Averages
import TickCircuit.Proofs.Reaction.Votes
import TickCircuit.Proofs.Reaction.Repeating
import TickCircuit.Proofs.Number.WholeParts
import TickCircuit.Proofs.Number.Halves
import TickCircuit.Proofs.Reaction.Rounding
import TickCircuit.Proofs.Reaction.WholeResults
import TickCircuit.Proofs.Pattern.Widths
import TickCircuit.Proofs.Pattern.Spelling
import TickCircuit.Proofs.Pattern.Following
import TickCircuit.Proofs.Pattern.Lexemes
import TickCircuit.Proofs.Pattern.NamedGroups
import TickCircuit.Proofs.Reaction.Resets
import TickCircuit.Proofs.Random.Generator
import TickCircuit.Proofs.Reaction.Draws
import TickCircuit.Proofs.Number.Decimals
import TickCircuit.Proofs.Reaction.Cycles
import TickCircuit.Proofs.Session.Resettling
import TickCircuit.Proofs.Signal.Comparison
import TickCircuit.Proofs.Session.Disconnecting
import TickCircuit.Proofs.Component.Limits
