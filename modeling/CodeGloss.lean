import CodeGloss.Main
import CodeGloss.Service.Rehearsal
import CodeGloss.Proofs.Text.Decoding
import CodeGloss.Proofs.Text.Lines
import CodeGloss.Proofs.Text.Gap
import CodeGloss.Proofs.Text.Search
import CodeGloss.Proofs.Header.Blank
import CodeGloss.Proofs.Header.Name
import CodeGloss.Proofs.Header.Steps
import CodeGloss.Proofs.Header.Readings
import CodeGloss.Proofs.Header.Matching
import CodeGloss.Proofs.Header.Items
import CodeGloss.Proofs.Header.Scripts
import CodeGloss.Proofs.Header.Methods
import CodeGloss.Proofs.Header.Callable
import CodeGloss.Proofs.Header.Generics
import CodeGloss.Proofs.Block.Bounds
import CodeGloss.Proofs.Block.Positions
import CodeGloss.Proofs.Block.Code
import CodeGloss.Proofs.Block.Appended
import CodeGloss.Proofs.Block.Brackets
import CodeGloss.Proofs.Block.Nesting
import CodeGloss.Proofs.Block.Gap
import CodeGloss.Proofs.Block.Course
import CodeGloss.Proofs.Block.Balance
import CodeGloss.Proofs.Block.Balanced
import CodeGloss.Proofs.Block.Replaced
import CodeGloss.Proofs.Block.Hidden
import CodeGloss.Proofs.Block.Plain
import CodeGloss.Proofs.Block.WholeText
import CodeGloss.Proofs.Block.Quotation
import CodeGloss.Proofs.Block.Indented
import CodeGloss.Proofs.Outline.Innermost
import CodeGloss.Proofs.Outline.Lookup
import CodeGloss.Proofs.Outline.Candidates
import CodeGloss.Proofs.Outline.Starts
import CodeGloss.Proofs.Detection.Exact
import CodeGloss.Proofs.Detection.Positions
import CodeGloss.Proofs.Detection.Found
import CodeGloss.Proofs.Detection.Surroundings
import CodeGloss.Proofs.Detection.Nesting
import CodeGloss.Proofs.Detection.Gap
import CodeGloss.Proofs.Detection.Hints
import CodeGloss.Proofs.Detection.Policies
import CodeGloss.Proofs.Detection.Quotations
import CodeGloss.Proofs.Detection.Terminators
import CodeGloss.Proofs.View.Rows
import CodeGloss.Proofs.View.Painted
import CodeGloss.Proofs.View.Agreement
import CodeGloss.Proofs.Screen.Emphasis
import CodeGloss.Proofs.Screen.Pointing
import CodeGloss.Proofs.Session.Operations
import CodeGloss.Proofs.Files.Tree
import CodeGloss.Proofs.Files.Disk
import CodeGloss.Proofs.Files.Spelling
import CodeGloss.Proofs.Settings.Layers
import CodeGloss.Proofs.Broker.Books
import CodeGloss.Proofs.Broker.Turn
import CodeGloss.Proofs.Broker.Sound
import CodeGloss.Proofs.Broker.SoundTurn
import CodeGloss.Proofs.Broker.Operations
import CodeGloss.Proofs.Broker.Growth
import CodeGloss.Proofs.Broker.Tickets
import CodeGloss.Proofs.Broker.Ledger
import CodeGloss.Proofs.Broker.LedgerSound
import CodeGloss.Proofs.Broker.Origin
import CodeGloss.Proofs.Broker.Progress
import CodeGloss.Proofs.Broker.FileChange
import CodeGloss.Proofs.Broker.Known
import CodeGloss.Proofs.Broker.Resting
import CodeGloss.Proofs.Broker.Sharing
import CodeGloss.Proofs.Broker.DeskRun
import CodeGloss.Proofs.Broker.Held
import CodeGloss.Proofs.Broker.Details
import CodeGloss.Proofs.Broker.Polled
import CodeGloss.Proofs.Broker.Supplied
import CodeGloss.Proofs.Broker.Lifecycle
import CodeGloss.Proofs.Broker.Inquiries
import CodeGloss.Proofs.Browser.Run
import CodeGloss.Proofs.Browser.Moves
import CodeGloss.Proofs.Browser.Polling
import CodeGloss.Proofs.Browser.Sound
import CodeGloss.Proofs.Browser.Diary
import CodeGloss.Proofs.Browser.Notes
import CodeGloss.Proofs.Browser.Sight
import CodeGloss.Proofs.Browser.Parts
import CodeGloss.Proofs.Browser.Stepping
import CodeGloss.Proofs.Browser.Surroundings
import CodeGloss.Proofs.Browser.Grip
import CodeGloss.Proofs.Json.RoundTrip
import CodeGloss.Proofs.Json.Grammar
import CodeGloss.Proofs.History.Written
import CodeGloss.Proofs.History.OnDisk
import CodeGloss.Proofs.History.Saving
import CodeGloss.Proofs.Command.Recorded
import CodeGloss.Proofs.Command.Explained
import CodeGloss.Proofs.Command.Listed
import CodeGloss.Proofs.Command.Sequence
import CodeGloss.Proofs.History.Copies
import CodeGloss.Proofs.Browser.Sharing
import CodeGloss.Proofs.Service.Deletions
import CodeGloss.Proofs.Scan.Order
