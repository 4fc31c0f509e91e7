import Gamebook.Binary32.Basic
import Gamebook.Binary32.Decimal
import Gamebook.Catalog.Basic
import Gamebook.Catalog.Error
import Gamebook.Catalog.Load
import Gamebook.Catalog.Pick
import Gamebook.CommandLine.Arguments
import Gamebook.CommandLine.Output
import Gamebook.CommandLine.Tools
import Gamebook.Compile
import Gamebook.Content.Basic
import Gamebook.Content.Lint
import Gamebook.Content.Report
import Gamebook.Definition
import Gamebook.Entry
import Gamebook.Event
import Gamebook.Files
import Gamebook.Gather
import Gamebook.Inventory
import Gamebook.Item
import Gamebook.Main
import Gamebook.Node.Basic
import Gamebook.Node.Neighbours
import Gamebook.Numeral
import Gamebook.Player
import Gamebook.Random.ChaCha
import Gamebook.Random.Choice
import Gamebook.Random.Source
import Gamebook.Random.Weighted
import Gamebook.Record.Content
import Gamebook.Record.Group
import Gamebook.Record.Reader
import Gamebook.Record.Scalar
import Gamebook.Scene
import Gamebook.Session.Basic
import Gamebook.Session.Command
import Gamebook.Session.Remark
import Gamebook.Session.Transcript
import Gamebook.Stat.Basic
import Gamebook.Stat.Values
import Gamebook.Template
import Gamebook.Text.Blank
import Gamebook.Text.Case.Mapping
import Gamebook.Text.Case.Property
import Gamebook.Text.Fold
import Gamebook.Text.Lowercase
import Gamebook.Vocabulary
import Gamebook.Proofs.Binary32.Rounding
import Gamebook.Proofs.Binary32.Sum
import Gamebook.Proofs.Catalog.Firing
import Gamebook.Proofs.Catalog.Order
import Gamebook.Proofs.Catalog.References
import Gamebook.Proofs.Catalog.Rendering
import Gamebook.Proofs.Catalog.Shelf
import Gamebook.Proofs.Catalog.Soundness
import Gamebook.Proofs.Catalog.Travel
import Gamebook.Proofs.Compile.Draft
import Gamebook.Proofs.Compile.Misentries
import Gamebook.Proofs.Compile.Neighbours
import Gamebook.Proofs.Compile.Orders
import Gamebook.Proofs.Compile.Rejections
import Gamebook.Proofs.Compile.Verdict
import Gamebook.Proofs.Compile.Wordless
import Gamebook.Proofs.Content.Agreement
import Gamebook.Proofs.Content.Closure
import Gamebook.Proofs.Content.Dangling
import Gamebook.Proofs.Content.Directory
import Gamebook.Proofs.Content.Exposure
import Gamebook.Proofs.Content.FileCheck
import Gamebook.Proofs.Content.FileFaults
import Gamebook.Proofs.Content.FileReport
import Gamebook.Proofs.Content.Hero
import Gamebook.Proofs.Content.Listing
import Gamebook.Proofs.Content.Reachability
import Gamebook.Proofs.Content.Reference
import Gamebook.Proofs.Content.Reload
import Gamebook.Proofs.Content.Rendering
import Gamebook.Proofs.Content.Safety
import Gamebook.Proofs.Content.Survey
import Gamebook.Proofs.Entry.Advice
import Gamebook.Proofs.Entry.Amount
import Gamebook.Proofs.Entry.Grammar
import Gamebook.Proofs.Entry.Messages
import Gamebook.Proofs.Entry.Reading
import Gamebook.Proofs.Inventory.Filling
import Gamebook.Proofs.Inventory.Slots
import Gamebook.Proofs.Lookup
import Gamebook.Proofs.Random.Choice
import Gamebook.Proofs.Random.Weighted
import Gamebook.Proofs.Scene.Atomicity
import Gamebook.Proofs.Scene.Carryover
import Gamebook.Proofs.Scene.Charges
import Gamebook.Proofs.Scene.Comparison
import Gamebook.Proofs.Scene.Course
import Gamebook.Proofs.Scene.Execution
import Gamebook.Proofs.Scene.Gifts
import Gamebook.Proofs.Scene.Operation
import Gamebook.Proofs.Scene.Provenance
import Gamebook.Proofs.Scene.Refusal
import Gamebook.Proofs.Scene.Settlement
import Gamebook.Proofs.Session.Autoplay
import Gamebook.Proofs.Session.Choice
import Gamebook.Proofs.Session.Ending
import Gamebook.Proofs.Session.Gift
import Gamebook.Proofs.Session.Grounded
import Gamebook.Proofs.Session.Onward
import Gamebook.Proofs.Session.Opening
import Gamebook.Proofs.Session.Pace
import Gamebook.Proofs.Session.Place
import Gamebook.Proofs.Session.Prompt
import Gamebook.Proofs.Session.Turns
import Gamebook.Proofs.Stat.Clamping
import Gamebook.Proofs.Stat.Comparison
import Gamebook.Proofs.Stat.Levels
import Gamebook.Proofs.Stat.Payment
import Gamebook.Proofs.Stat.PaymentOrder
import Gamebook.Proofs.Template.Occurrence
import Gamebook.Proofs.Template.Rendering
import Gamebook.Proofs.Text.Bytes
import Gamebook.Proofs.Text.Trimming
