import CommandPipeline.Reply.Display
import CommandPipeline.Config
import CommandPipeline.Ledger
import CommandPipeline.History
import CommandPipeline.Tool.Rehearsal
import CommandPipeline.Main
import CommandPipeline.Proofs.Lines
import CommandPipeline.Proofs.Numerals
import CommandPipeline.Proofs.Wire.Grammar
import CommandPipeline.Proofs.Wire.Elements
import CommandPipeline.Proofs.Wire.Scanning
import CommandPipeline.Proofs.Wire.Acceptance
import CommandPipeline.Proofs.Wire.Segmentation
import CommandPipeline.Proofs.Session.Acts
import CommandPipeline.Proofs.Session.Balance
import CommandPipeline.Proofs.Cursors
import CommandPipeline.Proofs.Session.Runs
import CommandPipeline.Proofs.Session.Conservation
import CommandPipeline.Proofs.Session.Journal
import CommandPipeline.Proofs.Session.Correlation
import CommandPipeline.Proofs.Wire.Encoding
import CommandPipeline.Proofs.Session.Dispatch
import CommandPipeline.Proofs.Session.Teardown
import CommandPipeline.Proofs.Session.Agreement
import CommandPipeline.Proofs.Session.Epochs
import CommandPipeline.Proofs.Session.Commuting
import CommandPipeline.Proofs.Session.Schedules
import CommandPipeline.Proofs.Characters
import CommandPipeline.Proofs.Wire.Prefixes
import CommandPipeline.Proofs.Wire.Bounds
import CommandPipeline.Proofs.Wire.Finality
import CommandPipeline.Proofs.Wire.Integers
import CommandPipeline.Proofs.Wire.Writing
import CommandPipeline.Proofs.Session.Breakage
import CommandPipeline.Proofs.Session.Scripts
import CommandPipeline.Proofs.Session.Replies
import CommandPipeline.Proofs.Session.Flushes
import CommandPipeline.Proofs.Reports
import CommandPipeline.Proofs.Session.Renaming
import CommandPipeline.Proofs.Session.Waiting
import CommandPipeline.Proofs.Session.OneShot
import CommandPipeline.Proofs.Pages
import CommandPipeline.Proofs.Walks
import CommandPipeline.Proofs.Pairings
import CommandPipeline.Proofs.Session.Scans
import CommandPipeline.Proofs.Completions
import CommandPipeline.Proofs.Session.Attempts
import CommandPipeline.Batch.View
import CommandPipeline.Proofs.Session.Views
import CommandPipeline.Command.Reading
import CommandPipeline.Proofs.CommandReading
import CommandPipeline.Proofs.Addresses
import CommandPipeline.Proofs.Session.ManyValues
import CommandPipeline.Proofs.Session.Memoisation
import CommandPipeline.Proofs.FieldValues
import CommandPipeline.Proofs.Wire.Unfinished
