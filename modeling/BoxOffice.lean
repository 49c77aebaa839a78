import BoxOffice.Json.Reader
import BoxOffice.Json.Writer
import BoxOffice.Main
import BoxOffice.Proofs.Ledger.Effect
import BoxOffice.Rehearsal.Opening
import BoxOffice.Rehearsal.Step
import BoxOffice.Rehearsal.Trial
import BoxOffice.Proofs.Ledger.Pool
import BoxOffice.Proofs.Ledger.Run
import BoxOffice.Proofs.Ledger.Conservation
import BoxOffice.Proofs.Ledger.Seat
import BoxOffice.Proofs.Ledger.Stock
import BoxOffice.Proofs.Ledger.Sound
import BoxOffice.Proofs.Inventory.Serve
import BoxOffice.Proofs.Inventory.Reserve
import BoxOffice.Proofs.Inventory.Visit
import BoxOffice.Proofs.Inventory.Exclusive
import BoxOffice.Proofs.Desk.Calls
import BoxOffice.Proofs.Ledger.Sold
import BoxOffice.Proofs.Inventory.Sale
import BoxOffice.Proofs.Bookings
import BoxOffice.Proofs.House.Basic
import BoxOffice.Proofs.House.Coupling
import BoxOffice.Proofs.House.Agreement
import BoxOffice.Proofs.House.Floor
import BoxOffice.Proofs.House.Cancelled
import BoxOffice.Proofs.House.Counting
import BoxOffice.Proofs.Ledger.Lifecycle
import BoxOffice.Proofs.Ledger.Share
import BoxOffice.Proofs.Inventory.Availability
import BoxOffice.Proofs.Desk.Phases
import BoxOffice.Proofs.House.Duplicates
import BoxOffice.Proofs.Desk.Compensation
import BoxOffice.Proofs.Conversation
import BoxOffice.Proofs.Desk.Course
import BoxOffice.Proofs.Database.Session
import BoxOffice.Proofs.Database.Atomic
import BoxOffice.Proofs.Ledger.Snapshot
import BoxOffice.Proofs.House.Outage
import BoxOffice.Proofs.Database.Tables
import BoxOffice.Proofs.Database.Server
import BoxOffice.Proofs.Database.Reading
import BoxOffice.Proofs.Database.Mirror
import BoxOffice.Proofs.Database.Change
import BoxOffice.Proofs.Database.Counting
import BoxOffice.Proofs.Database.Answers
import BoxOffice.Proofs.Database.Tallies
import BoxOffice.Proofs.Ledger.Provision
import BoxOffice.Proofs.Database.Provision
import BoxOffice.Proofs.Database.Refinement
import BoxOffice.Proofs.Inventory.Repeat
import BoxOffice.Proofs.Ledger.Units
import BoxOffice.Proofs.Inventory.Single
import BoxOffice.Proofs.Ledger.Matching
import BoxOffice.Proofs.Inventory.Sweeping
import BoxOffice.Proofs.Database.Shared
import BoxOffice.Proofs.Desk.Saga
import BoxOffice.Proofs.Bookings.History
import BoxOffice.Proofs.Database.BookingTable
import BoxOffice.Proofs.Database.BookingRefinement
import BoxOffice.Proofs.Inventory.Configured
import BoxOffice.Proofs.Inventory.Calling
import BoxOffice.Proofs.Ledger.Count
import BoxOffice.Proofs.Inventory.Books
import BoxOffice.Proofs.Digits
import BoxOffice.Proofs.Json.Text
import BoxOffice.Proofs.Timestamp
import BoxOffice.Proofs.Json.Lossless
import BoxOffice.Proofs.Inventory.Decision
import BoxOffice.Proofs.Ledger.Sweep
import BoxOffice.Proofs.Ledger.Replace
import BoxOffice.Proofs.Ledger.Return
import BoxOffice.Proofs.Inventory.Release
import BoxOffice.Proofs.Trying
import BoxOffice.Proofs.House.Lossy
import BoxOffice.Proofs.Desk.Settlement
import BoxOffice.Proofs.Database.Quiet
import BoxOffice.Proofs.Database.Race
import BoxOffice.Proofs.Inventory.Kept
import BoxOffice.Proofs.Trial
import BoxOffice.Proofs.Ledger.Numbers
import BoxOffice.Proofs.Database.Decoding
import BoxOffice.Proofs.Ledger.Independence
import BoxOffice.Proofs.House.SeatLabels
import BoxOffice.Proofs.Database.Fault
import BoxOffice.Proofs.Database.Stopping
import BoxOffice.Proofs.Settings
import BoxOffice.Proofs.Shutdown
import BoxOffice.Proofs.Reclaimer.Loop
import BoxOffice.Proofs.Reclaimer.Background
