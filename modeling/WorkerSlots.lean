import WorkerSlots.Agent
import WorkerSlots.Agent.Config
import WorkerSlots.Budget
import WorkerSlots.Clock
import WorkerSlots.Id
import WorkerSlots.Id.Json
import WorkerSlots.Json
import WorkerSlots.Json.Parser
import WorkerSlots.Json.Printer
import WorkerSlots.Json.Record
import WorkerSlots.Log.Error
import WorkerSlots.Log.Filter
import WorkerSlots.Log.Format
import WorkerSlots.Log.Settings
import WorkerSlots.ManagedMemory
import WorkerSlots.ManagedMemory.Run
import WorkerSlots.MemorySize
import WorkerSlots.MemorySize.Json
import WorkerSlots.MemorySize.Text
import WorkerSlots.Profile
import WorkerSlots.Profile.Amounts
import WorkerSlots.Profile.Json
import WorkerSlots.Proofs.Advances
import WorkerSlots.Proofs.AgentLives
import WorkerSlots.Proofs.Agreement
import WorkerSlots.Proofs.Answers
import WorkerSlots.Proofs.Bindings
import WorkerSlots.Proofs.Books
import WorkerSlots.Proofs.Budget
import WorkerSlots.Proofs.Callers
import WorkerSlots.Proofs.Calls
import WorkerSlots.Proofs.Claiming
import WorkerSlots.Proofs.CloseFutures
import WorkerSlots.Proofs.CloseOrders
import WorkerSlots.Proofs.Closing
import WorkerSlots.Proofs.Commands
import WorkerSlots.Proofs.DeferredFrees
import WorkerSlots.Proofs.Deliveries
import WorkerSlots.Proofs.Drains
import WorkerSlots.Proofs.Events
import WorkerSlots.Proofs.Expiries
import WorkerSlots.Proofs.Failures
import WorkerSlots.Proofs.Fates
import WorkerSlots.Proofs.Finalizing
import WorkerSlots.Proofs.FreeOrders
import WorkerSlots.Proofs.Grants
import WorkerSlots.Proofs.Holdings
import WorkerSlots.Proofs.Indices
import WorkerSlots.Proofs.JsonRecords
import WorkerSlots.Proofs.JsonTexts
import WorkerSlots.Proofs.LateTimeouts
import WorkerSlots.Proofs.Maps
import WorkerSlots.Proofs.Memory
import WorkerSlots.Proofs.Operations
import WorkerSlots.Proofs.Pages
import WorkerSlots.Proofs.ProfileLaws
import WorkerSlots.Proofs.Profiles
import WorkerSlots.Proofs.Refusals
import WorkerSlots.Proofs.Registrations
import WorkerSlots.Proofs.Repeats
import WorkerSlots.Proofs.Reports
import WorkerSlots.Proofs.Reservations
import WorkerSlots.Proofs.Reversals
import WorkerSlots.Proofs.Runs
import WorkerSlots.Proofs.Schedules
import WorkerSlots.Proofs.Shares
import WorkerSlots.Proofs.Shutdowns
import WorkerSlots.Proofs.SlotTimeouts
import WorkerSlots.Proofs.Slots
import WorkerSlots.Proofs.StaticSlots
import WorkerSlots.Proofs.Steps
import WorkerSlots.Proofs.Supervision
import WorkerSlots.Proofs.Teardowns
import WorkerSlots.Proofs.Timeouts
import WorkerSlots.Proofs.TimerEvents
import WorkerSlots.Proofs.Unclaimed
import WorkerSlots.Proofs.Wakeups
import WorkerSlots.Slot
import WorkerSlots.Slot.Report
import WorkerSlots.Slot.Request
import WorkerSlots.Slot.Run
import WorkerSlots.Slot.State
import WorkerSlots.SortedMap
import WorkerSlots.Supervisor
import WorkerSlots.Table
import WorkerSlots.Table.Allocation
import WorkerSlots.Table.Config
import WorkerSlots.Table.Error
import WorkerSlots.Table.Lifecycle
import WorkerSlots.Table.Operation
import WorkerSlots.Table.Release
import WorkerSlots.Table.Run
import WorkerSlots.Table.Tasks
import WorkerSlots.Table.Timeouts
import WorkerSlots.Text.Alphanumeric
import WorkerSlots.Text.Blank
import WorkerSlots.Text.Bytes
import WorkerSlots.Text.Decimal
import WorkerSlots.Text.Pattern
import WorkerSlots.Text.Pattern.Atom
import WorkerSlots.Text.Pattern.CharSet
import WorkerSlots.Text.Quoted
import WorkerSlots.Timer
import WorkerSlots.Timer.Run
import WorkerSlots.Word
import WorkerSlots.Proofs.Blanks
import WorkerSlots.Proofs.SizeTexts
import WorkerSlots.Proofs.NormalForms
