import Exokernel.Address
import Exokernel.Audit
import Exokernel.Audit.Json
import Exokernel.Bench
import Exokernel.Bench.Memory
import Exokernel.Bench.UserContext
import Exokernel.Config
import Exokernel.Error
import Exokernel.Json
import Exokernel.Json.Fields
import Exokernel.Json.Reader
import Exokernel.Kernel.Basic
import Exokernel.Kernel.Dispatch
import Exokernel.Kernel.Family
import Exokernel.Kernel.Fault
import Exokernel.Kernel.Lifecycle
import Exokernel.Kernel.Messages
import Exokernel.Kernel.Pages
import Exokernel.Kernel.Schedule
import Exokernel.Kernel.Trap
import Exokernel.LibOS.CopyOnWrite
import Exokernel.LibOS.Fork
import Exokernel.LibOS.Host
import Exokernel.LibOS.Messages
import Exokernel.LibOS.Scripted
import Exokernel.LogLevel
import Exokernel.Machine
import Exokernel.Machine.Access
import Exokernel.Machine.Frames
import Exokernel.Machine.Loader
import Exokernel.Machine.Page
import Exokernel.Machine.Range
import Exokernel.Perm
import Exokernel.Process
import Exokernel.Process.Id
import Exokernel.Process.Status
import Exokernel.Process.Table
import Exokernel.Schedule.Lap
import Exokernel.Snapshot
import Exokernel.Snapshot.Health
import Exokernel.Snapshot.Json
import Exokernel.SortedMap
import Exokernel.Sync.Counter
import Exokernel.Sync.SpinLock
import Exokernel.Syscall
import Exokernel.Text.Hex
import Exokernel.Text.Utf8
import Exokernel.Trap.FaultFrame
import Exokernel.Trap.Frame
import Exokernel.Trap.Number
import Exokernel.Trap.Words
import Exokernel.Proofs.Memory.Pool
import Exokernel.Proofs.Memory.Ledger
import Exokernel.Proofs.Memory.Accounts
import Exokernel.Proofs.Memory.Work
import Exokernel.Proofs.Kernel.Moves
import Exokernel.Proofs.Kernel.Teardown
import Exokernel.Proofs.Kernel.Calls
import Exokernel.Proofs.Kernel.Traps
import Exokernel.Proofs.Health
import Exokernel.Proofs.Processors
import Exokernel.Proofs.Balance
import Exokernel.Proofs.Isolation
import Exokernel.Proofs.Memory.Ranges
import Exokernel.Proofs.Bench.Steps
import Exokernel.Proofs.Kernel.Answers
import Exokernel.Proofs.Memory.Bytes
import Exokernel.Proofs.Memory.Guards
import Exokernel.Proofs.Kernel.Tracks
import Exokernel.Proofs.Bench.Calls
import Exokernel.Proofs.LibOS.Exec
import Exokernel.Proofs.Kernel.Lives
import Exokernel.Proofs.Endings
import Exokernel.Proofs.Memory.Allowances
import Exokernel.Proofs.Authority
import Exokernel.Proofs.Memory.Counts
import Exokernel.Proofs.Kernel.Sends
import Exokernel.Proofs.Messages
import Exokernel.Proofs.Kernel.Requests
import Exokernel.Proofs.Bench.Requests
import Exokernel.Proofs.Bench.Mending
import Exokernel.Proofs.Bench.Accesses
import Exokernel.Proofs.Bench.Forking
import Exokernel.Proofs.CopyOnWrite
import Exokernel.Proofs.Schedule.Turns
import Exokernel.Proofs.Memory.Services
import Exokernel.Proofs.Kernel.Calm
import Exokernel.Proofs.Schedule.Searches
import Exokernel.Proofs.Histories
import Exokernel.Proofs.Fairness
import Exokernel.Proofs.Kernel.Entries
import Exokernel.Proofs.Refusals
import Exokernel.Proofs.Kernel.Effects
import Exokernel.Proofs.Pauses
import Exokernel.Proofs.Registers
import Exokernel.Proofs.Receiving
import Exokernel.Proofs.Kernel.Records
import Exokernel.Proofs.Alterations
import Exokernel.Proofs.Identities
import Exokernel.Proofs.Privileges
import Exokernel.Proofs.Statuses
import Exokernel.Proofs.Kernel.Residue
import Exokernel.Proofs.Residue
import Exokernel.Proofs.Panics
import Exokernel.Proofs.Kernel.Trails
import Exokernel.Proofs.Kernel.Returns
import Exokernel.Proofs.Trails
import Exokernel.Proofs.Bench.Active
import Exokernel.Proofs.Bench.Duplicates
import Exokernel.Proofs.Forks
import Exokernel.Proofs.Memory.Provisions
import Exokernel.Proofs.Kernel.Grants
import Exokernel.Proofs.Bench.Faults
import Exokernel.Proofs.Bench.Copies
import Exokernel.Proofs.Memory.Storing
import Exokernel.Proofs.Bench.Retries
import Exokernel.Proofs.Stores
import Exokernel.Proofs.Memory.Checks
import Exokernel.Proofs.Memory.Views
import Exokernel.Proofs.PageCalls
import Exokernel.Proofs.Memory.Programs
import Exokernel.Proofs.Loading
import Exokernel.Proofs.Kernel.Reflection
import Exokernel.Proofs.PageFaults
import Exokernel.Proofs.Spawning
import Exokernel.Proofs.Collisions
import Exokernel.Proofs.LibOS.Transcripts
import Exokernel.Proofs.LibOS.Forking
import Exokernel.Proofs.LibOS.Sending
import Exokernel.Proofs.Memory.Repairs
import Exokernel.Proofs.Bench.Refusals
import Exokernel.Proofs.Repairs
import Exokernel.Proofs.Memory.Sharing
import Exokernel.Proofs.Bench.FailedForks
import Exokernel.Proofs.FailedForks
import Exokernel.Proofs.Checking
import Exokernel.Proofs.Decoding
import Exokernel.Proofs.Attribution
import Exokernel.Proofs.Bench.Rounds
import Exokernel.Proofs.GivenUp
import Exokernel.Proofs.Encoding
import Exokernel.Proofs.Lookups
import Exokernel.Proofs.Interrupts
import Exokernel.Proofs.Kernel.Clock
import Exokernel.Proofs.Waiting
import Exokernel.Proofs.Schedule.Laps
import Exokernel.Proofs.Retention
import Exokernel.Proofs.Memory.Places
import Exokernel.Proofs.Memory.Transfers
import Exokernel.Proofs.SavedFrames
