/-
Copies of the kernel's tables, for reports and for checking their health.

* `ProcessInfo`, `CpuInfo`: one row of the process table and one processor;
* `Snapshot`: all rows, with the free slots and the place of the scheduler;
* `Snapshot.process?`: the row of a process that is looked up by its identity.
-/
import Exokernel.Process.Status

namespace Exokernel

/-- One slot of the process table. -/
structure ProcessInfo where
  slot : Nat
  /-- The last identity that the slot has issued; it stays when the slot is freed. -/
  id : ProcessId
  parent : ProcessId
  status : ProcessStatus
  hasSpace : Bool
  /-- The processor that has the process bound. -/
  resident : Option Nat
  /-- Where the process handles its page faults. -/
  faultHandler : Option VirtAddr
  mailbox : Mailbox
  /-- How often the process was dispatched. -/
  runs : UInt32
  deriving DecidableEq

/-- One processor. -/
structure CpuInfo where
  cpu : Nat
  booted : Bool
  current : Option ProcessId
  traps : Nat
  deriving DecidableEq

/-- The tables of the kernel at one moment. -/
structure Snapshot where
  processes : List ProcessInfo
  cpus : List CpuInfo
  /-- The free slots; the last of them is the next to be used. -/
  freeSlots : List Nat
  /-- The slot that was dispatched last. -/
  cursor : Nat
  deriving DecidableEq

namespace Snapshot

/-- The process with exactly this identity, if its slot is in use. -/
def process? (s : Snapshot) (id : ProcessId) : Option ProcessInfo :=
  s.processes[id.slot]?.filter fun p => p.id = id ∧ p.status ≠ .free

/-- How many processes have a status. -/
def count (s : Snapshot) (status : ProcessStatus) : Nat :=
  s.processes.countP (·.status = status)

end Snapshot

end Exokernel
