/-
The kernel: its tables, the machine below it, and what most of its operations are made of.

* `Kernel`: the state of the kernel and of its machine;
* `Kernel.create`, `Kernel.boot`: a fresh kernel, and a processor that joins in;
* `Kernel.log`, `Kernel.audit`: what is told on the console, and what is recorded;
* `Kernel.unbind`, `Kernel.dropClaim`: a processor gives up a process;
* `Kernel.snapshot`, `Kernel.processInfo?`, `Kernel.spaces`: copies of the tables.
-/
import Exokernel.Config
import Exokernel.Machine.Loader
import Exokernel.Process.Table

namespace Exokernel

/-- What the kernel keeps for one processor. -/
structure CpuRecord where
  booted : Bool := false
  /-- The process that the processor was given last and has not given up. It may have been destroyed
  by another processor; then this one still has to clear it away. -/
  current : Option ProcessId := none
  /-- How many traps it has taken. -/
  traps : Nat := 0
  deriving DecidableEq, Inhabited

/-- The kernel on its machine. -/
structure Kernel where
  config : Config
  machine : Machine
  table : ProcessTable
  cpus : Array CpuRecord
  auditLog : AuditLog

namespace Kernel

/-- A kernel on a machine, before any processor has joined in. -/
def create (machine : Machine) (config : Config) : Except ConfigError Kernel :=
  match config.check with
  | .error e => .error e
  | .ok () =>
    .ok {
      config
      machine
      table := .ofCapacity config.maxProcesses
      cpus := Array.replicate config.cpus {}
      auditLog := .empty config.auditCapacity }

/-! ### Messages and events -/

/-- Prints text as it is. -/
def print (k : Kernel) (text : String) : Kernel :=
  { k with machine := k.machine.print text }

/-- Prints a message, if the configuration has messages of its level printed. -/
def log (k : Kernel) (level : LogLevel) (message : String) : Kernel :=
  if level.enabled k.config.logLevel then k.print (level.line message) else k

/-- Records an event. -/
def audit (k : Kernel) (process : ProcessId) (kind : EventKind) : Kernel :=
  { k with auditLog := k.auditLog.record process.raw kind k.machine.millis }

/-- Records that the kernel ends a process. -/
def auditTermination (k : Kernel) (process : ProcessId) (cause : TerminationCause) : Kernel :=
  k.audit process (.terminated cause)

/-! ### Processes -/

/-- The record of the live process `id`. -/
def live? (k : Kernel) (id : ProcessId) : Option Process := k.table.find? id

/-- Changes the record in the slot of `id`. -/
def modify (k : Kernel) (id : ProcessId) (f : Process → Process) : Kernel :=
  { k with table := k.table.modify id.slot f }

/-- The address space of the live process `id`. -/
def spaceOf? (k : Kernel) (id : ProcessId) : Option Nat := (k.live? id).bind (·.space)

/-- The address space of a live process, or the error of asking for one that there is not. -/
def spaceOf (k : Kernel) (id : ProcessId) : Except KernelError Nat :=
  match k.spaceOf? id with
  | none => .error .badProcess
  | some s => .ok s

/-- Whom `caller` means by `id`; see `ProcessTable.resolve`. -/
def resolve (k : Kernel) (caller id : ProcessId) (related : Bool) : Except KernelError ProcessId :=
  k.table.resolve caller id related

/-- Runs an operation of the machine for the kernel. -/
def withMachine (k : Kernel) (r : Except MachineError Machine) : Except KernelError Kernel :=
  match r with
  | .error e => .error e.toKernelError
  | .ok machine => .ok { k with machine }

/-! ### Processors -/

/-- Changes the record of a processor, if there is such a processor. -/
def modifyCpu (k : Kernel) (cpu : Nat) (f : CpuRecord → CpuRecord) : Kernel :=
  { k with cpus := k.cpus.modify cpu f }

/-- Loads an address space, or none, on a processor. -/
def activate (k : Kernel) (cpu : Nat) (s : Option Nat) : Kernel :=
  { k with machine := k.machine.activate cpu s }

/-- The process that a processor has bound. -/
def current? (k : Kernel) (cpu : Nat) : Option ProcessId :=
  k.cpus[cpu]?.bind (·.current)

/-- A processor joins in, with nothing bound. -/
def boot (k : Kernel) (cpu : Nat) : Except KernelError Kernel :=
  if cpu < k.cpus.size then
    let k := k.modifyCpu cpu fun c => { c with booted := true, current := none }
    .ok ((k.activate cpu none).log .info s!"SMP: CPU {cpu} starting")
  else .error .invalidArgument

/-- A processor claims `id` no longer, if it did. -/
def dropClaim (k : Kernel) (cpu : Nat) (id : ProcessId) : Kernel :=
  k.modifyCpu cpu fun c => if c.current = some id then { c with current := none } else c

/-- A processor gives up the process `id`, and its address space with it: from then on any other
processor may tear the process down. -/
def unbind (k : Kernel) (cpu : Nat) (id : ProcessId) : Kernel :=
  let k :=
    if (k.table.records[id.slot]?.bind (·.resident)) = some cpu then
      (k.modify id fun p => { p with resident := none }).activate cpu none
    else k
  k.dropClaim cpu id

/-! ### Copies of the tables -/

/-- A copy of all tables. -/
def snapshot (k : Kernel) : Snapshot :=
  { processes := k.table.records.toList.mapIdx fun slot p => p.info slot
    cpus := k.cpus.toList.mapIdx fun cpu c => ⟨cpu, c.booted, c.current, c.traps⟩
    freeSlots := k.table.free.reverse
    cursor := k.table.cursor }

/-- The live processes with their address spaces, in the order of their slots. -/
def spaces (k : Kernel) : List (ProcessId × Nat) :=
  k.table.records.toList.filterMap fun p => (k.spaceOf? p.id).map (p.id, ·)

/-- The row of the live process `id`. -/
def processInfo? (k : Kernel) (id : ProcessId) : Option ProcessInfo :=
  (k.live? id).map (·.info id.slot)

end Kernel

end Exokernel
