/-
A bench on which user code runs against the kernel, one step after another. For each processor it
keeps the registers of the process that runs there, and whoever drives the bench chooses when timers
fire and which process acts next.

* `standardImage`: the program that every process of the bench runs;
* `Bench`: the kernel and who runs where;
* `Bench.create`: all processors joined in, and the idle process in its slot;
* `Bench.start`, `Bench.timer`, `Bench.runUntil`: processors find something to run;
* `Bench.call`: a system call of the process that runs on a processor.
-/
import Exokernel.Kernel.Trap

namespace Exokernel

open Layout

namespace Bench

/-- The page of data in the standard program. -/
abbrev dataPage : Nat := textBase + pageSize

/-- What the page of data holds in its first byte. -/
abbrev dataByte : UInt8 := 1

/-- Where the standard program enters its fault handler. -/
abbrev handlerEntry : Nat := textBase + 0x100

/-- The program that every process of the bench runs: a page of text and a page of data. -/
def standardImage : Image where
  entry := .ofNat textBase
  segments := [
    .readOnly (.ofNat textBase) (List.replicate 0x200 0xCC),
    .readWrite (.ofNat dataPage) [dataByte] (UInt32.ofNat pageSize)]

end Bench

/-- Why there is no bench. -/
inductive BenchError where
  | config (e : ConfigError)
  | kernel (e : KernelError)
  deriving DecidableEq

/-- The error in words. -/
def BenchError.message : BenchError → String
  | .config e => "config: " ++ e.message
  | .kernel e => "kernel: " ++ e.message

/-- A process that runs on a processor, with its registers. -/
structure Occupant where
  id : ProcessId
  frame : TrapFrame
  deriving DecidableEq

/-- The kernel, and who runs on each processor. -/
structure Bench where
  kernel : Kernel
  occupants : Array (Option Occupant)

/-- What came of a system call. -/
inductive Step where
  /-- The caller goes on with this answer. -/
  | returned (answer : Int32)
  /-- The processor runs another process, or none. -/
  | switched (process : Option ProcessId)
  /-- The processor stopped for good. -/
  | halted (panic : KernelPanic)
  deriving DecidableEq

namespace Bench

/-! ### The bench at the start -/

/-- Lets several processors join in, one after the other. -/
def bootAll : List Nat → Kernel → Except KernelError Kernel
  | [], k => .ok k
  | cpu :: cpus, k =>
    match k.boot cpu with
    | .error e => .error e
    | .ok k => bootAll cpus k

/-- A bench of its own: all processors have joined in, and the idle process is in its slot. -/
def create (config : Config) : Except BenchError Bench :=
  match Kernel.create (.ofSize config.cpus Machine.defaultFrames) config with
  | .error e => .error (.config e)
  | .ok k =>
    match bootAll (List.range config.cpus) k with
    | .error e => .error (.kernel e)
    | .ok k =>
      match k.spawn standardImage with
      | (.error e, _) => .error (.kernel e)
      | (.ok _, k) => .ok ⟨k, Array.replicate config.cpus none⟩

/-- A bench with one processor and the given number of slots. -/
def single (slots : Nat) : Except BenchError Bench :=
  create { maxProcesses := slots, cpus := 1, idlePollLimit := 4 }

/-! ### Who runs where -/

/-- Who runs on a processor. -/
def occupant? (t : Bench) (cpu : Nat) : Option Occupant :=
  t.occupants[cpu]?.join

/-- The process that runs on a processor. -/
def current? (t : Bench) (cpu : Nat) : Option ProcessId :=
  (t.occupant? cpu).map (·.id)

/-- The registers of the process that runs on a processor. -/
def frame? (t : Bench) (cpu : Nat) : Option TrapFrame :=
  (t.occupant? cpu).map (·.frame)

/-- Notes who runs on a processor from now on. -/
def setOccupant (t : Bench) (cpu : Nat) (o : Option Occupant) : Bench :=
  { t with occupants := t.occupants.setIfInBounds cpu o }

/-- A processor does what the kernel told it. -/
def enter (t : Bench) (cpu : Nat) :
    Resume × Kernel → Except KernelPanic (Option ProcessId) × Bench
  | (.user id frame, kernel) =>
    (.ok (some id), { t with kernel }.setOccupant cpu (some ⟨id, frame⟩))
  | (.idle, kernel) => (.ok none, { t with kernel }.setOccupant cpu none)
  | (.halt panic, kernel) => (.error panic, { t with kernel }.setOccupant cpu none)

/-- A processor does what the kernel told it, and whoever runs there then is told. -/
def enterNext (t : Bench) (cpu : Nat) (r : Resume × Kernel) : Option ProcessId × Bench :=
  match t.enter cpu r with
  | (.ok next, t) => (next, t)
  | (.error _, t) => (none, t)

/-- Loads the standard program into a new process. -/
def spawn (t : Bench) : Except KernelError ProcessId × Bench :=
  let (result, kernel) := t.kernel.spawn standardImage
  (result, { t with kernel })

/-! ### Finding something to run -/

/-- A processor without work asks the scheduler. -/
def start (t : Bench) (cpu : Nat) : Option ProcessId × Bench :=
  t.enterNext cpu (t.kernel.schedule cpu)

/-- The timer of a processor fires, in user code if a process runs there. -/
def timer (t : Bench) (cpu : Nat) : Option ProcessId × Bench :=
  let number := Irq.offset + Irq.timer
  let frame := match t.frame? cpu with
    | some f => { f with trapno := number }
    | none => .kernel number
  t.enterNext cpu (t.kernel.trap cpu frame)

/-- Fires the timer of a processor until `id` runs there, but at most so many times. -/
def runWithin (cpu : Nat) (id : ProcessId) : Nat → Bench → Bool × Bench
  | 0, t => (t.current? cpu = some id, t)
  | n + 1, t =>
    if t.current? cpu = some id then (true, t) else runWithin cpu id n (t.timer cpu).2

/-- Fires the timer of a processor until `id` runs there, for one pass over the process table and
one time more. -/
def runUntil (t : Bench) (cpu : Nat) (id : ProcessId) : Bool × Bench :=
  runWithin cpu id (t.kernel.config.maxProcesses + 1) t

/-! ### System calls -/

/-- A system call of the process that runs on a processor. -/
def call (t : Bench) (cpu : Nat) (c : Syscall) : Step × Bench :=
  match t.occupant? cpu with
  | none => (.switched none, t)
  | some caller =>
    let frame := { caller.frame.withCall c.encode with trapno := TrapNumber.syscall }
    match t.enter cpu (t.kernel.trap cpu frame) with
    | (.error panic, t) => (.halted panic, t)
    | (.ok now, t) =>
      if now = some caller.id then
        match t.frame? cpu with
        | some f => (.returned f.regs.eax.toInt32, t)
        | none => (.switched none, t)
      else (.switched now, t)

end Bench

end Exokernel
