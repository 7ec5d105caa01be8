/-
Traps: how a processor enters the kernel, and how it leaves.

* `Kernel.acknowledgeInterrupt`: services an interrupt and tells the interrupt controller;
* `Kernel.preempt`: takes a processor from its process, which stays ready to run;
* `Kernel.userTrap`, `Kernel.kernelTrap`: a trap out of user code, and one that a halted processor
  takes inside the kernel;
* `Kernel.trap`: any trap. A trap never returns into the kernel: what comes out is what the
  processor does next.
-/
import Exokernel.Kernel.Dispatch
import Exokernel.Kernel.Fault
import Exokernel.Kernel.Schedule

namespace Exokernel.Kernel

/-! ### Interrupts -/

/-- Services an interrupt. -/
def serviceInterrupt (k : Kernel) (cpu : Nat) : TrapCause → Kernel
  | .timer => if cpu = Machine.bootCpu then { k with machine := k.machine.tick } else k
  | .spurious => k.log .info s!"spurious interrupt on irq {Irq.spurious}"
  | .device line =>
    match k.machine.service line with
    | .ok machine => { k with machine }
    | .error e => k.log .warn s!"irq {line}: {e.message}"
  | _ => k

/-- Services an interrupt and tells the interrupt controller of the processor. -/
def acknowledgeInterrupt (k : Kernel) (cpu : Nat) (cause : TrapCause) : Kernel :=
  let k := k.serviceInterrupt cpu cause
  { k with machine := k.machine.acknowledge cpu }

/-- Takes a processor from the process that it runs, which stays ready to run. -/
def preempt (k : Kernel) (cpu : Nat) (id : ProcessId) : Kernel :=
  match k.live? id with
  | none => k.clearStale cpu id
  | some _ =>
    let k := k.modify id fun p =>
      if p.status = .running ∧ p.resident = some cpu then { p with status := .runnable } else p
    k.unbind cpu id

/-! ### Out of user code -/

/-- Whether a process is live and bound to a processor. -/
def isBound (k : Kernel) (cpu : Nat) (id : ProcessId) : Bool :=
  (k.live? id).any (·.resident = some cpu)

/-- Handles a trap that the bound process `id` took with registers `f`. -/
def handle (k : Kernel) (cpu : Nat) (id : ProcessId) (f : TrapFrame) : Flow × Kernel :=
  match TrapCause.ofNumber f.trapno with
  | .pageFault => k.pageFault cpu id f
  | .syscall => k.systemCall cpu id
  | .timer => (.switch, (k.acknowledgeInterrupt cpu .timer).preempt cpu id)
  | .unexpected trapno =>
    let k := k.log .error s!"[{id}] unhandled trap {trapno} ({trapName trapno})\n{f.text}"
    let k := k.auditTermination id (.unhandledTrap trapno f.eip)
    k.destroyOn cpu id
  | cause => (.stay, k.acknowledgeInterrupt cpu cause)

/-- Goes on with the process `id`, if it may and still runs, and with another otherwise. -/
def leave (k : Kernel) (cpu : Nat) (id : ProcessId) : Flow → Resume × Kernel
  | .switch => (k.clearStale cpu id).schedule cpu
  | .stay =>
    match k.live? id with
    | none => (k.clearStale cpu id).schedule cpu
    | some p =>
      if p.status = .running ∧ p.resident = some cpu then (.user id p.frame, k)
      else (k.unbind cpu id).schedule cpu

/-- A trap that user code took with registers `f` on a processor that has `current` bound. -/
def userTrap (k : Kernel) (cpu : Nat) (current : Option ProcessId) (f : TrapFrame) :
    Resume × Kernel :=
  match current with
  | none =>
    let panic := KernelPanic.userTrapWithoutProcess cpu f.trapno
    (.halt panic, k.log .fatal panic.message)
  | some id =>
    if k.isBound cpu id then
      let k := k.modify id fun p => { p with frame := f }
      let (flow, k) := k.handle cpu id f
      k.leave cpu id flow
    else
      let k := k.log .debug s!"cpu {cpu}: {id} is gone"
      let k := k.clearStale cpu id
      let cause := TrapCause.ofNumber f.trapno
      let k := if cause.isInterrupt then k.acknowledgeInterrupt cpu cause else k
      k.schedule cpu

/-! ### Inside the kernel -/

/-- Why a processor stops that takes a trap inside the kernel that is no interrupt. -/
def kernelPanic (k : Kernel) (cpu : Nat) (f : TrapFrame) : KernelPanic :=
  if TrapCause.ofNumber f.trapno = .pageFault then
    .kernelPageFault (k.machine.faultAddress cpu) f.eip
  else .unhandledKernelTrap f.trapno f.eip

/-- A trap that a processor takes inside the kernel, where it only waits for work. -/
def kernelTrap (k : Kernel) (cpu : Nat) (current : Option ProcessId) (f : TrapFrame) :
    Resume × Kernel :=
  let cause := TrapCause.ofNumber f.trapno
  if cause.isInterrupt then
    let k := k.acknowledgeInterrupt cpu cause
    let k := match current with
      | none => k
      | some id => k.preempt cpu id
    k.schedule cpu
  else
    let panic := k.kernelPanic cpu f
    (.halt panic, k.log .fatal s!"{panic.message}\n{f.text}")

/-! ### Any trap -/

/-- **A processor takes a trap** with registers `f`. -/
def trap (k : Kernel) (cpu : Nat) (f : TrapFrame) : Resume × Kernel :=
  match k.cpus[cpu]? with
  | none => (.halt (.unknownCpu cpu), k)
  | some c =>
    let k := k.modifyCpu cpu fun c => { c with traps := c.traps + 1 }
    if f.isUser then k.userTrap cpu c.current f else k.kernelTrap cpu c.current f

end Exokernel.Kernel
