/-
Who runs next.

* `Resume`, `KernelPanic`: what a processor does when the kernel is done, and why it may have to
  stop for good;
* `Kernel.dispatch`: binds a process to a processor and loads its address space;
* `Kernel.schedule`: dispatches the first process on a lap around the table that is runnable and not
  bound. The idle process in slot 0 gets a processor only if there is no other, and a processor for
  which there is nothing at all halts until the next interrupt.
-/
import Exokernel.Kernel.Basic
import Exokernel.Schedule.Lap

namespace Exokernel

/-- Why a processor stops for good. -/
inductive KernelPanic where
  /-- The kernel itself took a page fault. -/
  | kernelPageFault (va : VirtAddr) (eip : UInt32)
  /-- The kernel itself took a trap that is no interrupt. -/
  | unhandledKernelTrap (trapno eip : UInt32)
  /-- User code took a trap on a processor that has no process bound. -/
  | userTrapWithoutProcess (cpu : Nat) (trapno : UInt32)
  /-- The kernel has no record of this processor. -/
  | unknownCpu (cpu : Nat)
  deriving DecidableEq

/-- The reason in words. -/
def KernelPanic.message : KernelPanic → String
  | .kernelPageFault va eip => s!"kernel page fault at {va} (eip {Text.hexWord eip})"
  | .unhandledKernelTrap trapno eip =>
    s!"unhandled trap {trapno} ({trapName trapno}) in kernel at {Text.hexWord eip}"
  | .userTrapWithoutProcess cpu trapno => s!"cpu {cpu}: user trap {trapno} with no current process"
  | .unknownCpu cpu => s!"unknown cpu {cpu}"

/-- What a processor does when the kernel is done. -/
inductive Resume where
  /-- It runs a process with these registers. -/
  | user (process : ProcessId) (frame : TrapFrame)
  /-- It halts until the next interrupt. -/
  | idle
  /-- It stops for good. -/
  | halt (panic : KernelPanic)
  deriving DecidableEq

namespace Kernel

/-- The slot of the idle process. -/
abbrev idleSlot : Nat := 0

/-- Whether the process in a slot may be dispatched. -/
def dispatchable (k : Kernel) (slot : Nat) : Bool :=
  k.table.records[slot]?.any Process.dispatchable

/-- Binds the process in a slot to a processor. -/
def dispatch (k : Kernel) (cpu slot : Nat) : Resume × Kernel :=
  match k.table.records[slot]? with
  | none => (.idle, k)
  | some p =>
    let k := { k with table := k.table.modify slot fun p =>
      { p with status := .running, resident := some cpu, runs := p.runs + 1 } }
    let k := k.activate cpu p.space
    let k := k.modifyCpu cpu fun c => { c with current := some p.id }
    (.user p.id p.frame, k.log .trace s!"cpu {cpu}: run {p.id}")

/-- The next slot on the lap whose process may be dispatched. -/
def nextSlot? (k : Kernel) : Option Nat :=
  (Lap.start k.table.cursor k.table.capacity).slots.find? k.dispatchable

/-- Finds the next process for a processor that has given up what it ran. -/
def schedule (k : Kernel) (cpu : Nat) : Resume × Kernel :=
  if cpu < k.cpus.size then
    match k.nextSlot? with
    | some slot => { k with table := { k.table with cursor := slot } }.dispatch cpu slot
    | none =>
      if 0 < k.config.idlePollLimit ∧ k.dispatchable idleSlot then k.dispatch cpu idleSlot
      else
        let k := k.log .trace s!"cpu {cpu}: nothing to run, halting"
        (.idle, k.activate cpu none)
  else (.halt (.unknownCpu cpu), k)

end Kernel

end Exokernel
