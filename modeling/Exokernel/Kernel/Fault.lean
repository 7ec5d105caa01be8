/-
Page faults of user code.

A process that has set a handler is told of its own faults: the kernel writes a fault frame on the
exception stack of the process and resumes the process at its handler. A process that cannot be told
is destroyed.

* `UpcallFailure`: why a process cannot be told;
* `Kernel.reflectFault`: tells it;
* `Kernel.pageFault`: tells it, or destroys it.
-/
import Exokernel.Kernel.Lifecycle

namespace Exokernel

open Layout

/-- Why a process cannot be told of its page fault. -/
inductive UpcallFailure where
  /-- It has set no handler. -/
  | noHandler
  /-- Its exception stack is not there or cannot be written. -/
  | noExceptionStack
  /-- It may not run the code at the address of its handler. -/
  | badEntry (va : VirtAddr)
  /-- Its exception stack is full. -/
  | exceptionStackOverflow
  /-- It has vanished. -/
  | gone
  deriving DecidableEq

/-- The failure in words. -/
def UpcallFailure.message : UpcallFailure → String
  | .noHandler => "no page fault upcall"
  | .noExceptionStack => "exception stack not writable"
  | .badEntry va => s!"upcall entry {va} not accessible"
  | .exceptionStackOverflow => "exception stack overflow"
  | .gone => "process gone"

namespace Kernel

/-- Checks that a process may be told of a fault that saved `f`, and finds the place for the
frame. -/
def planUpcall (m : Machine) (s : Nat) (entry : VirtAddr) (f : TrapFrame) :
    Except UpcallFailure UpcallPlan :=
  match m.checkUser s (.ofNat (exceptionStackTop - 1)) 1 .writable with
  | .error _ => .error .noExceptionStack
  | .ok () =>
    match m.checkUser s entry 1 .none with
    | .error _ => .error (.badEntry entry)
    | .ok () =>
      match UpcallPlan.ofStackPointer f.esp with
      | .error _ => .error .exceptionStackOverflow
      | .ok plan => .ok plan

/-- Tells the process `id` of a fault at `faultVa` that saved `f`: the fault frame goes on its
exception stack, and the process resumes at its handler. Gives the address of the frame. -/
def reflectFault (k : Kernel) (id : ProcessId) (f : TrapFrame) (faultVa : VirtAddr) :
    Except UpcallFailure VirtAddr × Kernel :=
  match k.live? id with
  | none => (.error .gone, k)
  | some p =>
    match p.faultHandler, p.space with
    | none, _ => (.error .noHandler, k)
    | some _, none => (.error .gone, k)
    | some entry, some s =>
      match planUpcall k.machine s entry f with
      | .error e => (.error e, k)
      | .ok plan =>
        match k.machine.copyOut s plan.frameVa (FaultFrame.ofTrap f faultVa.word).toBytes with
        | (.error _, machine) => (.error .noExceptionStack, { k with machine })
        | (.ok (), machine) =>
          (.ok plan.frameVa, { k with machine }.modify id fun p =>
            { p with frame := { p.frame with eip := entry.word, esp := plan.frameVa.word } })

/-- Handles a page fault that the process `id` took on processor `cpu`. -/
def pageFault (k : Kernel) (cpu : Nat) (id : ProcessId) (f : TrapFrame) : Flow × Kernel :=
  let faultVa := k.machine.faultAddress cpu
  let place := s!"fault va {faultVa} ip {Text.hexWord f.eip}"
  match k.reflectFault id f faultVa with
  | (.ok frameVa, k) => (.stay, k.log .debug s!"[{id}] {place} -> upcall, frame at {frameVa}")
  | (.error e, k) =>
    let k := k.log .warn s!"[{id}] user {place}: {e.message}"
    let k := k.auditTermination id (.pageFault faultVa.word f.eip)
    k.destroyOn cpu id

end Kernel

end Exokernel
