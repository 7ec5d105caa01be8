/-
Loads and stores of user code on the bench.

An access that the machine refuses becomes a page fault. If the kernel enters the handler of the
process, the bench does what the handler's entry code would: it takes the fault frame from the
stack, mends the fault, restores the registers and tries again.

* `AccessError`: why an access comes to nothing;
* `Bench.resumeFaulting`: what the handler's entry code does;
* `Bench.load`, `Bench.store`: the accesses. An access is tried four times.
-/
import Exokernel.Bench.UserContext
import Exokernel.LibOS.CopyOnWrite

namespace Exokernel

/-- Why an access comes to nothing. -/
inductive AccessError where
  /-- No process runs on the processor. -/
  | idle
  /-- The kernel destroyed the process. -/
  | terminated
  /-- The handler refused the fault, and the process destroyed itself. -/
  | handler (e : LibError)
  /-- The processor stopped for good. -/
  | halted (panic : KernelPanic)
  deriving DecidableEq

namespace Bench

/-- How often an access is tried. -/
abbrev maxFaults : Nat := 4

/-- Puts a machine below the kernel. -/
def withMachine (t : Bench) (machine : Machine) : Bench :=
  { t with kernel := { t.kernel with machine } }

/-- Resumes the code that a fault interrupted. -/
def restore (f : TrapFrame) (fault : FaultFrame) : TrapFrame :=
  { f with regs := fault.regs, eip := fault.eip, eflags := fault.eflags, esp := fault.esp }

/-- What the entry code of the handler does for the process `id` with address space `s`, which has
just been resumed at its handler. -/
def resumeFaulting (t : Bench) (cpu : Nat) (id : ProcessId) (s : Nat) :
    Except AccessError Unit × Bench :=
  match UserContext.of? t cpu, t.frame? cpu with
  | some u, some entered =>
    if entered.eip.toNat = handlerEntry then
      match t.kernel.machine.userRead s ⟨entered.esp⟩ FaultFrame.size 0 with
      | .error _ => (.error .terminated, t)
      | .ok bytes =>
        let fault := FaultFrame.ofBytes bytes
        match (Program.mendCopyOnWrite fault).exec u with
        | (.error e, u) => (.error (.handler e), (u.bed.call cpu (.destroy .self)).2)
        | (.ok (), u) =>
          match u.bed.occupant? cpu with
          | none => (.error .terminated, u.bed)
          | some now =>
            if now.id = id then
              (.ok (), u.bed.setOccupant cpu (some ⟨id, restore now.frame fault⟩))
            else (.error .terminated, u.bed)
    else (.error .terminated, t)
  | _, _ => (.error .terminated, t)

variable {α : Type}

/-- Tries an access of the process on a processor, at most so many times. -/
def accessWithin (cpu : Nat) (op : Machine → Nat → Except MmuFault α × Machine) :
    Nat → Bench → Except AccessError α × Bench
  | 0, t => (.error .terminated, t)
  | n + 1, t =>
    match t.occupant? cpu with
    | none => (.error .idle, t)
    | some o =>
      match t.kernel.spaceOf? o.id with
      | none => (.error .terminated, t)
      | some s =>
        match op t.kernel.machine s with
        | (.ok a, machine) => (.ok a, t.withMachine machine)
        | (.error fault, machine) =>
          let t := t.withMachine (machine.latchFault cpu fault.va)
          let frame := { o.frame with trapno := TrapNumber.pageFault, err := fault.err }
          match t.enter cpu (t.kernel.trap cpu frame) with
          | (.error panic, t) => (.error (.halted panic), t)
          | (.ok now, t) =>
            if now = some o.id then
              match t.resumeFaulting cpu o.id s with
              | (.error e, t) => (.error e, t)
              | (.ok (), t) => accessWithin cpu op n t
            else (.error .terminated, t)

/-- Writes `data` at `va` as the process on a processor. -/
def store (t : Bench) (cpu : Nat) (va : VirtAddr) (data : List UInt8) :
    Except AccessError Unit × Bench :=
  accessWithin cpu (fun m s => m.userWrite s va data) maxFaults t

/-- Reads `len` bytes at `va` as the process on a processor. -/
def load (t : Bench) (cpu : Nat) (va : VirtAddr) (len : Nat) :
    Except AccessError (List UInt8) × Bench :=
  accessWithin cpu (fun m s => (m.userRead s va len 0, m)) maxFaults t

end Bench

end Exokernel
