/-
User code on the bench: a process that runs on one of its processors, as a host.

* `UserContext`: the bench, the processor and the process;
* `UserContext.trap`: a system call that switches to another process is waited out, by firing timers
  until the caller runs again. A caller that does not come back is told that there is no such
  process;
* `UserContext.copyPage`: copies memory as user code does, through the permissions of its pages.
-/
import Exokernel.Bench
import Exokernel.LibOS.Host

namespace Exokernel

open Layout

/-- A process on a processor of the bench. -/
structure UserContext where
  bed : Bench
  cpu : Nat
  process : ProcessId

namespace UserContext

/-- The process that runs on a processor, if there is one. -/
def of? (bed : Bench) (cpu : Nat) : Option UserContext :=
  (bed.current? cpu).map fun process => ⟨bed, cpu, process⟩

/-- The address space of the process, while it is live. -/
def space? (u : UserContext) : Option Nat := u.bed.kernel.spaceOf? u.process

/-- The answer that a caller finds which has vanished. -/
def goneAnswer : Int32 := KernelError.badProcess.code

/-- A system call, until the process runs again. -/
def trap (c : Syscall) (u : UserContext) : Int32 × UserContext :=
  match u.bed.call u.cpu c with
  | (.returned answer, bed) => (answer, { u with bed })
  | (.halted _, bed) => (goneAnswer, { u with bed })
  | (.switched _, bed) =>
    match bed.runUntil u.cpu u.process with
    | (false, bed) => (goneAnswer, { u with bed })
    | (true, bed) =>
      match bed.frame? u.cpu with
      | none => (goneAnswer, { u with bed })
      | some f => (f.regs.eax.toInt32, { u with bed })

/-- The permissions of the process's mapping at an address. -/
def perm? (u : UserContext) (va : VirtAddr) : Option Perm :=
  u.space?.bind fun s => (u.bed.kernel.machine.lookup? s va).map (·.perm)

/-- The process's pages below `Layout.userTop`. -/
def pages (u : UserContext) : List (VirtAddr × Perm) :=
  match u.space? with
  | none => []
  | some s =>
    ((u.bed.kernel.machine.userPages s).filter fun (va, _) => va.toNat < userTop).map
      fun (va, e) => (va, e.perm)

/-- A refused access, as the code that made it is told. -/
def refusal (u : UserContext) (fault : MmuFault) : LibError :=
  .unexpectedFault fault.va.word fault.err (((u.bed.frame? u.cpu).map (·.eip)).getD 0)

/-- Copies a page of the process's memory. -/
def copyPage (dst src : VirtAddr) (u : UserContext) : Except LibError Unit × UserContext :=
  match u.space? with
  | none => (.error (.kernel .badProcess), u)
  | some s =>
    match u.bed.kernel.machine.userRead s src pageSize 0 with
    | .error fault => (.error (u.refusal fault), u)
    | .ok bytes =>
      match u.bed.kernel.machine.userWrite s dst bytes with
      | (.error fault, machine) =>
        (.error (u.refusal fault),
          { u with bed := { u.bed with kernel := { u.bed.kernel with machine } } })
      | (.ok (), machine) =>
        (.ok (), { u with bed := { u.bed with kernel := { u.bed.kernel with machine } } })

/-- The mailbox of the process, while it is live. -/
def mailbox (u : UserContext) : Mailbox :=
  ((u.bed.kernel.live? u.process).map (·.mailbox)).getD {}

instance : Host UserContext where
  trap := trap
  perm? := perm?
  pages := pages
  copyPage := copyPage
  mailbox := mailbox
  handlerEntry _ := .ofNat Bench.handlerEntry

end UserContext

end Exokernel
