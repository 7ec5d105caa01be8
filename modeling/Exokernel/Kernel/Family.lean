/-
System calls by which a process rules over itself and its children.

* `Kernel.exofork`: a blank child with the registers of the caller;
* `Kernel.setStatus`: lets a process run or holds it;
* `Kernel.setFrame`, `Kernel.setFaultHandler`: the registers that it resumes with, and where it
  handles its page faults;
* `Kernel.readCaller`: a buffer of the caller, which has to be one that the caller could read
  itself.
-/
import Exokernel.Kernel.Lifecycle
import Exokernel.Text.Utf8

namespace Exokernel

/-- Why a call on a buffer of the caller comes to nothing. -/
inductive BufferError where
  /-- The call fails with an error. -/
  | kernel (e : KernelError)
  /-- The caller may not use the byte at this address of its buffer. -/
  | inaccessible (va : VirtAddr)
  deriving DecidableEq

namespace Kernel

/-- Makes a child of `caller` that is held, and that resumes where the caller does, with zero for an
answer. -/
def exofork (k : Kernel) (caller : ProcessId) : Except KernelError (UInt32 × Kernel) := do
  let parent ← k.table.get caller
  let (child, k) ← k.allocateAs caller .notRunnable
  let k := k.modify child fun p => { p with frame := parent.frame.withResult 0 }
  return (child.raw, k.log .debug s!"[{caller}] exofork -> {child}")

/-- The record of a process that is let run, or held. One that runs and is let run goes on as it
is; one that is let run waits for no message any more. -/
def withStatus (p : Process) (status : ProcessStatus) : Process :=
  if p.status = .running ∧ status = .runnable then p
  else if status = .runnable then
    { p with status, mailbox := { p.mailbox with receiving := false } }
  else { p with status }

/-- Lets `target` run, or holds it. -/
def setStatus (k : Kernel) (caller target : ProcessId) (status : ProcessStatus) :
    Except KernelError Kernel := do
  if status = .runnable ∨ status = .notRunnable then
    let target ← k.resolve caller target true
    let _ ← k.table.get target
    return k.modify target (withStatus · status)
  else throw .invalidArgument

/-- Sets where `target` handles its page faults. -/
def setFaultHandler (k : Kernel) (caller target : ProcessId) (entry : VirtAddr) :
    Except KernelError Kernel := do
  let target ← k.resolve caller target true
  let _ ← k.table.get target
  return k.modify target fun p => { p with faultHandler := some entry }

/-- The `len` bytes at `va` in the memory of `caller`, if the caller could read them itself. -/
def readCaller (k : Kernel) (caller : ProcessId) (va : VirtAddr) (len : Nat) :
    Except BufferError (List UInt8) :=
  match k.spaceOf? caller with
  | none => .error (.kernel .badProcess)
  | some s =>
    match k.machine.checkUser s va len .none with
    | .error bad => .error (.inaccessible bad)
    | .ok () =>
      match k.machine.copyIn s va len 0 with
      | .error bad => .error (.inaccessible bad)
      | .ok bytes => .ok bytes

/-- Replaces the registers of `target` by the frame at `frameVa` in the memory of `caller`, as far
as user code may choose them. -/
def setFrame (k : Kernel) (caller target : ProcessId) (frameVa : VirtAddr) :
    Except BufferError Kernel :=
  match k.resolve caller target true with
  | .error e => .error (.kernel e)
  | .ok target =>
    match k.readCaller caller frameVa TrapFrame.size with
    | .error e => .error e
    | .ok bytes =>
      match k.live? target with
      | none => .error (.kernel .badProcess)
      | some _ =>
        .ok (k.modify target fun p => { p with frame := (TrapFrame.ofBytes bytes).forUser })

/-- Prints `len` bytes at `va` in the memory of `caller`. -/
def putString (k : Kernel) (caller : ProcessId) (va : VirtAddr) (len : UInt32) :
    Except BufferError Kernel :=
  match k.readCaller caller va len.toNat with
  | .error e => .error e
  | .ok bytes => .ok (k.print (Text.decodeUtf8 bytes))

end Kernel

end Exokernel
