/-
What user code runs on, and the system calls as it makes them.

* `Host`: what a process can do and see without the kernel's leave: it can trap, it sees its own
  page table and its own mailbox, and it can copy its own memory. A real process is a host, and a
  scripted one for trials is as well, so that the same code runs on both;
* `Program`: user code on a host. What it did before it failed stays done;
* `Program.ask`: a system call with its answer told back, and one function for each call.
-/
import Exokernel.Syscall

namespace Exokernel

/-- Why user code fails. -/
inductive LibError where
  /-- A system call failed. -/
  | kernel (e : KernelError)
  /-- The fault handler was entered for a fault that it does not mend. -/
  | unexpectedFault (va err eip : UInt32)
  deriving DecidableEq

/-- The error in words. -/
def LibError.message : LibError → String
  | .kernel e => e.message
  | .unexpectedFault va err eip =>
    s!"unexpected fault va {Text.hexWord va} err {Text.hexCode err} ip {Text.hexWord eip}"

/-- What user code runs on. -/
class Host (σ : Type) where
  /-- Traps into the kernel; gives what the call left behind. -/
  trap : Syscall → σ → Int32 × σ
  /-- The permissions of the process's own mapping at an address. -/
  perm? : σ → VirtAddr → Option Perm
  /-- The process's own pages below `Layout.userTop`, in ascending order. -/
  pages : σ → List (VirtAddr × Perm)
  /-- Copies a page of the process's own memory, to the first address from the second. -/
  copyPage : VirtAddr → VirtAddr → σ → Except LibError Unit × σ
  /-- The process's own mailbox. -/
  mailbox : σ → Mailbox
  /-- Where the code lies that enters the fault handler and resumes after it. -/
  handlerEntry : σ → VirtAddr

/-- User code on a host. -/
abbrev Program (σ : Type) (α : Type) := ExceptT LibError (StateM σ) α

namespace Program

variable {σ : Type} [Host σ]

/-- Runs user code from a state of its host on. -/
def exec {α : Type} (p : Program σ α) (s : σ) : Except LibError α × σ :=
  (ExceptT.run p).run s

/-- A system call, with what it left behind. -/
def raw (c : Syscall) : Program σ Int32 :=
  ExceptT.lift (Host.trap c)

/-- A system call, with the answer that it tells. -/
def ask (c : Syscall) : Program σ UInt32 := do
  match decodeResult (← raw c) with
  | .ok v => return v
  | .error e => throw (.kernel e)

/-- A system call whose answer tells no more than that it succeeded. -/
def request (c : Syscall) : Program σ Unit := do
  let _ ← ask c

/-! ### The calls -/

/-- Prints `len` bytes at `va`. -/
def putString (va : VirtAddr) (len : UInt32) : Program σ Unit := request (.putString va len)

/-- The process's own identity. -/
def getId : Program σ ProcessId := do
  return ⟨(← raw .getId).toUInt32⟩

/-- Destroys a process. -/
def destroy (target : ProcessId) : Program σ Unit := request (.destroy target)

/-- Gives up the processor for a while. -/
def yield : Program σ Unit := do
  let _ ← raw .yield

/-- Lets a process run or holds it. -/
def setStatus (target : ProcessId) (status : ProcessStatus) : Program σ Unit :=
  request (.setStatus target status)

/-- Replaces the registers of a process by a frame in memory. -/
def setFrame (target : ProcessId) (frameVa : VirtAddr) : Program σ Unit :=
  request (.setFrame target frameVa)

/-- Sets where a process handles its page faults. -/
def setFaultHandler (target : ProcessId) (entry : VirtAddr) : Program σ Unit :=
  request (.setFaultHandler target entry)

/-- Maps a fresh page of zeros. -/
def pageAlloc (target : ProcessId) (va : VirtAddr) (perm : Perm) : Program σ Unit :=
  request (.pageAlloc target va perm)

/-- Shows a page of one process in another. -/
def pageMap (src : ProcessId) (srcVa : VirtAddr) (dst : ProcessId) (dstVa : VirtAddr)
    (perm : Perm) : Program σ Unit :=
  request (.pageMap src srcVa dst dstVa perm)

/-- Takes a page away. -/
def pageUnmap (target : ProcessId) (va : VirtAddr) : Program σ Unit :=
  request (.pageUnmap target va)

/-- Tries once to send a message; tells whether a page went with it. -/
def trySend (target : ProcessId) (value : UInt32) (srcVa : Option VirtAddr) (perm : Perm) :
    Program σ Bool := do
  return (← ask (.trySend target value srcVa perm)) = 1

/-- Waits for a message. -/
def wait (dstVa : Option VirtAddr) : Program σ Unit := request (.receive dstVa)

/-- Milliseconds since the start. -/
def time : Program σ UInt32 := do
  return (← raw .time).toUInt32

/-! ### What a process sees of itself -/

/-- The permissions of the process's own mapping at an address. -/
def perm? (va : VirtAddr) : Program σ (Option Perm) := do
  return Host.perm? (← get) va

/-- The process's own pages below `Layout.userTop`. -/
def pages : Program σ (List (VirtAddr × Perm)) := do
  return Host.pages (← get)

/-- Copies a page of the process's own memory. -/
def copyPage (dst src : VirtAddr) : Program σ Unit :=
  ExceptT.mk (Host.copyPage dst src)

/-- The process's own mailbox. -/
def mailbox : Program σ Mailbox := do
  return Host.mailbox (← get)

/-- Where the code lies that enters the fault handler. -/
def handlerEntry : Program σ VirtAddr := do
  return Host.handlerEntry (← get)

end Program

end Exokernel
