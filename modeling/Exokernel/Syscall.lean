/-
System calls.

* `SyscallNumber`: the numbers of the calls;
* `Syscall`: a call that has been understood;
* `Syscall.decode`, `Syscall.encode`: a call out of the registers and back into them. An optional
  page is told by an address, of which `noPage` says that there is none;
* `Syscall.name`: the name of a call in the log.
-/
import Exokernel.Error
import Exokernel.Process.Status
import Exokernel.Trap.Frame

namespace Exokernel

namespace SyscallNumber

abbrev putString : UInt32 := 0
abbrev getId : UInt32 := 1
abbrev destroy : UInt32 := 2
abbrev yield : UInt32 := 3
abbrev exofork : UInt32 := 4
abbrev setStatus : UInt32 := 5
abbrev setFrame : UInt32 := 6
abbrev setFaultHandler : UInt32 := 7
abbrev pageAlloc : UInt32 := 8
abbrev pageMap : UInt32 := 9
abbrev pageUnmap : UInt32 := 10
abbrev trySend : UInt32 := 11
abbrev receive : UInt32 := 12
abbrev time : UInt32 := 13

end SyscallNumber

/-- The address that stands for no page. -/
abbrev noPage : UInt32 := 0xFFFFFFFF

/-- A system call. -/
inductive Syscall where
  /-- Print `len` bytes at `va`. -/
  | putString (va : VirtAddr) (len : UInt32)
  /-- The caller's own identity. -/
  | getId
  /-- Destroy `target`, the caller or a child of its. -/
  | destroy (target : ProcessId)
  /-- Give up the processor. -/
  | yield
  /-- Make a blank child that resumes from the caller's registers. -/
  | exofork
  /-- Make `target` runnable or not. -/
  | setStatus (target : ProcessId) (status : ProcessStatus)
  /-- Replace the saved registers of `target` by the frame at `frameVa` in the caller's memory. -/
  | setFrame (target : ProcessId) (frameVa : VirtAddr)
  /-- Set where `target` handles its page faults. -/
  | setFaultHandler (target : ProcessId) (entry : VirtAddr)
  /-- Map a fresh page of zeros at `va` in `target`. -/
  | pageAlloc (target : ProcessId) (va : VirtAddr) (perm : Perm)
  /-- Map the page of `src` at `srcVa` in `dst` at `dstVa`. -/
  | pageMap (src : ProcessId) (srcVa : VirtAddr) (dst : ProcessId) (dstVa : VirtAddr) (perm : Perm)
  /-- Remove the mapping at `va` in `target`. -/
  | pageUnmap (target : ProcessId) (va : VirtAddr)
  /-- Deliver `value`, and possibly a page, to `target` if it is waiting. -/
  | trySend (target : ProcessId) (value : UInt32) (srcVa : Option VirtAddr) (perm : Perm)
  /-- Wait for a message, taking a page at `dstVa`. -/
  | receive (dstVa : Option VirtAddr)
  /-- Milliseconds since the start. -/
  | time
  deriving DecidableEq

namespace Syscall

/-- The page that an argument names. -/
def pageArg (w : UInt32) : Option VirtAddr :=
  if w = noPage then none else some ⟨w⟩

/-- The argument that names a page. -/
def pageWord : Option VirtAddr → UInt32
  | none => noPage
  | some va => va.word

/-- The call that the registers carry. It is refused if there is no call of that number, or if it
names a status that does not exist. -/
def decode (c : RawCall) : Except KernelError Syscall :=
  if c.number = SyscallNumber.putString then .ok (.putString ⟨c.a1⟩ c.a2)
  else if c.number = SyscallNumber.getId then .ok .getId
  else if c.number = SyscallNumber.destroy then .ok (.destroy ⟨c.a1⟩)
  else if c.number = SyscallNumber.yield then .ok .yield
  else if c.number = SyscallNumber.exofork then .ok .exofork
  else if c.number = SyscallNumber.setStatus then
    match ProcessStatus.ofNumber? c.a2 with
    | some status => .ok (.setStatus ⟨c.a1⟩ status)
    | none => .error .invalidArgument
  else if c.number = SyscallNumber.setFrame then .ok (.setFrame ⟨c.a1⟩ ⟨c.a2⟩)
  else if c.number = SyscallNumber.setFaultHandler then .ok (.setFaultHandler ⟨c.a1⟩ ⟨c.a2⟩)
  else if c.number = SyscallNumber.pageAlloc then .ok (.pageAlloc ⟨c.a1⟩ ⟨c.a2⟩ ⟨c.a3⟩)
  else if c.number = SyscallNumber.pageMap then
    .ok (.pageMap ⟨c.a1⟩ ⟨c.a2⟩ ⟨c.a3⟩ ⟨c.a4⟩ ⟨c.a5⟩)
  else if c.number = SyscallNumber.pageUnmap then .ok (.pageUnmap ⟨c.a1⟩ ⟨c.a2⟩)
  else if c.number = SyscallNumber.trySend then
    .ok (.trySend ⟨c.a1⟩ c.a2 (pageArg c.a3) ⟨c.a4⟩)
  else if c.number = SyscallNumber.receive then .ok (.receive (pageArg c.a1))
  else if c.number = SyscallNumber.time then .ok .time
  else .error .invalidArgument

/-- The call as the registers carry it; arguments that it does not use are zero. -/
def encode : Syscall → RawCall
  | .putString va len => { number := SyscallNumber.putString, a1 := va.word, a2 := len }
  | .getId => { number := SyscallNumber.getId }
  | .destroy target => { number := SyscallNumber.destroy, a1 := target.raw }
  | .yield => { number := SyscallNumber.yield }
  | .exofork => { number := SyscallNumber.exofork }
  | .setStatus target status =>
    { number := SyscallNumber.setStatus, a1 := target.raw, a2 := status.number }
  | .setFrame target frameVa =>
    { number := SyscallNumber.setFrame, a1 := target.raw, a2 := frameVa.word }
  | .setFaultHandler target entry =>
    { number := SyscallNumber.setFaultHandler, a1 := target.raw, a2 := entry.word }
  | .pageAlloc target va perm =>
    { number := SyscallNumber.pageAlloc, a1 := target.raw, a2 := va.word, a3 := perm.bits }
  | .pageMap src srcVa dst dstVa perm =>
    { number := SyscallNumber.pageMap, a1 := src.raw, a2 := srcVa.word, a3 := dst.raw,
      a4 := dstVa.word, a5 := perm.bits }
  | .pageUnmap target va =>
    { number := SyscallNumber.pageUnmap, a1 := target.raw, a2 := va.word }
  | .trySend target value srcVa perm =>
    { number := SyscallNumber.trySend, a1 := target.raw, a2 := value, a3 := pageWord srcVa,
      a4 := perm.bits }
  | .receive dstVa => { number := SyscallNumber.receive, a1 := pageWord dstVa }
  | .time => { number := SyscallNumber.time }

/-- The name of a call in the log. -/
def name : Syscall → String
  | .putString .. => "cputs"
  | .getId => "getenvid"
  | .destroy .. => "env_destroy"
  | .yield => "yield"
  | .exofork => "exofork"
  | .setStatus .. => "env_set_status"
  | .setFrame .. => "env_set_trapframe"
  | .setFaultHandler .. => "env_set_pgfault_upcall"
  | .pageAlloc .. => "page_alloc"
  | .pageMap .. => "page_map"
  | .pageUnmap .. => "page_unmap"
  | .trySend .. => "ipc_try_send"
  | .receive .. => "ipc_recv"
  | .time => "time_msec"

theorem pageArg_pageWord {va : Option VirtAddr} (h : va ≠ some ⟨noPage⟩) :
    pageArg (pageWord va) = va := by
  match va with
  | none => rfl
  | some ⟨w⟩ => simp_all [pageArg, pageWord]

theorem pageWord_pageArg (w : UInt32) : pageWord (pageArg w) = w := by
  simp only [pageArg]
  split <;> simp_all [pageWord]

end Syscall

end Exokernel
