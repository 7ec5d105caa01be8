/-
The fault handler that makes copies of pages when they are written.

* `Program.installHandler`: gives the process an exception stack, if it has none, and sets its
  handler;
* `Program.mendCopyOnWrite`: mends a write to a page that is to be copied first, by a private copy
  that is prepared at the scratch page. It refuses every other fault.
-/
import Exokernel.LibOS.Host
import Exokernel.Trap.FaultFrame

namespace Exokernel.Program

open Layout

variable {σ : Type} [Host σ]

/-- The page of the exception stack. -/
def exceptionStack : VirtAddr := .ofNat exceptionStackBottom

/-- Sets the process's fault handler, with an exception stack for it to run on. -/
def installHandler : Program σ Unit := do
  if (← perm? exceptionStack).isNone then
    pageAlloc .self exceptionStack .userWrite
  setFaultHandler .self (← handlerEntry)

/-- Gives the process a private copy of the page that it tried to write. A fault that is no write,
or on a page that is not to be copied, is refused. -/
def mendCopyOnWrite (f : FaultFrame) : Program σ Unit := do
  let va := (VirtAddr.mk f.faultVa).pageBase
  let toCopy := (← perm? va).any (·.contains .copyOnWrite)
  if f.err &&& FaultCode.write = 0 ∨ ¬ toCopy then
    throw (.unexpectedFault f.faultVa f.err f.eip)
  let scratch := VirtAddr.ofNat scratchPage
  pageAlloc .self scratch .userWrite
  copyPage scratch va
  pageMap .self scratch .self va .userWrite
  pageUnmap .self scratch

end Exokernel.Program
