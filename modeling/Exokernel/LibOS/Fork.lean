/-
A process that splits in two.

Parent and child share all pages at first. Pages that either of them may write become read-only in
both and are copied when they are written; pages that are marked as shared stay as they are.

* `Fork`: on which side of a fork the code finds itself;
* `Program.duplicate`: one page of the parent in the child. The child is given its mapping first, so
  that no write of the parent in between shows in it;
* `Program.fork`: all pages, but for the exception stack, of which the child gets a fresh one. The
  child runs only when its memory is complete.
-/
import Exokernel.LibOS.CopyOnWrite

namespace Exokernel

/-- On which side of a fork the code finds itself. -/
inductive Fork where
  | parent (child : ProcessId)
  | child
  deriving DecidableEq

/-- What the answer of an exofork tells: zero in the child, and the child's identity in the
parent. -/
def Fork.ofAnswer (answer : Int32) : Except KernelError Fork :=
  match decodeResult answer with
  | .error e => .error e
  | .ok v => .ok (if v = 0 then .child else .parent ⟨v⟩)

namespace Program

variable {σ : Type} [Host σ]

/-- Makes a blank child. -/
def exofork : Program σ Fork := do
  match Fork.ofAnswer (← raw .exofork) with
  | .ok side => return side
  | .error e => throw (.kernel e)

/-- The permissions with which a page is shared until it is written. -/
def readOnlyCopy (perm : Perm) : Perm := (perm - .writable) ||| .copyOnWrite

/-- Shows the page at `va`, which the process has with `perm`, also in `child`. -/
def duplicate (child : ProcessId) (va : VirtAddr) (perm : Perm) : Program σ Unit :=
  let perm := perm &&& .requestable
  if perm.contains .share then pageMap .self va child va perm
  else if perm.meets (.writable ||| .copyOnWrite) then do
    pageMap .self va child va (readOnlyCopy perm)
    pageMap .self va .self va (readOnlyCopy perm)
  else pageMap .self va child va perm

/-- Shows several pages also in `child`, one after the other, and leaves out the exception stack. -/
def duplicateAll (child : ProcessId) : List (VirtAddr × Perm) → Program σ Unit
  | [] => return
  | (va, perm) :: rest => do
    if va ≠ exceptionStack then duplicate child va perm
    duplicateAll child rest

/-- Splits the process in two. -/
def fork : Program σ Fork := do
  installHandler
  match ← exofork with
  | .child => return .child
  | .parent child =>
    duplicateAll child (← pages)
    pageAlloc child exceptionStack .userWrite
    setFaultHandler child (← handlerEntry)
    setStatus child .runnable
    return .parent child

end Program

end Exokernel
