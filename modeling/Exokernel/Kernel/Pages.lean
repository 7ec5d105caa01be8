/-
System calls on page mappings. A caller may change its own mappings and those of its children, at
page boundaries below `Layout.userTop`, with permissions that a system call may ask for; and nobody
gets to write through a mapping that was made from one that cannot be written.

* `Kernel.pageAlloc`: a fresh page of zeros;
* `Kernel.sharable`: the frame behind a page, if it may be shown elsewhere with given permissions;
* `Kernel.holding`: keeps a frame by a reference of the kernel's own while it changes hands;
* `Kernel.pageMap`: shows a page of one process in another;
* `Kernel.pageUnmap`: takes a page away.
-/
import Exokernel.Kernel.Lifecycle

namespace Exokernel.Kernel

/-- Refuses an address at which no system call may map a page. -/
def checkAddress (va : VirtAddr) : Except KernelError Unit :=
  if va.isMappable then .ok () else .error .invalidArgument

/-- Refuses permissions that no system call may ask for. -/
def checkPerm (perm : Perm) : Except KernelError Unit :=
  if perm.isRequestable then .ok () else .error .invalidArgument

/-- The address space in which `caller` may map a fresh page at `va` by naming `target`. -/
def allocSpace (k : Kernel) (caller target : ProcessId) (va : VirtAddr) (perm : Perm) :
    Except KernelError Nat := do
  checkAddress va
  checkPerm perm
  let target ← k.resolve caller target true
  k.spaceOf target

/-- Maps a fresh page of zeros at `va` in `target`. -/
def pageAlloc (k : Kernel) (caller target : ProcessId) (va : VirtAddr) (perm : Perm) :
    Except KernelError Unit × Kernel :=
  match k.allocSpace caller target va perm with
  | .error e => (.error e, k)
  | .ok s =>
    let (result, machine) := k.machine.mapZeroed s va perm
    (result.mapError MachineError.toKernelError, { k with machine })

/-- The frame that `owner` has at `va`, if it may be shown elsewhere with `perm`: a page that the
owner cannot write is not to be written there either. -/
def sharable (k : Kernel) (owner : ProcessId) (va : VirtAddr) (perm : Perm) :
    Except KernelError Nat := do
  let s ← k.spaceOf owner
  match k.machine.lookup? s va with
  | none => .error .invalidArgument
  | some e =>
    if perm.contains .writable ∧ ¬ e.perm.contains .writable then .error .invalidArgument
    else .ok e.frame

/-- Does something while the kernel keeps `frame` by a reference of its own, which it gives back
however that ends. -/
def holding {α : Type} (k : Kernel) (frame : Nat)
    (act : Kernel → Except KernelError α × Kernel) : Except KernelError α × Kernel :=
  let (result, k) := act { k with machine := k.machine.retain frame }
  (result, { k with machine := k.machine.release frame })

/-- The frame that `caller` may show by naming a page of `src`, and the process that it means by
`dst`. -/
def mapArguments (k : Kernel) (caller src : ProcessId) (srcVa : VirtAddr) (dst : ProcessId)
    (dstVa : VirtAddr) (perm : Perm) : Except KernelError (Nat × ProcessId) := do
  checkAddress srcVa
  checkAddress dstVa
  checkPerm perm
  let src ← k.resolve caller src true
  let dst ← k.resolve caller dst true
  return (← k.sharable src srcVa perm, dst)

/-- Shows a frame that the kernel keeps in `dst` at `va`. -/
def mapKept (k : Kernel) (dst : ProcessId) (frame : Nat) (va : VirtAddr) (perm : Perm) :
    Except KernelError Kernel := do
  let s ← k.spaceOf dst
  k.withMachine (k.machine.map s frame va perm)

/-- Shows the page that `src` has at `srcVa` also in `dst` at `dstVa`. -/
def pageMap (k : Kernel) (caller src : ProcessId) (srcVa : VirtAddr) (dst : ProcessId)
    (dstVa : VirtAddr) (perm : Perm) : Except KernelError Unit × Kernel :=
  match k.mapArguments caller src srcVa dst dstVa perm with
  | .error e => (.error e, k)
  | .ok (frame, dst) =>
    k.holding frame fun k =>
      match k.mapKept dst frame dstVa perm with
      | .error e => (.error e, k)
      | .ok k => (.ok (), k)

/-- Takes away what `target` has at `va`. -/
def pageUnmap (k : Kernel) (caller target : ProcessId) (va : VirtAddr) :
    Except KernelError Kernel := do
  checkAddress va
  let target ← k.resolve caller target true
  let s ← k.spaceOf target
  return { k with machine := k.machine.unmap s va }

end Exokernel.Kernel
