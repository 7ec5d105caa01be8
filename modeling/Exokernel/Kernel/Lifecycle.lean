/-
How processes come and go.

* `Kernel.allocate`, `Kernel.spawn`: a process with an empty address space, and one that a program
  is loaded into;
* `Kernel.reap`, `Kernel.clearStale`: the end of a dying process, by whoever it is bound to;
* `Kernel.destroyOn`, `Kernel.destroy`: the destruction of a process by a processor. What another
  processor has bound is only marked as dying, and that processor is interrupted to clear it away.
-/
import Exokernel.Kernel.Basic

namespace Exokernel

/-- How a processor goes on after what it did for a process. -/
inductive Flow where
  /-- With the same process, if it still runs. -/
  | stay
  /-- With whatever the scheduler finds: the process gave up the processor. -/
  | switch
  deriving DecidableEq

namespace Kernel

open Layout

/-! ### The end of a process -/

/-- Clears away a dying process that is bound to `holder`, a processor or nobody: its address space
is dismantled and its slot is free. -/
def reap (k : Kernel) (id : ProcessId) (holder : Option Nat) : Kernel :=
  match k.table.takeDying? id holder with
  | none => k
  | some (space, table) =>
    let k := { k with table }
    let k := match holder with
      | none => k
      | some cpu => k.activate cpu none
    let k := match space with
      | none => k
      | some s => { k with machine := k.machine.dismantle s }
    let k := { k with table := k.table.finishFree id }
    k.log .debug s!"[{id}] free process"

/-- A processor finds that what it had bound is no longer live, and clears it away if that was left
to it. -/
def clearStale (k : Kernel) (cpu : Nat) (id : ProcessId) : Kernel :=
  (k.dropClaim cpu id).reap id (some cpu)

/-- Tears down a process that no processor has bound. -/
def free (k : Kernel) (id : ProcessId) : Kernel :=
  match k.table.beginFree? id with
  | none => k
  | some (_, table) => { k with table }.reap id none

/-- Destroys a process on behalf of what processor `cpu` runs. -/
def destroyOn (k : Kernel) (cpu : Nat) (id : ProcessId) : Flow × Kernel :=
  match k.table.beginFree? id with
  | none => (.stay, k)
  | some (none, table) => (.stay, { k with table }.reap id none)
  | some (some holder, table) =>
    let k := { k with table }
    if holder = cpu then (.switch, k.clearStale cpu id)
    else
      let k := k.log .debug s!"[{id}] dying, left to cpu {holder}"
      (.stay, { k with machine := k.machine.interrupt holder TrapNumber.reschedule })

/-- Destroys a live process on behalf of processor `cpu`, and tells whether the processor was
running it and has to schedule. -/
def destroy (k : Kernel) (cpu : Nat) (id : ProcessId) : Except KernelError (Bool × Kernel) :=
  match k.live? id with
  | none => .error .badProcess
  | some _ =>
    let (flow, k) := k.destroyOn cpu id
    .ok (flow = .switch, k)

/-! ### The beginning of a process -/

/-- Makes a process with an empty address space. Nothing changes if there is no slot or no frame for
it. -/
def allocateAs (k : Kernel) (parent : ProcessId) (status : ProcessStatus) :
    Except KernelError (ProcessId × Kernel) :=
  if k.table.free.isEmpty then .error .noFreeProcess
  else
    match k.machine.createSpace with
    | .error e => .error e.toKernelError
    | .ok (s, machine) =>
      match k.table.allocate? parent status s with
      | none => .error .noFreeProcess
      | some (id, table) => .ok (id, { k with machine, table })

/-- Makes a runnable process with an empty address space. -/
def allocate (k : Kernel) (parent : ProcessId) : Except KernelError (ProcessId × Kernel) :=
  match k.allocateAs parent .runnable with
  | .error e => .error e
  | .ok (id, k) => .ok (id, k.log .debug s!"[{parent}] new process {id}")

/-- Loads a program into the process `id` and sets its registers to begin it. -/
def load (k : Kernel) (id : ProcessId) (image : Image) : Except KernelError Unit × Kernel :=
  match k.spaceOf? id with
  | none => (.error .badProcess, k)
  | some s =>
    match k.machine.load s image with
    | (.error e, machine) => (.error e, { k with machine })
    | (.ok (), machine) =>
      (.ok (), { k with machine }.modify id fun p =>
        { p with frame := { p.frame with eip := image.entry.word
                                         esp := UInt32.ofNat stackTop } })

/-- Makes a process that runs a program. If that fails, the process is torn down again. -/
def spawn (k : Kernel) (image : Image) : Except KernelError ProcessId × Kernel :=
  if image.isLoadable then
    match k.allocateAs .self .notRunnable with
    | .error e => (.error e, k)
    | .ok (id, k) =>
      match k.load id image with
      | (.error e, k) => (.error e, k.free id)
      | (.ok (), k) =>
        let k := k.modify id fun p => { p with status := .runnable }
        (.ok id, k.log .info s!"[{id}] spawned at {image.entry}")
  else (.error .invalidArgument, k)

end Kernel

end Exokernel
