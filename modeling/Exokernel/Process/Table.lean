/-
The process table.

* `ProcessTable`: the records of all slots, the free slots and the place of the scheduler;
* `ProcessTable.find?`: the record of a live process;
* `ProcessTable.allocate?`: takes a free slot for a new process;
* `ProcessTable.resolve`: whom an identity means that a process names;
* `ProcessTable.beginFree?`, `ProcessTable.takeDying?`, `ProcessTable.finishFree`: the steps of
  taking a process out of the table. A process that is bound to a processor is dying until that
  processor gives it up, and only then loses its address space and its slot.
-/
import Exokernel.Error
import Exokernel.Process

namespace Exokernel

open Layout

/-- The process table. -/
structure ProcessTable where
  records : Array Process
  /-- The free slots, the next to be used first. -/
  free : List Nat
  /-- The slot that was dispatched last. -/
  cursor : Nat

namespace ProcessTable

/-- A table of free slots. -/
def ofCapacity (capacity : Nat) : ProcessTable :=
  ⟨Array.replicate capacity {}, List.range capacity, 0⟩

/-- How many slots there are. -/
def capacity (t : ProcessTable) : Nat := t.records.size

/-- Changes the record of a slot, if there is such a slot. -/
def modify (t : ProcessTable) (slot : Nat) (f : Process → Process) : ProcessTable :=
  { t with records := t.records.modify slot f }

@[simp] theorem free_modify (t : ProcessTable) (slot : Nat) (f : Process → Process) :
    (t.modify slot f).free = t.free := rfl

@[simp] theorem cursor_modify (t : ProcessTable) (slot : Nat) (f : Process → Process) :
    (t.modify slot f).cursor = t.cursor := rfl

theorem getElem?_modify (t : ProcessTable) (slot : Nat) (f : Process → Process) (i : Nat) :
    (t.modify slot f).records[i]? = if slot = i then t.records[i]?.map f else t.records[i]? := by
  simp [modify, Array.getElem?_modify]

theorem modify_modify (t : ProcessTable) (slot : Nat) (f g : Process → Process) :
    (t.modify slot f).modify slot g = t.modify slot (g ∘ f) := by
  simp only [modify, ProcessTable.mk.injEq, and_self, and_true]
  refine Array.ext_getElem? fun i => ?_
  simp only [Array.getElem?_modify]
  split
  · exact Option.map_map ..
  · rfl

/-! ### Finding processes -/

/-- The record of the live process `id`. -/
def find? (t : ProcessTable) (id : ProcessId) : Option Process :=
  t.records[id.slot]?.filter (·.holds id)

/-- The record of the live process `id`, or the error of asking for one that is not. -/
def get (t : ProcessTable) (id : ProcessId) : Except KernelError Process :=
  match t.find? id with
  | none => .error .badProcess
  | some p => .ok p

/-- Whom `caller` means by `id`. Zero means the caller itself; with `related`, only the caller and
its children may be meant. -/
def resolve (t : ProcessTable) (caller id : ProcessId) (related : Bool) :
    Except KernelError ProcessId :=
  if id.isSelf then .ok caller
  else
    match t.find? id with
    | none => .error .badProcess
    | some p =>
      if related ∧ id ≠ caller ∧ p.parent ≠ caller then .error .permissionDenied else .ok id

/-! ### Coming and going -/

/-- The last identity that a slot has issued. -/
def lastId (t : ProcessTable) (slot : Nat) : ProcessId :=
  match t.records[slot]? with
  | none => .self
  | some p => p.id

/-- Takes the next free slot for a process with the given parent, status and address space. -/
def allocate? (t : ProcessTable) (parent : ProcessId) (status : ProcessStatus) (space : Nat) :
    Option (ProcessId × ProcessTable) :=
  match t.free with
  | [] => none
  | slot :: rest =>
    let id := (t.lastId slot).next slot
    some (id, { (t.modify slot fun _ =>
      { id, parent, status, space := some space,
        frame := .initial (UInt32.ofNat stackTop) }) with free := rest })

/-- Marks a live process as dying and tells which processor it is bound to. -/
def beginFree? (t : ProcessTable) (id : ProcessId) : Option (Option Nat × ProcessTable) :=
  match t.find? id with
  | none => none
  | some p =>
    some (p.resident, t.modify id.slot fun p =>
      { p with status := .dying, mailbox := { p.mailbox with receiving := false } })

/-- Takes the address space from a dying process, for whoever it is bound to: a processor, or
nobody. -/
def takeDying? (t : ProcessTable) (id : ProcessId) (holder : Option Nat) :
    Option (Option Nat × ProcessTable) :=
  match t.records[id.slot]? with
  | none => none
  | some p =>
    if p.id = id ∧ p.status = .dying ∧ p.resident = holder then
      some (p.space, t.modify id.slot fun p => { p with resident := none, space := none })
    else none

/-- Puts the slot of a dying process on the free list. -/
def finishFree (t : ProcessTable) (id : ProcessId) : ProcessTable :=
  match t.records[id.slot]? with
  | none => t
  | some p =>
    if p.id = id ∧ p.status = .dying then
      { (t.modify id.slot fun p =>
          { p with status := .free, faultHandler := none, mailbox := {} }) with
        free := id.slot :: t.free }
    else t

end ProcessTable

end Exokernel
