/-
The machine that the kernel runs on: memory, address spaces, processors, a clock, devices and a
console.

* `Mapping`, `AddressSpace`: what a page of an address space shows, and the frames that its tables
  take;
* `Machine`: the state of the machine;
* `Machine.createSpace`, `Machine.destroySpace`: address spaces come and go. Their numbers come
  round after `2 ^ 32` of them, and a new address space takes the place of the one that has its
  number;
* `Machine.map`, `Machine.unmap`, `Machine.lookup?`: the pages of an address space. Above
  `Layout.userTop` every address space shows the same windows;
* `Machine.activate`, `Machine.acknowledge`, `Machine.interrupt`: what is asked of a processor.
-/
import Exokernel.Error
import Exokernel.Machine.Range
import Exokernel.Perm
import Exokernel.SortedMap
import Exokernel.Trap.Number

namespace Exokernel

open Layout

/-- What a page of an address space shows. -/
structure Mapping where
  /-- The number of the frame. -/
  frame : Nat
  perm : Perm
  deriving DecidableEq

/-- An address space: the frames of its page directory and its page tables, and its pages. -/
structure AddressSpace where
  directory : Nat
  /-- The frames of the page tables, by their place in the directory. -/
  tables : SortedMap Nat
  /-- The pages, by their numbers. -/
  pages : SortedMap Mapping

/-- The address spaces that exist, by their numbers. -/
structure SpaceTable where
  spaces : SortedMap AddressSpace
  /-- The number of the next address space. It wraps around. -/
  nextId : UInt32

/-- What the machine keeps for one processor. -/
structure Processor where
  /-- The address space that is loaded. -/
  active : Option Nat := none
  /-- The address of the last page fault. -/
  faultVa : VirtAddr := ⟨0⟩
  /-- How many interrupts were acknowledged. -/
  acknowledged : UInt32 := 0
  /-- The interrupts that other processors sent, oldest first. -/
  received : List UInt32 := []

/-- The machine. -/
structure Machine where
  frames : FramePool
  spaces : SpaceTable
  /-- The pages above `Layout.userTop` that every address space shows. -/
  windows : SortedMap Mapping
  processors : Array Processor
  /-- How often the clock has ticked. -/
  ticks : UInt32 := 0
  /-- The lines of the device interrupts that were serviced, oldest first. -/
  serviced : List UInt32 := []
  /-- Everything that was printed. -/
  console : String := ""

namespace Machine

/-! ### The machine at the start -/

/-- How many frames a machine has where nothing else is said. -/
abbrev defaultFrames : Nat := 1024

/-- Milliseconds between two ticks of the clock. -/
abbrev tickMillis : UInt32 := 10

/-- The processor that starts the system and owns the clock. -/
abbrev bootCpu : Nat := 0

/-- Opens a window at `va` if there is a frame for it. -/
def openWindow (state : FramePool × SortedMap Mapping) (va : Nat) :
    FramePool × SortedMap Mapping :=
  match state.1.allocOwned? with
  | none => state
  | some (n, pool) => (pool, state.2.insert (va / pageSize) ⟨n, .userRead⟩)

/-- A machine with the given numbers of processors and frames, where the windows on the process
table and the frame table are open. -/
def ofSize (processors frames : Nat) : Machine :=
  let (pool, windows) := [processWindow, frameWindow].foldl openWindow (.ofCount frames, .empty)
  { frames := pool
    spaces := ⟨.empty, 1⟩
    windows
    processors := Array.replicate processors {} }

/-- How many frames are free. -/
def freeFrames (m : Machine) : Nat := m.frames.free.length

/-- How many address spaces there are. -/
def spaceCount (m : Machine) : Nat := m.spaces.spaces.size

/-- The address space with number `s`. -/
def space? (m : Machine) (s : Nat) : Option AddressSpace := m.spaces.spaces.find? s

/-- Replaces the address space with number `s`. -/
def setSpace (m : Machine) (s : Nat) (space : AddressSpace) : Machine :=
  { m with spaces := { m.spaces with spaces := m.spaces.spaces.insert s space } }

/-! ### Frames -/

/-- Gives out a frame that nothing refers to. -/
def allocFrame (m : Machine) : Except MachineError (Nat × Machine) :=
  match m.frames.alloc? with
  | none => .error .outOfMemory
  | some (n, frames) => .ok (n, { m with frames })

/-- Gives out a frame with one reference. -/
def allocOwned (m : Machine) : Except MachineError (Nat × Machine) :=
  match m.frames.allocOwned? with
  | none => .error .outOfMemory
  | some (n, frames) => .ok (n, { m with frames })

/-- Counts a reference to a frame. -/
def retain (m : Machine) (n : Nat) : Machine := { m with frames := m.frames.retain n }

/-- Counts a reference to a frame less; a frame without references is free. -/
def release (m : Machine) (n : Nat) : Machine := { m with frames := m.frames.release n }

/-- Takes a frame back if nothing refers to it. -/
def discard (m : Machine) (n : Nat) : Machine := { m with frames := m.frames.discard n }

/-- Fills a frame with zeros. -/
def clear (m : Machine) (n : Nat) : Machine := { m with frames := m.frames.clear n }

/-! ### Address spaces -/

/-- Makes an address space that shows nothing but the windows. It takes the next number, whether or
not that is still in use: an address space that had it is replaced, and its frames are not given
back. -/
def createSpace (m : Machine) : Except MachineError (Nat × Machine) :=
  match m.allocOwned with
  | .error e => .error e
  | .ok (directory, m) =>
    let s := m.spaces.nextId
    .ok (s.toNat, { m with
      spaces := ⟨m.spaces.spaces.insert s.toNat ⟨directory, .empty, .empty⟩, s + 1⟩ })

/-- Removes an address space: its pages lose their references, and its tables and its directory are
given back. -/
def destroySpace (m : Machine) (s : Nat) : Machine :=
  match m.space? s with
  | none => m
  | some space =>
    { m with
      spaces := { m.spaces with spaces := m.spaces.spaces.erase s }
      frames := m.frames.releaseAll
        (space.pages.values.map (·.frame) ++ space.tables.values ++ [space.directory]) }

/-- What the page of `va` shows in address space `s`. -/
def lookup? (m : Machine) (s : Nat) (va : VirtAddr) : Option Mapping :=
  if userTop ≤ va.toNat then m.windows.find? va.page
  else (m.space? s).bind (·.pages.find? va.page)

/-- Makes sure that address space `s` has a page table for `va`. -/
def ensureTable (m : Machine) (s : Nat) (va : VirtAddr) : Except MachineError Machine :=
  match m.space? s with
  | none => .error .invalidArgument
  | some space =>
    let place := va.toNat / tableSpan
    match space.tables.find? place with
    | some _ => .ok m
    | none =>
      match m.allocOwned with
      | .error e => .error e
      | .ok (table, m) =>
        .ok (m.setSpace s { space with tables := space.tables.insert place table })

/-- Shows a frame at a page whose table exists. The frame is counted before the old one is given
back, so that a frame that replaces itself stays in use. -/
def setPage (m : Machine) (s : Nat) (frame : Nat) (va : VirtAddr) (perm : Perm) : Machine :=
  match m.space? s with
  | none => m
  | some space =>
    let m := m.retain frame
    let m := m.setSpace s { space with
      pages := space.pages.insert va.page ⟨frame, perm ||| .present⟩ }
    match space.pages.find? va.page with
    | none => m
    | some old => m.release old.frame

/-- Shows `frame` at the page of `va` in address space `s`, in place of what was there. It fails
above `Layout.userTop`, in an address space that does not exist, and where a page table is needed
and no frame is left. -/
def map (m : Machine) (s : Nat) (frame : Nat) (va : VirtAddr) (perm : Perm) :
    Except MachineError Machine :=
  if userTop ≤ va.toNat then .error .invalidArgument
  else
    match m.ensureTable s va with
    | .error e => .error e
    | .ok m => .ok (m.setPage s frame va perm)

/-- Shows nothing at the page of `va` in address space `s` any more. -/
def unmap (m : Machine) (s : Nat) (va : VirtAddr) : Machine :=
  match m.space? s with
  | none => m
  | some space =>
    match space.pages.find? va.page with
    | none => m
    | some old =>
      (m.setSpace s { space with pages := space.pages.erase va.page }).release old.frame

/-- The pages of address space `s` in ascending order. -/
def userPages (m : Machine) (s : Nat) : List (VirtAddr × Mapping) :=
  match m.space? s with
  | none => []
  | some space => space.pages.entries.map fun (page, e) => (.ofNat (page * pageSize), e)

/-- Maps a fresh frame of zeros at `va`; a frame that finds no place is given back. -/
def mapZeroed (m : Machine) (s : Nat) (va : VirtAddr) (perm : Perm) :
    Except MachineError Unit × Machine :=
  match m.allocFrame with
  | .error e => (.error e, m)
  | .ok (frame, m) =>
    let m := m.clear frame
    match m.map s frame va perm with
    | .error e => (.error e, m.discard frame)
    | .ok m => (.ok (), m)

/-- Removes every page of address space `s` and then the address space. -/
def dismantle (m : Machine) (s : Nat) : Machine :=
  ((m.userPages s).foldl (fun m (va, _) => m.unmap s va) m).destroySpace s

/-! ### Processors -/

/-- Changes what the machine keeps for a processor, if there is one with this number. -/
def modifyProcessor (m : Machine) (cpu : Nat) (f : Processor → Processor) : Machine :=
  { m with processors := m.processors.modify cpu f }

/-- Loads an address space, or none, on a processor. -/
def activate (m : Machine) (cpu : Nat) (s : Option Nat) : Machine :=
  m.modifyProcessor cpu fun p => { p with active := s }

/-- The address space that is loaded on a processor. -/
def activeSpace? (m : Machine) (cpu : Nat) : Option Nat :=
  m.processors[cpu]?.bind (·.active)

/-- Keeps the address of a page fault. -/
def latchFault (m : Machine) (cpu : Nat) (va : VirtAddr) : Machine :=
  m.modifyProcessor cpu fun p => { p with faultVa := va }

/-- The address of the last page fault on a processor. -/
def faultAddress (m : Machine) (cpu : Nat) : VirtAddr :=
  (m.processors[cpu]?.map (·.faultVa)).getD ⟨0⟩

/-- Tells a processor's interrupt controller that an interrupt was handled. -/
def acknowledge (m : Machine) (cpu : Nat) : Machine :=
  m.modifyProcessor cpu fun p => { p with acknowledged := p.acknowledged + 1 }

/-- How many interrupts were acknowledged on a processor. -/
def acknowledgements (m : Machine) (cpu : Nat) : UInt32 :=
  (m.processors[cpu]?.map (·.acknowledged)).getD 0

/-- Sends an interrupt to a processor. -/
def interrupt (m : Machine) (cpu : Nat) (number : UInt32) : Machine :=
  m.modifyProcessor cpu fun p => { p with received := p.received ++ [number] }

/-- The interrupts that a processor was sent, oldest first. -/
def received (m : Machine) (cpu : Nat) : List UInt32 :=
  (m.processors[cpu]?.map (·.received)).getD []

/-! ### Clock, devices, console -/

/-- Lets the clock tick. -/
def tick (m : Machine) : Machine := { m with ticks := m.ticks + 1 }

/-- Milliseconds since the start, modulo `2 ^ 32`. -/
def millis (m : Machine) : UInt32 := m.ticks * tickMillis

/-- Services the interrupt of a device, if it has a driver. -/
def service (m : Machine) (line : UInt32) : Except MachineError Machine :=
  if line = Irq.keyboard ∨ line = Irq.serial ∨ line = Irq.network ∨ line = Irq.disk then
    .ok { m with serviced := m.serviced ++ [line] }
  else .error .notSupported

/-- Prints to the console. -/
def print (m : Machine) (text : String) : Machine := { m with console := m.console ++ text }

/-- Whether `text` occurs in a row of characters. -/
def occurs (text : List Char) : List Char → Bool
  | [] => text.isEmpty
  | c :: cs => text.isPrefixOf (c :: cs) || occurs text cs

/-- Whether `text` occurs in what was printed. -/
def hasPrinted (m : Machine) (text : String) : Bool := occurs text.toList m.console.toList

end Machine

end Exokernel
