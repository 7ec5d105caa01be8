/-
Records of the process table, and programs to be loaded.

* `Process`: what the kernel keeps for one slot of its table; `Process.holds` says whether the slot
  holds a given live process;
* `Segment`, `Image`: a program; `Image.isLoadable` says whether it fits where programs go.
-/
import Exokernel.Snapshot
import Exokernel.Trap.Frame

namespace Exokernel

open Layout

/-- What the kernel keeps for one slot of the process table. A slot serves one process after
another; `id` stays after the slot is freed, so that the next process gets another identity. -/
structure Process where
  id : ProcessId := .self
  /-- Who made the process; `ProcessId.self` if the kernel did by itself. -/
  parent : ProcessId := .self
  status : ProcessStatus := .free
  /-- The number of its address space. -/
  space : Option Nat := none
  /-- The registers that it resumes with. -/
  frame : TrapFrame := {}
  /-- Where it handles its page faults. -/
  faultHandler : Option VirtAddr := none
  mailbox : Mailbox := {}
  /-- How often it was dispatched. -/
  runs : UInt32 := 0
  /-- The processor that it is bound to. -/
  resident : Option Nat := none
  deriving DecidableEq, Inhabited

namespace Process

/-- Whether the slot holds the live process `id`. -/
def holds (p : Process) (id : ProcessId) : Bool :=
  p.id = id && p.status.isLive

/-- Whether a scheduler may dispatch the process. -/
def dispatchable (p : Process) : Bool :=
  p.status = .runnable && p.resident = none

/-- The record as a report shows it. -/
def info (p : Process) (slot : Nat) : ProcessInfo :=
  { slot, id := p.id, parent := p.parent, status := p.status, hasSpace := p.space.isSome,
    resident := p.resident, faultHandler := p.faultHandler, mailbox := p.mailbox, runs := p.runs }

end Process

/-! ### Programs -/

/-- A contiguous part of a program: its bytes, and zeros up to `memSize`. -/
structure Segment where
  va : VirtAddr
  data : List UInt8
  memSize : UInt32
  writable : Bool
  deriving DecidableEq

namespace Segment

/-- A part that is only read, as long as its bytes. -/
def readOnly (va : VirtAddr) (data : List UInt8) : Segment :=
  ⟨va, data, UInt32.ofNat data.length, false⟩

/-- A part that is also written, of `memSize` bytes that begin with `data`. -/
def readWrite (va : VirtAddr) (data : List UInt8) (memSize : UInt32) : Segment :=
  ⟨va, data, memSize, true⟩

/-- The end of the segment, as a number. -/
def stop (s : Segment) : Nat := s.va.toNat + s.memSize.toNat

/-- Whether the segment holds no more bytes than it has room for and ends below the stack. -/
def fits (s : Segment) : Bool :=
  s.data.length ≤ s.memSize.toNat && s.stop ≤ stackPage

/-- The permissions of its pages. -/
def perm (s : Segment) : Perm :=
  if s.writable then .userWrite else .userRead

/-- The numbers of the pages that it takes. -/
def pages (s : Segment) : List Nat :=
  let first := s.va.page
  List.range' first (roundUp s.stop / pageSize - first)

end Segment

/-- A program, ready to be loaded into a fresh process. -/
structure Image where
  /-- Where it begins to run. -/
  entry : VirtAddr
  segments : List Segment
  deriving DecidableEq

/-- Whether a program begins in what user code owns and all its segments fit. -/
def Image.isLoadable (image : Image) : Bool :=
  image.entry.toNat < userTop && image.segments.all Segment.fits

end Exokernel
