/-
Loading a program into an address space.

* `Machine.loadPage`: makes sure that a page is there and allows what a segment needs; a page that
  two segments share allows what either of them needs;
* `Machine.loadSegments`: the pages and the bytes of every segment;
* `Machine.load`: a whole program, with a page for its stack. A load that fails stays half done, and
  whoever asked for it throws the address space away.
-/
import Exokernel.Machine.Access
import Exokernel.Process

namespace Exokernel.Machine

open Layout

/-- Makes sure that page `page` of address space `s` is there and allows `perm`. -/
def loadPage (m : Machine) (s : Nat) (perm : Perm) (page : Nat) :
    Except MachineError Unit × Machine :=
  let va := VirtAddr.ofNat (page * pageSize)
  match m.lookup? s va with
  | none => m.mapZeroed s va perm
  | some e =>
    if e.perm.contains perm then (.ok (), m)
    else
      match m.map s e.frame va (e.perm ||| perm) with
      | .error e => (.error e, m)
      | .ok m => (.ok (), m)

/-- Makes sure that several pages are there and allow `perm`, one after the other. -/
def loadPages (s : Nat) (perm : Perm) : List Nat → Machine → Except KernelError Unit × Machine
  | [], m => (.ok (), m)
  | page :: pages, m =>
    match m.loadPage s perm page with
    | (.error e, m) => (.error e.toKernelError, m)
    | (.ok (), m) => loadPages s perm pages m

/-- Loads one segment: its pages, and then its bytes. -/
def loadSegment (m : Machine) (s : Nat) (segment : Segment) : Except KernelError Unit × Machine :=
  match loadPages s segment.perm segment.pages m with
  | (.error e, m) => (.error e, m)
  | (.ok (), m) =>
    match m.copyOut s segment.va segment.data with
    | (.error _, m) => (.error .invalidArgument, m)
    | (.ok (), m) => (.ok (), m)

/-- Loads several segments, one after the other. -/
def loadSegments (s : Nat) : List Segment → Machine → Except KernelError Unit × Machine
  | [], m => (.ok (), m)
  | segment :: segments, m =>
    match m.loadSegment s segment with
    | (.error e, m) => (.error e, m)
    | (.ok (), m) => loadSegments s segments m

/-- Loads a program: its segments, and then a page for its stack. -/
def load (m : Machine) (s : Nat) (image : Image) : Except KernelError Unit × Machine :=
  match loadSegments s image.segments m with
  | (.error e, m) => (.error e, m)
  | (.ok (), m) =>
    match m.mapZeroed s (.ofNat stackPage) .userWrite with
    | (.error e, m) => (.error e.toKernelError, m)
    | (.ok (), m) => (.ok (), m)

end Exokernel.Machine
