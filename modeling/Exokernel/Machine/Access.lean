/-
Memory as user code and the kernel reach it through an address space.

* `MmuFault`: an access that the machine refuses, with its address and its error code;
* `Machine.userRead`, `Machine.userWrite`: what user code does; every page has to allow it;
* `Machine.checkUser`: whether user code could, asked by the kernel before it trusts a range;
* `Machine.copyOut`, `Machine.copyIn`: what the kernel does; every page has to be there, whatever it
  allows.

All of them go through a range page by page and stop at the first address that they may not touch.
-/
import Exokernel.Machine
import Exokernel.Trap.FaultFrame

namespace Exokernel

open Layout

/-- An access that the machine refuses. -/
structure MmuFault where
  va : VirtAddr
  /-- The error code, of the bits in `FaultCode`. -/
  err : UInt32
  deriving DecidableEq

namespace Machine

/-! ### User code -/

/-- The permissions that an access needs. -/
def accessPerm (write : Bool) : Perm :=
  if write then .userRead ||| .writable else .userRead

/-- The error code of an access to a page that is not there. -/
def accessCode (write : Bool) : UInt32 :=
  if write then FaultCode.user ||| FaultCode.write else FaultCode.user

/-- The frame that user code reaches at `va` in address space `s`. -/
def translate (m : Machine) (s : Nat) (write : Bool) (va : VirtAddr) : Except MmuFault Nat :=
  match m.lookup? s va with
  | none => .error ⟨va, accessCode write⟩
  | some e =>
    if va.toNat < userLimit ∧ e.perm.contains (accessPerm write) then .ok e.frame
    else .error ⟨va, accessCode write ||| FaultCode.protection⟩

/-- The frame that user code reaches at the address with number `address`, as part of a range that
begins at `va`. A range that leaves the address space is refused as if at its beginning. -/
def userFrame (m : Machine) (s : Nat) (write : Bool) (va : VirtAddr) (address : Nat) :
    Except MmuFault Nat :=
  if address < addressCount then m.translate s write (.ofNat address)
  else .error ⟨va, accessCode write⟩

/-- Reads `len` bytes at `va` as user code. What a frame does not hold reads as `absent`. -/
def userRead (m : Machine) (s : Nat) (va : VirtAddr) (len : Nat) (absent : UInt8) :
    Except MmuFault (List UInt8) :=
  readPieces (m.userFrame s false va) absent m.frames (pieces va.toNat len)

/-- Writes `data` at `va` as user code. Pages before a refused one are written. -/
def userWrite (m : Machine) (s : Nat) (va : VirtAddr) (data : List UInt8) :
    Except MmuFault Unit × Machine :=
  let (result, frames) :=
    writePieces (m.userFrame s true va) (pieces va.toNat data.length) data m.frames
  (result, { m with frames })

/-! ### The kernel -/

/-- The frame behind the address with number `address`, if user code may use the page with
`perm`. -/
def allowedFrame (m : Machine) (s : Nat) (perm : Perm) (address : Nat) : Except VirtAddr Nat :=
  let va := VirtAddr.ofNat address
  match m.lookup? s va with
  | none => .error va
  | some e =>
    if va.toNat < userLimit ∧ e.perm.contains (perm ||| .userRead) then .ok e.frame
    else .error va

/-- Whether user code may use the `len` bytes at `va` with `perm`; if not, the first address that it
may not. A range that reaches the end of the address space is refused at its beginning. -/
def checkUser (m : Machine) (s : Nat) (va : VirtAddr) (len : Nat) (perm : Perm) :
    Except VirtAddr Unit :=
  if len = 0 then .ok ()
  else if va.toNat + len < addressCount then
    checkPieces (m.allowedFrame s perm) (pieces va.toNat len)
  else .error va

/-- The frame behind the address with number `address`, as part of a range that begins at `va`. -/
def mappedFrame (m : Machine) (s : Nat) (va : VirtAddr) (address : Nat) : Except VirtAddr Nat :=
  if address < addressCount then
    match m.lookup? s (VirtAddr.ofNat address).pageBase with
    | none => .error (.ofNat address)
    | some e => .ok e.frame
  else .error va

/-- Writes `data` at `va`, whatever the pages allow. Pages before a missing one are written. -/
def copyOut (m : Machine) (s : Nat) (va : VirtAddr) (data : List UInt8) :
    Except VirtAddr Unit × Machine :=
  let (result, frames) :=
    writePieces (m.mappedFrame s va) (pieces va.toNat data.length) data m.frames
  (result, { m with frames })

/-- Reads `len` bytes at `va`, whatever the pages allow. What a frame does not hold reads as
`absent`. -/
def copyIn (m : Machine) (s : Nat) (va : VirtAddr) (len : Nat) (absent : UInt8) :
    Except VirtAddr (List UInt8) :=
  readPieces (m.mappedFrame s va) absent m.frames (pieces va.toNat len)

end Machine

end Exokernel
