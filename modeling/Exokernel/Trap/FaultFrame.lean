/-
Page faults as a process sees its own.

* `FaultCode`: the bits of a page fault's error code;
* `FaultFrame`: what the kernel pushes on the exception stack of a process before it enters the
  process's fault handler, and what the handler resumes the faulting code from;
* `FaultFrame.ofBytes_toBytes`, `FaultFrame.toBytes_ofBytes`: it survives its trip through memory;
* `UpcallPlan.ofStackPointer`: where on the exception stack the next frame goes. A fault that is
  taken while the stack is in use goes below the frames that are pending, after a gap of one word.
-/
import Exokernel.Address
import Exokernel.Trap.Frame

namespace Exokernel

namespace FaultCode

/-- The page is there, and the access is not allowed. -/
abbrev protection : UInt32 := 1
/-- The access was a write. -/
abbrev write : UInt32 := 2
/-- The access came from user code. -/
abbrev user : UInt32 := 4

end FaultCode

/-- The state that a page fault interrupted, as it lies on the exception stack. -/
structure FaultFrame where
  faultVa : UInt32 := 0
  err : UInt32 := 0
  regs : Registers := {}
  eip : UInt32 := 0
  eflags : UInt32 := 0
  esp : UInt32 := 0
  deriving DecidableEq, Inhabited

namespace FaultFrame

/-- How many words a frame takes. -/
abbrev wordCount : Nat := Registers.wordCount + 5

/-- How many bytes a frame takes. -/
abbrev size : Nat := 4 * wordCount

/-- The frame for a fault at `faultVa` that saved `f`. -/
def ofTrap (f : TrapFrame) (faultVa : UInt32) : FaultFrame :=
  { faultVa, err := f.err, regs := f.regs, eip := f.eip, eflags := f.eflags, esp := f.esp }

/-- The frame as a row of words. -/
def toWords (f : FaultFrame) : List UInt32 :=
  [f.faultVa, f.err] ++ f.regs.toWords ++ [f.eip, f.eflags, f.esp]

/-- The frame that begins a row of words; a word that is not there is zero. -/
def ofWords (ws : List UInt32) : FaultFrame :=
  { faultVa := ws.getD 0 0, err := ws.getD 1 0, regs := .ofWords (ws.drop 2),
    eip := ws.getD 10 0, eflags := ws.getD 11 0, esp := ws.getD 12 0 }

/-- The frame as it lies in memory. -/
def toBytes (f : FaultFrame) : List UInt8 := Words.toBytes f.toWords

/-- The frame that lies in memory as `bytes`. -/
def ofBytes (bytes : List UInt8) : FaultFrame := ofWords (Words.ofBytes bytes)

theorem ofWords_toWords (f : FaultFrame) : ofWords f.toWords = f := rfl

theorem toWords_ofWords {ws : List UInt32} (h : ws.length = wordCount) :
    (ofWords ws).toWords = ws := by
  match ws, h with
  | [_, _, _, _, _, _, _, _, _, _, _, _, _], _ => rfl

@[simp] theorem length_toBytes (f : FaultFrame) : f.toBytes.length = size :=
  Words.length_toBytes f.toWords

/-- **A fault frame survives its trip through memory.** -/
theorem ofBytes_toBytes (f : FaultFrame) : ofBytes f.toBytes = f := by
  rw [ofBytes, toBytes, Words.ofBytes_toBytes, ofWords_toWords]

/-- **Memory survives its trip through a fault frame**, if it is as long as one. -/
theorem toBytes_ofBytes {bytes : List UInt8} (h : bytes.length = size) :
    (ofBytes bytes).toBytes = bytes := by
  rw [toBytes, ofBytes, toWords_ofWords (Words.length_ofBytes h), Words.toBytes_ofBytes h]

end FaultFrame

/-! ### The place of the next frame -/

/-- Where the kernel writes a fault frame. -/
structure UpcallPlan where
  /-- The address of the frame, and the stack pointer that the handler starts with. -/
  frameVa : VirtAddr
  /-- The fault was taken while the exception stack was in use. -/
  nested : Bool
  deriving DecidableEq

/-- The exception stack has no room for a frame, which would begin at `wouldBe`. -/
structure ExceptionStackOverflow where
  wouldBe : Nat
  deriving DecidableEq

namespace UpcallPlan

open Layout

/-- The word that is left free between two frames, for the handler to return through. -/
abbrev nestedGap : Nat := 4

/-- The place of the frame for a fault taken with stack pointer `esp`: below `esp` if that lies in
the exception stack, and at the top of the exception stack otherwise. -/
def ofStackPointer (esp : UInt32) : Except ExceptionStackOverflow UpcallPlan :=
  let sp := esp.toNat
  if exceptionStackBottom ≤ sp ∧ sp < exceptionStackTop then
    let need := FaultFrame.size + nestedGap
    if exceptionStackBottom + need ≤ sp then .ok ⟨.ofNat (sp - need), true⟩
    else .error ⟨sp - need⟩
  else .ok ⟨.ofNat (exceptionStackTop - FaultFrame.size), false⟩

end UpcallPlan

end Exokernel
