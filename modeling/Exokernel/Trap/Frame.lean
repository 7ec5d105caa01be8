/-
Register frames saved at a trap.

* `Registers`, `TrapFrame`: the saved registers, and their row of words in memory;
* `TrapFrame.ofBytes_toBytes`, `TrapFrame.toBytes_ofBytes`: a frame survives its trip through
  memory, and so does every row of `TrapFrame.size` bytes;
* `RawCall`: a system call as the registers carry it, for `TrapFrame.call` and
  `TrapFrame.withCall`;
* `TrapFrame.forUser`: the frame as user code may run with it, whatever it asked for;
* `TrapFrame.text`: the frame as the console shows it.
-/
import Exokernel.Text.Hex
import Exokernel.Trap.Number
import Exokernel.Trap.Words

namespace Exokernel

/-! ### Selectors and flags -/

namespace Selector

abbrev kernelText : UInt32 := 0x08
abbrev kernelData : UInt32 := 0x10
abbrev userText : UInt32 := 0x18
abbrev userData : UInt32 := 0x20
/-- The privilege level that the low two bits of a user selector ask for. -/
abbrev userLevel : UInt32 := 3

end Selector

namespace Flag

/-- Interrupts are enabled. -/
abbrev interrupt : UInt32 := 0x200
/-- The bits that grant input and output to user code. -/
abbrev ioPrivilege : UInt32 := 0x3000
/-- Input and output are granted to every level. -/
abbrev ioPrivilegeUser : UInt32 := 0x3000

end Flag

/-! ### Frames -/

/-- The general registers, in the order in which a trap saves them. -/
structure Registers where
  edi : UInt32 := 0
  esi : UInt32 := 0
  ebp : UInt32 := 0
  /-- Saved, and left out of account when the registers are restored. -/
  oesp : UInt32 := 0
  ebx : UInt32 := 0
  edx : UInt32 := 0
  ecx : UInt32 := 0
  eax : UInt32 := 0
  deriving DecidableEq, Inhabited

namespace Registers

/-- How many words the registers take. -/
abbrev wordCount : Nat := 8

/-- The registers as a row of words. -/
def toWords (r : Registers) : List UInt32 :=
  [r.edi, r.esi, r.ebp, r.oesp, r.ebx, r.edx, r.ecx, r.eax]

/-- The registers that begin a row of words; a word that is not there is zero. -/
def ofWords (ws : List UInt32) : Registers :=
  { edi := ws.getD 0 0, esi := ws.getD 1 0, ebp := ws.getD 2 0, oesp := ws.getD 3 0,
    ebx := ws.getD 4 0, edx := ws.getD 5 0, ecx := ws.getD 6 0, eax := ws.getD 7 0 }

end Registers

/-- The registers saved on entry to the kernel. -/
structure TrapFrame where
  regs : Registers := {}
  es : UInt32 := 0
  ds : UInt32 := 0
  trapno : UInt32 := 0
  err : UInt32 := 0
  eip : UInt32 := 0
  cs : UInt32 := 0
  eflags : UInt32 := 0
  esp : UInt32 := 0
  ss : UInt32 := 0
  deriving DecidableEq, Inhabited

/-- A system call as the registers carry it: its number and five arguments. -/
structure RawCall where
  number : UInt32
  a1 : UInt32 := 0
  a2 : UInt32 := 0
  a3 : UInt32 := 0
  a4 : UInt32 := 0
  a5 : UInt32 := 0
  deriving DecidableEq, Inhabited

/-- The arguments in their order. -/
def RawCall.args (c : RawCall) : List UInt32 :=
  [c.a1, c.a2, c.a3, c.a4, c.a5]

namespace TrapFrame

/-- How many words a frame takes. -/
abbrev wordCount : Nat := Registers.wordCount + 9

/-- How many bytes a frame takes. -/
abbrev size : Nat := 4 * wordCount

/-- The frame of a fresh user process with stack pointer `esp`: user selectors, interrupts enabled,
and zero everywhere else. -/
def initial (esp : UInt32) : TrapFrame :=
  { ds := Selector.userData ||| Selector.userLevel
    es := Selector.userData ||| Selector.userLevel
    ss := Selector.userData ||| Selector.userLevel
    cs := Selector.userText ||| Selector.userLevel
    eflags := Flag.interrupt
    esp }

/-- The frame of a trap that a processor takes in the kernel. -/
def kernel (trapno : UInt32) : TrapFrame :=
  { ds := Selector.kernelData
    es := Selector.kernelData
    ss := Selector.kernelData
    cs := Selector.kernelText
    trapno }

/-- Whether the trap was taken from user code. -/
def isUser (f : TrapFrame) : Bool :=
  f.cs &&& 3 = Selector.userLevel

/-- The system call that the registers carry. -/
def call (f : TrapFrame) : RawCall :=
  { number := f.regs.eax, a1 := f.regs.edx, a2 := f.regs.ecx, a3 := f.regs.ebx, a4 := f.regs.edi,
    a5 := f.regs.esi }

/-- The frame with a system call in its registers. -/
def withCall (f : TrapFrame) (c : RawCall) : TrapFrame :=
  { f with regs := { f.regs with eax := c.number, edx := c.a1, ecx := c.a2, ebx := c.a3,
                                 edi := c.a4, esi := c.a5 } }

/-- The frame with a value in the register that results come back in. -/
def withResult (f : TrapFrame) (eax : UInt32) : TrapFrame :=
  { f with regs := { f.regs with eax } }

/-- The frame as user code may run with it: user selectors, interrupts enabled, and no input and
output of its own. -/
def forUser (f : TrapFrame) : TrapFrame :=
  { f with
    cs := Selector.userText ||| Selector.userLevel
    ds := Selector.userData ||| Selector.userLevel
    es := Selector.userData ||| Selector.userLevel
    ss := Selector.userData ||| Selector.userLevel
    eflags := (f.eflags ||| Flag.interrupt) &&& ~~~Flag.ioPrivilege }

/-! ### Frames in memory -/

/-- The frame as a row of words. -/
def toWords (f : TrapFrame) : List UInt32 :=
  f.regs.toWords ++ [f.es, f.ds, f.trapno, f.err, f.eip, f.cs, f.eflags, f.esp, f.ss]

/-- The frame that begins a row of words; a word that is not there is zero. -/
def ofWords (ws : List UInt32) : TrapFrame :=
  { regs := .ofWords ws
    es := ws.getD 8 0, ds := ws.getD 9 0, trapno := ws.getD 10 0, err := ws.getD 11 0,
    eip := ws.getD 12 0, cs := ws.getD 13 0, eflags := ws.getD 14 0, esp := ws.getD 15 0,
    ss := ws.getD 16 0 }

/-- The frame as it lies in memory. -/
def toBytes (f : TrapFrame) : List UInt8 := Words.toBytes f.toWords

/-- The frame that lies in memory as `bytes`. -/
def ofBytes (bytes : List UInt8) : TrapFrame := ofWords (Words.ofBytes bytes)

theorem ofWords_toWords (f : TrapFrame) : ofWords f.toWords = f := rfl

theorem toWords_ofWords {ws : List UInt32} (h : ws.length = wordCount) :
    (ofWords ws).toWords = ws := by
  match ws, h with
  | [_, _, _, _, _, _, _, _, _, _, _, _, _, _, _, _, _], _ => rfl

@[simp] theorem length_toBytes (f : TrapFrame) : f.toBytes.length = size :=
  Words.length_toBytes f.toWords

/-- **A frame survives its trip through memory.** -/
theorem ofBytes_toBytes (f : TrapFrame) : ofBytes f.toBytes = f := by
  rw [ofBytes, toBytes, Words.ofBytes_toBytes, ofWords_toWords]

/-- **Memory survives its trip through a frame**, if it is as long as one. -/
theorem toBytes_ofBytes {bytes : List UInt8} (h : bytes.length = size) :
    (ofBytes bytes).toBytes = bytes := by
  rw [toBytes, ofBytes, toWords_ofWords (Words.length_ofBytes h), Words.toBytes_ofBytes h]

/-! ### Frames on the console -/

/-- The frame as the console shows it, one register a line. -/
def text (f : TrapFrame) : String :=
  let line (name value : String) : String := "  " ++ name ++ " " ++ value
  String.intercalate "\n"
    ["TRAP frame",
      line "edi " (Text.hexWord f.regs.edi),
      line "esi " (Text.hexWord f.regs.esi),
      line "ebp " (Text.hexWord f.regs.ebp),
      line "oesp" (Text.hexWord f.regs.oesp),
      line "ebx " (Text.hexWord f.regs.ebx),
      line "edx " (Text.hexWord f.regs.edx),
      line "ecx " (Text.hexWord f.regs.ecx),
      line "eax " (Text.hexWord f.regs.eax),
      line "es  " (Text.hexSelector f.es),
      line "ds  " (Text.hexSelector f.ds),
      line "trap" (Text.hexWord f.trapno ++ " " ++ trapName f.trapno),
      line "err " (Text.hexWord f.err),
      line "eip " (Text.hexWord f.eip),
      line "cs  " (Text.hexSelector f.cs),
      line "flag" (Text.hexWord f.eflags),
      line "esp " (Text.hexWord f.esp),
      line "ss  " (Text.hexSelector f.ss)]

end TrapFrame

end Exokernel
