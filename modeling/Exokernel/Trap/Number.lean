/-
The numbers under which the processor reports traps, and what they mean to the kernel.

* `TrapNumber`: exceptions, the system call gate and the interrupt between processors;
* `Irq`: the lines of the interrupt controller, which arrive from `Irq.offset` on;
* `trapName`: the name of a trap in messages;
* `TrapCause.ofNumber`: what the kernel takes a trap for, and `TrapCause.isInterrupt`: whether it
  has to be acknowledged.
-/

namespace Exokernel

namespace TrapNumber

abbrev divide : UInt32 := 0
abbrev debug : UInt32 := 1
abbrev nonMaskable : UInt32 := 2
abbrev breakpoint : UInt32 := 3
abbrev overflow : UInt32 := 4
abbrev bound : UInt32 := 5
abbrev invalidOpcode : UInt32 := 6
abbrev deviceNotAvailable : UInt32 := 7
abbrev doubleFault : UInt32 := 8
abbrev invalidTaskState : UInt32 := 10
abbrev segmentNotPresent : UInt32 := 11
abbrev stackFault : UInt32 := 12
abbrev generalProtection : UInt32 := 13
abbrev pageFault : UInt32 := 14
abbrev floatingPoint : UInt32 := 16
abbrev alignment : UInt32 := 17
abbrev machineCheck : UInt32 := 18
abbrev vectorFloatingPoint : UInt32 := 19
/-- The system call gate. -/
abbrev syscall : UInt32 := 48
/-- The interrupt by which one processor asks another to reschedule. -/
abbrev reschedule : UInt32 := 50

end TrapNumber

namespace Irq

/-- Line `n` arrives as trap `offset + n`. -/
abbrev offset : UInt32 := 32
abbrev timer : UInt32 := 0
abbrev keyboard : UInt32 := 1
abbrev serial : UInt32 := 4
abbrev spurious : UInt32 := 7
abbrev network : UInt32 := 11
abbrev disk : UInt32 := 14
abbrev error : UInt32 := 19
/-- How many lines there are. -/
abbrev lines : UInt32 := 16

end Irq

/-- The names of the exceptions, in the order of their numbers. -/
def exceptionNames : List String :=
  ["Divide error", "Debug", "Non-Maskable Interrupt", "Breakpoint", "Overflow",
    "BOUND Range Exceeded", "Invalid Opcode", "Device Not Available", "Double Fault",
    "Coprocessor Segment Overrun", "Invalid TSS", "Segment Not Present", "Stack Fault",
    "General Protection", "Page Fault", "(unknown trap)", "x87 FPU Floating-Point Error",
    "Alignment Check", "Machine-Check", "SIMD Floating-Point Exception"]

/-- Whether `n` is the number of one of the interrupt lines. -/
def isIrqNumber (n : UInt32) : Bool :=
  Irq.offset ≤ n && n < Irq.offset + Irq.lines

/-- The name of a trap. -/
def trapName (n : UInt32) : String :=
  match exceptionNames[n.toNat]? with
  | some name => name
  | none =>
    if n = TrapNumber.syscall then "System call"
    else if n = TrapNumber.reschedule then "Reschedule IPI"
    else if isIrqNumber n then "Hardware Interrupt"
    else if n = Irq.offset + Irq.error then "LAPIC error"
    else "(unknown trap)"

/-- What the kernel takes a trap for. -/
inductive TrapCause where
  | pageFault
  | syscall
  | timer
  | reschedule
  | spurious
  /-- The interrupt controller reports an error of its own. -/
  | controllerError
  /-- A device asks for service on a line. -/
  | device (line : UInt32)
  | unexpected (number : UInt32)
  deriving DecidableEq

namespace TrapCause

/-- The cause that a trap number stands for. -/
def ofNumber (n : UInt32) : TrapCause :=
  if n = TrapNumber.pageFault then .pageFault
  else if n = TrapNumber.syscall then .syscall
  else if n = TrapNumber.reschedule then .reschedule
  else if n = Irq.offset + Irq.timer then .timer
  else if n = Irq.offset + Irq.spurious then .spurious
  else if n = Irq.offset + Irq.error then .controllerError
  else if isIrqNumber n then .device (n - Irq.offset)
  else .unexpected n

/-- Whether the trap comes from outside the running code and has to be acknowledged. -/
def isInterrupt : TrapCause → Bool
  | .timer | .reschedule | .spurious | .controllerError | .device _ => true
  | .pageFault | .syscall | .unexpected _ => false

end TrapCause

end Exokernel
