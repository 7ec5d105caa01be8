/-
Why a request fails, and how the answer to a system call tells it.

* `MachineError`: why the machine does not do what it is asked;
* `KernelError`: why the kernel does not, with the text and the number of each cause;
* `encodeResult`, `decodeResult`: an answer as the word that a system call leaves behind. Words that
  are negative as signed numbers tell of errors;
* `decodeResult_encodeResult_error`, `decodeResult_encodeResult_ok`: every error, and every value
  that is not negative, is told back as it was.
-/

namespace Exokernel

/-- Why the machine refuses a request. -/
inductive MachineError where
  /-- No frame is left. -/
  | outOfMemory
  /-- There is no driver for it. -/
  | notSupported
  /-- It was asked for something that makes no sense. -/
  | invalidArgument
  deriving DecidableEq

namespace MachineError

/-- The error in words. -/
def message : MachineError → String
  | .outOfMemory => "out of physical memory"
  | .notSupported => "not supported"
  | .invalidArgument => "invalid argument"

end MachineError

/-- Why the kernel refuses a request. -/
inductive KernelError where
  /-- The identity names no live process. -/
  | badProcess
  /-- An argument makes no sense. -/
  | invalidArgument
  /-- No frame is left. -/
  | outOfMemory
  /-- The process table is full. -/
  | noFreeProcess
  /-- A buffer lies outside the memory that the caller may use. -/
  | memoryAccessViolation
  /-- The receiver is not waiting for a message. -/
  | receiverNotWaiting
  /-- The caller is neither the target nor its parent. -/
  | permissionDenied
  deriving DecidableEq

namespace KernelError

/-- The error in words. -/
def message : KernelError → String
  | .badProcess => "bad process"
  | .invalidArgument => "invalid parameter"
  | .outOfMemory => "out of memory"
  | .noFreeProcess => "out of processes"
  | .memoryAccessViolation => "segmentation fault"
  | .receiverNotWaiting => "receiver not waiting"
  | .permissionDenied => "permission denied"

/-- The number of an error. -/
def number : KernelError → Int32
  | .badProcess => 2
  | .invalidArgument => 3
  | .outOfMemory => 4
  | .noFreeProcess => 5
  | .memoryAccessViolation => 6
  | .receiverNotWaiting => 7
  | .permissionDenied => 8

/-- What a system call answers to tell of an error: its number, negated. -/
def code (e : KernelError) : Int32 := -e.number

/-- Every error. -/
def all : List KernelError :=
  [.badProcess, .invalidArgument, .outOfMemory, .noFreeProcess, .memoryAccessViolation,
    .receiverNotWaiting, .permissionDenied]

/-- The error that an answer tells of. -/
def ofCode? (code : Int32) : Option KernelError :=
  all.find? (·.code = code)

theorem ofCode?_code (e : KernelError) : ofCode? e.code = some e := by
  cases e <;> decide

end KernelError

/-- A machine's refusal as the kernel passes it on. -/
def MachineError.toKernelError : MachineError → KernelError
  | .outOfMemory => .outOfMemory
  | .notSupported | .invalidArgument => .invalidArgument

/-! ### Answers -/

/-- The word that a system call leaves behind. -/
def encodeResult : Except KernelError UInt32 → Int32
  | .ok v => v.toInt32
  | .error e => e.code

/-- What a word left behind by a system call tells. A negative word that is no error's is taken for
an argument that makes no sense. -/
def decodeResult (answer : Int32) : Except KernelError UInt32 :=
  if answer < 0 then .error ((KernelError.ofCode? answer).getD .invalidArgument)
  else .ok answer.toUInt32

/-- **Every error is told back as it was.** -/
theorem decodeResult_encodeResult_error (e : KernelError) :
    decodeResult (encodeResult (.error e)) = .error e := by
  cases e <;> rfl

/-- **A value is told back as it was** exactly if it is not negative as a signed number. -/
theorem decodeResult_encodeResult_ok {v : UInt32} :
    decodeResult (encodeResult (.ok v)) = .ok v ↔ ¬ v.toInt32 < 0 := by
  by_cases h : v.toInt32 < 0 <;> simp [encodeResult, decodeResult, h]

end Exokernel
