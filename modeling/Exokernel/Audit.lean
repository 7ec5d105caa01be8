/-
The audit log: every system call, with its answer, and every process that the kernel ends by itself.

* `TerminationCause`, `EventKind`, `AuditEvent`: what is recorded;
* `AuditLog`: the events that are kept. Events are numbered as they come, and of these only the
  last ones are kept, as many as the log has room for;
* `AuditLog.record`: adds an event and drops the oldest if there are too many;
* `AuditLog.length_events_record`: there are never too many.
-/

namespace Exokernel

/-- Why the kernel ended a process. -/
inductive TerminationCause where
  /-- A page fault that the process could not be told of. -/
  | pageFault (va eip : UInt32)
  /-- A trap that the kernel handles for no process. -/
  | unhandledTrap (trapno eip : UInt32)
  /-- A buffer outside the memory that the process may use. -/
  | badUserBuffer (va : UInt32)
  deriving DecidableEq

/-- What an event tells. -/
inductive EventKind where
  /-- A process asks for something. -/
  | request (number : UInt32) (args : List UInt32)
  /-- The request with the given number is answered, with no result if the process gave up the
  processor instead. -/
  | response (request : Nat) (result : Option Int32)
  /-- The kernel ends the process. -/
  | terminated (cause : TerminationCause)
  deriving DecidableEq

/-- An event. -/
structure AuditEvent where
  /-- The number of the event, from zero up. -/
  id : Nat
  /-- The process that it concerns. -/
  process : UInt32
  /-- Milliseconds since the start. -/
  timestamp : UInt32
  kind : EventKind
  deriving DecidableEq

/-- The last events. -/
structure AuditLog where
  /-- The events that are kept, oldest first. -/
  events : List AuditEvent
  /-- The number of the next event. -/
  nextId : Nat
  /-- How many events are kept. -/
  capacity : Nat

namespace AuditLog

/-- How many events are kept where nothing else is said. -/
abbrev defaultCapacity : Nat := 10000

/-- A log without events that keeps `capacity` of them. -/
def empty (capacity : Nat) : AuditLog := ⟨[], 0, capacity⟩

/-- The last `n` items of a list. -/
def lastN {α : Type} (n : Nat) (xs : List α) : List α :=
  xs.drop (xs.length - n)

@[simp] theorem length_lastN {α : Type} (n : Nat) (xs : List α) :
    (lastN n xs).length = min n xs.length := by
  simp only [lastN, List.length_drop]
  omega

/-- What was dropped once is of no account to later windows. -/
theorem lastN_lastN_append {α : Type} (n : Nat) (xs ys : List α) :
    lastN n (lastN n xs ++ ys) = lastN n (xs ++ ys) := by
  by_cases h : xs.length ≤ n
  · rw [show lastN n xs = xs by rw [lastN, Nat.sub_eq_zero_of_le h, List.drop_zero]]
  · have hd : xs.length - n ≤ xs.length := Nat.sub_le ..
    simp only [lastN, ← List.drop_append_of_le_length hd, List.drop_drop, List.length_drop,
      List.length_append]
    congr 1
    omega

/-- Adds an event. -/
def record (log : AuditLog) (process : UInt32) (kind : EventKind) (timestamp : UInt32) :
    AuditLog :=
  { log with
    events := lastN log.capacity (log.events ++ [⟨log.nextId, process, timestamp, kind⟩])
    nextId := log.nextId + 1 }

@[simp] theorem nextId_record (log : AuditLog) (process : UInt32) (kind : EventKind)
    (timestamp : UInt32) : (log.record process kind timestamp).nextId = log.nextId + 1 := rfl

/-- A log never keeps more events than it has room for. -/
theorem length_events_record (log : AuditLog) (process : UInt32) (kind : EventKind)
    (timestamp : UInt32) : (log.record process kind timestamp).events.length ≤ log.capacity := by
  simp only [record, length_lastN]
  omega

/-- Adds a request, and tells the number under which it is answered. -/
def request (log : AuditLog) (process number : UInt32) (args : List UInt32) (timestamp : UInt32) :
    Nat × AuditLog :=
  (log.nextId, log.record process (.request number args) timestamp)

/-- Adds the answer to a request. -/
def response (log : AuditLog) (process : UInt32) (request : Nat) (result : Option Int32)
    (timestamp : UInt32) : AuditLog :=
  log.record process (.response request result) timestamp

/-- Adds the end of a process. -/
def termination (log : AuditLog) (process : UInt32) (cause : TerminationCause)
    (timestamp : UInt32) : AuditLog :=
  log.record process (.terminated cause) timestamp

/-- The events that concern one process. -/
def ofProcess (log : AuditLog) (process : UInt32) : List AuditEvent :=
  log.events.filter (·.process = process)

end AuditLog

end Exokernel
