/-
What a process is doing, and the mailbox that it receives through.

* `ProcessStatus`: the states of a slot of the process table, with their numbers in system calls;
* `ProcessStatus.isLive`: whether the slot holds a process that is not being torn down;
* `Mailbox`: what a process waits for and what it was sent last.
-/
import Exokernel.Address
import Exokernel.Perm
import Exokernel.Process.Id

namespace Exokernel

/-- The state of a slot of the process table. -/
inductive ProcessStatus where
  /-- The slot is unused and on the free list. -/
  | free
  /-- Ready to be dispatched. -/
  | runnable
  /-- Bound to a processor. -/
  | running
  /-- Waiting for a message, or held by its parent. -/
  | notRunnable
  /-- Being torn down. -/
  | dying
  deriving DecidableEq, Inhabited

namespace ProcessStatus

/-- The number of a status in system calls. -/
def number : ProcessStatus → UInt32
  | .free => 0
  | .runnable => 1
  | .running => 2
  | .notRunnable => 3
  | .dying => 4

/-- The status with the given number. -/
def ofNumber? (n : UInt32) : Option ProcessStatus :=
  if n = 0 then some .free
  else if n = 1 then some .runnable
  else if n = 2 then some .running
  else if n = 3 then some .notRunnable
  else if n = 4 then some .dying
  else none

/-- Whether the slot holds a process that is not being torn down. -/
def isLive : ProcessStatus → Bool
  | .free | .dying => false
  | .runnable | .running | .notRunnable => true

/-- The name of a status in reports. -/
def name : ProcessStatus → String
  | .free => "Free"
  | .runnable => "Runnable"
  | .running => "Running"
  | .notRunnable => "NotRunnable"
  | .dying => "Dying"

/-- Every status, in the order of the numbers. -/
def all : List ProcessStatus := [.free, .runnable, .running, .notRunnable, .dying]

theorem ofNumber?_number (s : ProcessStatus) : ofNumber? s.number = some s := by
  cases s <;> rfl

theorem number_of_ofNumber? {n : UInt32} {s : ProcessStatus} (h : ofNumber? n = some s) :
    s.number = n := by
  grind [ofNumber?, number]

end ProcessStatus

/-- What a process waits for, and the last message that it was sent. -/
structure Mailbox where
  /-- The process is blocked and takes one message. -/
  receiving : Bool := false
  /-- Where it wants a page mapped, if anywhere. -/
  dstVa : Option VirtAddr := none
  /-- Who sent the last message. -/
  sender : ProcessId := .self
  /-- The value of the last message. -/
  value : UInt32 := 0
  /-- The permissions of the page that came with it; empty if none did. -/
  perm : Perm := .none
  deriving DecidableEq, Inhabited

end Exokernel
