/-
Spin locks around a value.

* `SpinLock`: the value and whether somebody holds the lock;
* `SpinLock.acquire?`: takes the lock, or gives nothing where the taker would have to spin;
* `SpinLock.release`, `SpinLock.write`: what the holder may do.
-/

namespace Exokernel

/-- A value behind a lock. -/
structure SpinLock (α : Type) where
  value : α
  held : Bool := false

namespace SpinLock

variable {α : Type}

instance [Inhabited α] : Inhabited (SpinLock α) := ⟨{ value := default }⟩

/-- Takes the lock and shows the value, unless somebody holds the lock. -/
def acquire? (lock : SpinLock α) : Option (α × SpinLock α) :=
  if lock.held then none else some (lock.value, { lock with held := true })

/-- Gives the lock back. -/
def release (lock : SpinLock α) : SpinLock α :=
  { lock with held := false }

/-- Replaces the value. -/
def write (lock : SpinLock α) (value : α) : SpinLock α :=
  { lock with value }

/-- The lock in reports, which leave the value out. -/
def text (lock : SpinLock α) : String :=
  "SpinLock \x7b locked: " ++ (if lock.held then "true" else "false") ++ ", .. \x7d"

end SpinLock

end Exokernel
