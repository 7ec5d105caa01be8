/-
Counters that several processors share.

* `Counter`: a 32-bit counter; it goes around at both ends;
* `Counter.increment`, `Counter.decrement`: give the new count, `Counter.release` whether the count
  came down to zero.
-/

namespace Exokernel

/-- A 32-bit counter. -/
structure Counter where
  value : UInt32 := 0
  deriving DecidableEq, Inhabited

namespace Counter

/-- Counts one up and gives the new count. -/
def increment (c : Counter) : UInt32 × Counter :=
  (c.value + 1, ⟨c.value + 1⟩)

/-- Counts one down and gives the new count. -/
def decrement (c : Counter) : UInt32 × Counter :=
  (c.value - 1, ⟨c.value - 1⟩)

/-- Counts one down and tells whether this was the last one. -/
def release (c : Counter) : Bool × Counter :=
  (c.value = 1, ⟨c.value - 1⟩)

/-- Sets the count. -/
def set (_ : Counter) (n : UInt32) : Counter := ⟨n⟩

end Counter

end Exokernel
