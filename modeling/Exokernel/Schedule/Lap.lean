/-
The order in which a scheduler looks for work: one lap around the process table.

Slot 0 belongs to the idle process and is never on the lap. A lap begins just behind the slot that
was dispatched last, so that this slot comes last, and every other slot once before it.

* `Lap`: a lap under way;
* `Lap.next?`: the next slot and the rest of the lap;
* `Lap.sizeHint`: how many slots are still to come;
* `Lap.take`: the next few slots and the rest of the lap;
* `Lap.slots`: all slots that are still to come.
-/

namespace Exokernel

/-- A lap around a table of `capacity` slots that stands at `position` and has `remaining` slots
before it. -/
structure Lap where
  position : Nat
  remaining : Nat
  capacity : Nat
  deriving DecidableEq

namespace Lap

/-- The lap that begins behind `cursor`. -/
def start (cursor capacity : Nat) : Lap :=
  ⟨if capacity = 0 then 0 else cursor % capacity, capacity - 1, capacity⟩

/-- The slot behind `position`, where slot 0 is left out. -/
def advance (position capacity : Nat) : Nat :=
  let next := (position + 1) % capacity
  if next = 0 then 1 else next

/-- The next slot and the rest of the lap, until there is none. -/
def next? (lap : Lap) : Option (Nat × Lap) :=
  match lap.remaining with
  | 0 => none
  | remaining + 1 =>
    let slot := advance lap.position lap.capacity
    some (slot, ⟨slot, remaining, lap.capacity⟩)

/-- How many slots are still to come: at least, and at most. -/
def sizeHint (lap : Lap) : Nat × Option Nat := (lap.remaining, some lap.remaining)

/-- The next slots, at most `n` of them, and the rest of the lap. -/
def take : Nat → Lap → List Nat × Lap
  | 0, lap => ([], lap)
  | n + 1, lap =>
    match lap.next? with
    | none => ([], lap)
    | some (slot, rest) => (take n rest).map (slot :: ·) id

/-- The slots that come after `position`, `n` of them. -/
def slotsFrom (capacity : Nat) : Nat → Nat → List Nat
  | _, 0 => []
  | position, n + 1 =>
    let slot := advance position capacity
    slot :: slotsFrom capacity slot n

/-- The slots that are still to come, in their order. -/
def slots (lap : Lap) : List Nat :=
  slotsFrom lap.capacity lap.position lap.remaining

@[simp] theorem length_slotsFrom (capacity position n : Nat) :
    (slotsFrom capacity position n).length = n := by
  induction n generalizing position with
  | zero => rfl
  | succ n ih => simp [slotsFrom, ih]

end Lap

end Exokernel
