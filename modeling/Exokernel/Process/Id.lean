/-
Process identities.

* `ProcessId`: 32 bits, of which the low twelve name a slot of the process table and the rest count
  the processes that the slot has held. Zero is not issued: it stands for whoever is asking;
* `ProcessId.next`: the identity that a slot issues after its last one. The count runs through
  `1, …, 2 ^ 19 - 1` and starts again, so that identities are positive as signed numbers and a slot
  repeats one only after `2 ^ 19 - 1` processes.
-/
import Exokernel.Text.Hex

namespace Exokernel

/-- The identity of a process. -/
structure ProcessId where
  raw : UInt32
  deriving DecidableEq

namespace ProcessId

/-- How many bits of an identity name the slot. -/
abbrev slotBits : Nat := 12

/-- How many slots an identity can name. -/
abbrev slotCount : Nat := 4096

/-- How many generations there are, zero included, which is never issued. -/
abbrev generationCount : Nat := 524288

/-- Whoever is asking; also the parent of the processes that the kernel makes by itself. -/
def self : ProcessId := ⟨0⟩

instance : Inhabited ProcessId := ⟨self⟩

/-- The slot that the identity names. -/
def slot (id : ProcessId) : Nat := id.raw.toNat % slotCount

/-- How many processes the slot had issued with this one, apart from full rounds. -/
def generation (id : ProcessId) : Nat := id.raw.toNat / slotCount

/-- Whether the identity stands for whoever is asking. -/
def isSelf (id : ProcessId) : Bool := id = self

/-- The identity of a slot and a generation, of each as much as there is room for. -/
def ofParts (slot generation : Nat) : ProcessId :=
  ⟨UInt32.ofNat (generation % generationCount * slotCount + slot % slotCount)⟩

/-- The identity that `slot` issues after `previous`, its last one, or `self` for the first. -/
def next (previous : ProcessId) (slot : Nat) : ProcessId :=
  let generation := (previous.generation + 1) % generationCount
  ofParts slot (if generation = 0 then 1 else generation)

/-- The identity as messages write it: eight hexadecimal digits. -/
def text (id : ProcessId) : String := Text.hexPadded 8 id.raw.toNat

instance : ToString ProcessId := ⟨text⟩

theorem slot_lt (id : ProcessId) : id.slot < slotCount := Nat.mod_lt _ (by decide)

@[simp] theorem slot_ofParts (slot generation : Nat) :
    (ofParts slot generation).slot = slot % slotCount := by
  simp only [ofParts, ProcessId.slot, slotCount, generationCount, UInt32.toNat_ofNat']
  omega

@[simp] theorem generation_ofParts (slot generation : Nat) :
    (ofParts slot generation).generation = generation % generationCount := by
  simp only [ofParts, ProcessId.generation, slotCount, generationCount, UInt32.toNat_ofNat']
  omega

theorem slot_next (previous : ProcessId) {slot : Nat} (h : slot < slotCount) :
    (previous.next slot).slot = slot := by
  simp only [next, slot_ofParts, Nat.mod_eq_of_lt h]

end ProcessId

end Exokernel
