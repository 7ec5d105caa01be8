/-
What a machine tells of the interrupts that were served.

* `Machine.Services`: the ticks of the clock, the lines of the devices that were serviced, and the
  interrupts that each processor has acknowledged;
* `services_map`, `services_load`, `services_dismantle` and their like: **memory comes and goes**
  without any of them;
* `Services.serve`: what an interrupt adds to them.
-/
import Exokernel.Proofs.Memory.Work

namespace Exokernel

/-- What a machine tells of the interrupts that were served. -/
structure Machine.Services where
  ticks : UInt32
  /-- The lines of the devices that were serviced, oldest first. -/
  lines : List UInt32
  /-- How many interrupts each processor has acknowledged. -/
  acknowledged : Array UInt32

/-- The line of an interrupt, if it comes from a device that there is a driver for. -/
def TrapCause.drivenLine? : TrapCause → Option UInt32
  | .device line =>
    if line = Irq.keyboard ∨ line = Irq.serial ∨ line = Irq.network ∨ line = Irq.disk then some line
    else none
  | _ => none

namespace Machine

variable {m m' : Machine} {s n frame : Nat} {va : VirtAddr} {perm : Perm}

/-- The interrupts that a machine has served. -/
def services (m : Machine) : Services where
  ticks := m.ticks
  lines := m.serviced
  acknowledged := m.processors.map (·.acknowledged)

/-- What is told after an interrupt of a processor: the clock ticks for the processor that owns it,
a device that there is a driver for is serviced, and the processor acknowledges the interrupt. -/
def Services.serve (x : Services) (cpu : Nat) (cause : TrapCause) : Services where
  ticks := if cause = .timer ∧ cpu = bootCpu then x.ticks + 1 else x.ticks
  lines := x.lines ++ cause.drivenLine?.toList
  acknowledged := x.acknowledged.modify cpu (· + 1)

lemma acknowledgements_eq (m : Machine) (cpu : Nat) :
    m.acknowledgements cpu = m.services.acknowledged[cpu]?.getD 0 := by
  rw [acknowledgements, services, Array.getElem?_map]

/-! ### Memory -/

lemma services_ensureTable (h : m.ensureTable s va = .ok m') : m'.services = m.services := by
  obtain ⟨a, -, rfl | ⟨t, frames, -, -, rfl⟩⟩ := ensureTable_cases h
  · rfl
  · rfl

lemma services_map (h : m.map s frame va perm = .ok m') : m'.services = m.services := by
  obtain ⟨-, m₁, hens, rfl⟩ := map_cases h
  refine Eq.trans ?_ (services_ensureTable hens)
  rw [setPage]
  split
  · rfl
  · dsimp only
    split <;> rfl

lemma services_unmap : (m.unmap s va).services = m.services := by
  rw [unmap]
  split
  · rfl
  · split <;> rfl

lemma services_createSpace (h : m.createSpace = .ok (s, m')) : m'.services = m.services := by
  obtain ⟨directory, frames, -, -, rfl⟩ := createSpace_cases h
  rfl

lemma services_mapZeroed : (m.mapZeroed s va perm).2.services = m.services := by
  rw [mapZeroed]
  split
  · rfl
  · next n m₁ hall =>
    obtain ⟨frames, -, rfl⟩ := allocFrame_cases hall
    dsimp only
    split
    · rfl
    · next hmap =>
      have hsame := services_map hmap
      exact hsame

lemma Work.services (h : Work s m m') : m'.services = m.services := by
  cases h with
  | widen he hperm h => exact services_map h
  | fill va hperm => exact services_mapZeroed
  | write va data => rfl

lemma Works.services (h : Works s m m') : m'.services = m.services := by
  induction h with
  | refl => rfl
  | tail _ h ih => exact h.services.trans ih

lemma services_load (image : Image) : (m.load s image).2.services = m.services :=
  Works.services (load_works image)

lemma services_dismantle : (m.dismantle s).services = m.services := by
  have h := dismantle_withMemory (s := s) m m
  change m.dismantle s = _ at h
  rw [h]
  rfl

/-! ### Processors -/

/-- What is done to a processor, other than to acknowledge an interrupt. -/
lemma services_modifyProcessor {cpu : Nat} {f : Processor → Processor}
    (hf : ∀ p, (f p).acknowledged = p.acknowledged) :
    (m.modifyProcessor cpu f).services = m.services := by
  have hsame : (m.processors.modify cpu f).map (·.acknowledged) =
      m.processors.map (·.acknowledged) := by
    refine Array.ext_getElem? fun c => ?_
    rw [Array.getElem?_map, Array.getElem?_map, Array.getElem?_modify]
    split
    · cases m.processors[c]? with
      | none => rfl
      | some p => exact congrArg some (hf p)
    · rfl
  rw [services, services, modifyProcessor]
  dsimp only
  rw [hsame]

lemma services_acknowledge (cpu : Nat) : (m.acknowledge cpu).services =
    { m.services with acknowledged := m.services.acknowledged.modify cpu (· + 1) } := by
  have hcount : (m.processors.modify cpu fun p => { p with acknowledged := p.acknowledged + 1 }).map
      (·.acknowledged) = (m.processors.map (·.acknowledged)).modify cpu (· + 1) := by
    refine Array.ext_getElem? fun c => ?_
    rw [Array.getElem?_map, Array.getElem?_modify, Array.getElem?_modify, Array.getElem?_map]
    split
    · cases m.processors[c]? <;> rfl
    · rfl
  rw [services, acknowledge, modifyProcessor]
  dsimp only
  rw [hcount]
  rfl

end Machine

end Exokernel
