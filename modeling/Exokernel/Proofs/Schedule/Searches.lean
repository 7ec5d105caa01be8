/-
Where in a trap a processor looks for its next process.

* `Kernel.trapSearch?`: the kernel in which a processor that took a trap looks for its next process;
* `trap_follows`: **the trap comes to what the scheduler finds there**, and otherwise the processor
  goes on with its process or stops.
-/
import Exokernel.Proofs.Kernel.Calm

namespace Exokernel.Kernel

variable {k k' : Kernel} {id : ProcessId} {cpu : Nat} {f : TrapFrame}

/-! ### Looking for the next process -/

/-- The kernel in which a processor that leaves a trap looks for its next process, unless it goes on
with the process `id`. -/
def leaveSearch? (k : Kernel) (cpu : Nat) (id : ProcessId) : Flow → Option Kernel
  | .switch => some (k.clearStale cpu id)
  | .stay =>
    match k.live? id with
    | none => some (k.clearStale cpu id)
    | some p =>
      if p.status = .running ∧ p.resident = some cpu then none else some (k.unbind cpu id)

/-- The kernel in which a processor looks for its next process after a trap out of user code. -/
def userTrapSearch? (k : Kernel) (cpu : Nat) (current : Option ProcessId) (f : TrapFrame) :
    Option Kernel :=
  match current with
  | none => none
  | some id =>
    if k.isBound cpu id then
      let (flow, k) := (k.modify id fun p => { p with frame := f }).handle cpu id f
      k.leaveSearch? cpu id flow
    else
      let k := (k.log .debug s!"cpu {cpu}: {id} is gone").clearStale cpu id
      let cause := TrapCause.ofNumber f.trapno
      some (if cause.isInterrupt then k.acknowledgeInterrupt cpu cause else k)

/-- The kernel in which a processor looks for its next process after a trap inside the kernel. -/
def kernelTrapSearch? (k : Kernel) (cpu : Nat) (current : Option ProcessId) (f : TrapFrame) :
    Option Kernel :=
  let cause := TrapCause.ofNumber f.trapno
  if cause.isInterrupt then
    let k := k.acknowledgeInterrupt cpu cause
    some (match current with
      | none => k
      | some id => k.preempt cpu id)
  else none

/-- **The kernel in which a processor that took a trap looks for its next process**, if it does. -/
def trapSearch? (k : Kernel) (cpu : Nat) (f : TrapFrame) : Option Kernel :=
  match k.cpus[cpu]? with
  | none => none
  | some c =>
    let k := k.modifyCpu cpu fun c => { c with traps := c.traps + 1 }
    if f.isUser then k.userTrapSearch? cpu c.current f else k.kernelTrapSearch? cpu c.current f

/-- What a processor that has `current` bound comes to when it looks for its next process, or not:
it schedules, or it leaves the scheduler alone and goes on with `current` or stops. -/
def FollowsSearch (k : Kernel) (cpu : Nat) (current : Option ProcessId) (search : Option Kernel)
    (r : Resume × Kernel) : Prop :=
  match search with
  | some k₁ => k.Steady k₁ ∧ r = k₁.schedule cpu
  | none => k.Steady r.2 ∧ r.1 ≠ .idle ∧ ∀ id g, r.1 = .user id g → current = some id

variable {current : Option ProcessId}

lemma FollowsSearch.of_steady {search : Option Kernel} {r : Resume × Kernel} (h : k.Steady k')
    (hr : k'.FollowsSearch cpu current search r) : k.FollowsSearch cpu current search r := by
  cases search with
  | none => exact ⟨h.trans hr.1, hr.2⟩
  | some k₁ => exact ⟨h.trans hr.1, hr.2⟩

lemma leave_follows (flow : Flow) :
    k.FollowsSearch cpu (some id) (k.leaveSearch? cpu id flow) (k.leave cpu id flow) := by
  cases flow with
  | switch => exact ⟨calm_clearStale.toSteady, rfl⟩
  | stay =>
    rw [leaveSearch?, leave]
    cases hp : k.live? id with
    | none => exact ⟨calm_clearStale.toSteady, rfl⟩
    | some p =>
      dsimp only
      split
      · refine ⟨.refl k, by rintro ⟨⟩, fun id' g h => ?_⟩
        cases h
        rfl
      · exact ⟨calm_unbind.toSteady, rfl⟩

lemma userTrap_follows : k.FollowsSearch cpu current (k.userTrapSearch? cpu current f)
    (k.userTrap cpu current f) := by
  cases current with
  | none =>
    refine ⟨?_, nofun, nofun⟩
    exact (calm_log .fatal _).toSteady
  | some id =>
    rw [userTrapSearch?, userTrap]
    dsimp only
    split
    · exact .of_steady ((calm_modify _).trans_serviced serviced_handle).toSteady (leave_follows _)
    · have hclear : k.Calm ((k.log .debug s!"cpu {cpu}: {id} is gone").clearStale cpu id) :=
        (calm_log _ _).trans calm_clearStale
      refine ⟨?_, rfl⟩
      split
      · next hcause => exact (hclear.trans_serviced (serviced_acknowledgeInterrupt hcause)).toSteady
      · exact hclear.toSteady

lemma kernelTrap_follows : k.FollowsSearch cpu current (k.kernelTrapSearch? cpu current f)
    (k.kernelTrap cpu current f) := by
  rw [kernelTrapSearch?, kernelTrap]
  dsimp only
  split
  · next hcause =>
    have hack : k.Serviced cpu _ (k.acknowledgeInterrupt cpu (TrapCause.ofNumber f.trapno)) :=
      serviced_acknowledgeInterrupt hcause
    refine ⟨?_, rfl⟩
    cases current with
    | none => exact hack.toSteady
    | some id => exact (hack.trans_calm calm_preempt).toSteady
  · refine ⟨?_, by rintro ⟨⟩, by rintro _ _ ⟨⟩⟩
    exact (calm_log .fatal _).toSteady

/-- **A processor that took a trap** asks the scheduler in the kernel in which it looks for its next
process, and until then nobody has moved the place of the scheduler. Or it goes on with the process
that it had. -/
lemma trap_follows :
    k.FollowsSearch cpu (k.current? cpu) (k.trapSearch? cpu f) (k.trap cpu f) := by
  rw [trapSearch?, trap, current?]
  cases hc : k.cpus[cpu]? with
  | none => exact ⟨.refl k, by rintro ⟨⟩, by rintro _ _ ⟨⟩⟩
  | some c =>
    dsimp only
    rw [Option.bind_some]
    split
    · exact .of_steady (calm_modifyCpu _).toSteady userTrap_follows
    · exact .of_steady (calm_modifyCpu _).toSteady kernelTrap_follows

/-- Only a processor that is there takes a trap. -/
lemma lt_of_trapSearch? (h : k.trapSearch? cpu f = some k') : cpu < k.cpus.size := by
  rw [trapSearch?] at h
  split at h
  · cases h
  · next c hc => exact (Array.getElem?_eq_some_iff.1 hc).1

end Exokernel.Kernel
