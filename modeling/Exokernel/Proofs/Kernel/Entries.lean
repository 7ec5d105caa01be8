/-
How a trap of a process enters the kernel.

* `Kernel.entered`: the kernel that has counted a trap and saved the registers of the process;
* `trap_entered`: **a trap of a process** is handled by that kernel, which then leaves the trap;
* `Kernel.called`, `Kernel.performed`: the kernel that carries out the call of a process, how the
  call ends and what it leaves behind;
* `handle_performed`: so a call is handled.
-/
import Exokernel.Proofs.Kernel.Bystanders

namespace Exokernel

deriving instance DecidableEq for Outcome

namespace Kernel

variable {k : Kernel} {id : ProcessId} {p : Process} {cpu : Nat} {f : TrapFrame}

/-- The kernel that has counted a trap on a processor and saved registers `f` for process `id`. -/
def entered (k : Kernel) (cpu : Nat) (id : ProcessId) (f : TrapFrame) : Kernel :=
  let k := k.modifyCpu cpu fun c => { c with traps := c.traps + 1 }
  k.modify id fun p => { p with frame := f }

lemma entered_saved (k : Kernel) (cpu : Nat) (id : ProcessId) (f : TrapFrame) :
    k.Saved id f (k.entered cpu id f) :=
  ⟨_, quiet_countTrap, .refl _⟩

/-- **A trap that process `id` takes** out of user code, on the processor that runs it, is handled
by a kernel that has counted it and saved the registers. -/
lemma trap_entered (hcur : k.current? cpu = some id) (hp : k.live? id = some p)
    (hres : p.resident = some cpu) (huser : f.isUser) : k.trap cpu f =
      ((k.entered cpu id f).handle cpu id f).2.leave cpu id
        ((k.entered cpu id f).handle cpu id f).1 := by
  obtain ⟨c, hc, hcid⟩ := Option.bind_eq_some_iff.1 hcur
  have hbound : (k.modifyCpu cpu fun c => { c with traps := c.traps + 1 }).isBound cpu id :=
    isBound_iff.2 ⟨p, hp, hres⟩
  rw [trap, hc]
  dsimp only
  rw [if_pos huser, hcid, userTrap]
  dsimp only
  rw [if_pos hbound]
  rfl

/-- The kernel that carries out the call of process `id`: the trap is counted, the registers are
saved, and the request is recorded. -/
def called (k : Kernel) (cpu : Nat) (id : ProcessId) (f : TrapFrame) : Kernel :=
  (k.entered cpu id f).audit id (.request f.call.number f.call.args)

/-- How the call ends that process `id` makes by a trap, and what it leaves behind. -/
def performed (k : Kernel) (cpu : Nat) (id : ProcessId) (f : TrapFrame) : Outcome × Kernel :=
  (k.called cpu id f).perform cpu id f.call

lemma called_saved (k : Kernel) (cpu : Nat) (id : ProcessId) (f : TrapFrame) :
    k.Saved id f (k.called cpu id f) :=
  ⟨_, quiet_countTrap, quiet_audit _ _⟩

/-- **A call is handled** by carrying it out and ending it with its outcome. -/
lemma handle_performed (cpu : Nat) (hp : k.live? id = some p)
    (hcause : TrapCause.ofNumber f.trapno = .syscall) : ∃ request,
      (k.entered cpu id f).handle cpu id f =
        (k.performed cpu id f).2.conclude cpu id request (k.performed cpu id f).1 := by
  refine ⟨(k.entered cpu id f).auditLog.nextId, ?_⟩
  rw [handle, hcause]
  dsimp only
  rw [systemCall, (entered_saved k cpu id f).live? hp]
  rfl

/-- A call that is understood is carried out by a kernel that has saved the registers. -/
lemma performed_ok (k : Kernel) (id : ProcessId) (cpu : Nat) {c : Syscall}
    (hc : Syscall.decode f.call = .ok c) : ∃ k₁,
    k.Saved id f k₁ ∧ k.performed cpu id f = k₁.execute cpu id c := by
  refine ⟨(k.called cpu id f).log .trace s!"[{id}] {c.name}",
    ⟨_, quiet_countTrap, (quiet_audit _ _).trans (quiet_log _ _)⟩, ?_⟩
  rw [performed, perform, hc]

/-- A call that is not understood is answered with an error. -/
lemma performed_error (k : Kernel) (id : ProcessId) (cpu : Nat) {e : KernelError}
    (hc : Syscall.decode f.call = .error e) : ∃ k₁,
    k.Saved id f k₁ ∧ k.performed cpu id f = (.answer (.error e), k₁) := by
  refine ⟨(k.called cpu id f).log .warn s!"[{id}] bad syscall {f.call.number}",
    ⟨_, quiet_countTrap, (quiet_audit _ _).trans (quiet_log _ _)⟩, ?_⟩
  rw [performed, perform, hc]

lemma performed_sound (hk : k.Sound) (hp : k.live? id = some p) (hres : p.resident = some cpu) :
    (k.performed cpu id f).2.Sound := by
  cases hc : Syscall.decode f.call with
  | error e =>
    obtain ⟨k₁, hsaved, heq⟩ := performed_error k id cpu hc
    rw [heq]
    exact hsaved.sound hk hp
  | ok c =>
    obtain ⟨k₁, hsaved, heq⟩ := performed_ok k id cpu hc
    rw [heq]
    have hk₁ := hsaved.sound hk hp
    exact (execute_moves (c := c) hk₁ (hsaved.live? hp) hres).1.sound hk₁

end Kernel

end Exokernel
