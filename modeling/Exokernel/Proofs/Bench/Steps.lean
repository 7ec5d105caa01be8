/-
The bench and the kernel in step.

* `Bench.Reachable`: the states that a bench reaches;
* `Reachable.sync`: **who runs on a processor of the bench** is whom the kernel thinks it runs,
  unless the kernel has taken it away since;
* `Reachable.call`, `Reachable.timer`, `Reachable.runWithin`, `Reachable.userTrap`: what the bench
  does leads from reachable states to reachable states.
-/
import Exokernel.Bench.Memory
import Exokernel.Proofs.Kernel.Drift
import Exokernel.Proofs.Processors

namespace Exokernel

namespace Operation

variable {k : Kernel} {op : Operation}

/-- An operation that gives no processor anything to run. -/
def Aside : Operation → Prop
  | .spawn _ | .allocate _ | .destroy _ _ | .latch _ _ | .store _ _ _ => True
  | .trap _ _ | .schedule _ => False

lemma Aside.legal (h : op.Aside) : op.Legal k := by
  cases op <;> trivial

lemma Aside.current (h : op.Aside) (hk : k.Sound) (cpu : Nat) :
    (op.apply k).current? cpu = k.current? cpu ∨ (op.apply k).current? cpu = none := by
  cases op with
  | spawn image => exact (Kernel.spawn_moves hk image).current Kernel.SpawnDeed.not_bind cpu
  | allocate parent =>
    have hmoves : Kernel.Moves k.SpawnDeed k _ := allocate_moves .quiet .make parent
    exact hmoves.current Kernel.SpawnDeed.not_bind cpu
  | destroy cpu id => exact (destroy_moves hk cpu id).current Kernel.DestroyDeed.not_bind _
  | latch | store => exact .inl rfl
  | trap | schedule => cases h

end Operation

namespace Bench

/-! ### Who runs where -/

variable {t : Bench} {cpu c : Nat} {o : Occupant} {r : Resume × Kernel}

/-- A state that a bench reaches. It begins with a kernel in any reachable state and nobody on its
processors. -/
inductive Reachable (config : Config) (frames : Nat) : Bench → Prop where
  | begin {k : Kernel} (hk : Exokernel.Reachable config frames k) :
      Reachable config frames ⟨k, Array.replicate config.cpus none⟩
  /-- The kernel is asked for something that no processor is given anything to run by. -/
  | operate {t : Bench} (h : Reachable config frames t) (op : Operation) (hop : op.Aside) :
      Reachable config frames { t with kernel := op.apply t.kernel }
  | trap {t : Bench} (h : Reachable config frames t) (cpu : Nat) (f : TrapFrame) :
      Reachable config frames (t.enter cpu (t.kernel.trap cpu f)).2
  | schedule {t : Bench} (h : Reachable config frames t) (cpu : Nat)
      (hnone : t.kernel.current? cpu = none) :
      Reachable config frames (t.enter cpu (t.kernel.schedule cpu)).2
  /-- The registers of a process that runs change. -/
  | resume {t : Bench} (h : Reachable config frames t) {cpu : Nat} {o : Occupant}
      (ho : t.occupant? cpu = some o) (f : TrapFrame) :
      Reachable config frames (t.setOccupant cpu (some ⟨o.id, f⟩))

lemma kernel_enter : (t.enter cpu r).2.kernel = r.2 := by
  obtain ⟨resume, kernel⟩ := r
  cases resume <;> rfl

lemma snd_enterNext : (t.enterNext cpu r).2 = (t.enter cpu r).2 := by
  rw [enterNext]
  rcases t.enter cpu r with ⟨_ | next, t'⟩ <;> rfl

/-- A call comes to a trap, if there is somebody to make it. -/
lemma snd_call (t : Bench) (cpu : Nat) (c : Syscall) :
    (t.call cpu c).2 = t ∨ ∃ f, (t.call cpu c).2 = (t.enter cpu (t.kernel.trap cpu f)).2 := by
  rw [call]
  split
  · exact .inl rfl
  · next o ho =>
    refine .inr ⟨{ o.frame.withCall c.encode with trapno := TrapNumber.syscall }, ?_⟩
    dsimp only
    split
    · next heq => rw [heq]
    · next heq =>
      rw [heq]
      split
      · split <;> rfl
      · rfl

lemma size_enter : (t.enter cpu r).2.occupants.size = t.occupants.size := by
  obtain ⟨resume, kernel⟩ := r
  cases resume <;> exact Array.size_setIfInBounds

lemma occupant?_setOccupant (o : Option Occupant) : (t.setOccupant cpu o).occupant? c =
    if cpu = c ∧ c < t.occupants.size then o else t.occupant? c := by
  simp only [occupant?, setOccupant, Array.getElem?_setIfInBounds]
  by_cases hc : cpu = c
  · subst hc
    by_cases hlt : cpu < t.occupants.size
    · simp [hlt]
    · simp [hlt]
  · simp [hc]

/-- Who runs on a processor that does what it was told. -/
lemma occupant?_enter_self (h : (t.enter cpu r).2.occupant? cpu = some o) :
    r.1 = .user o.id o.frame := by
  have hsize : ∀ o', ({ t with kernel := r.2 }.setOccupant cpu o').occupant? cpu = some o →
      o' = some o := fun o' h => by
    rw [occupant?_setOccupant] at h
    split at h
    · exact h
    · next hnot =>
      have hout : t.occupants[cpu]? = none :=
        Array.getElem?_eq_none (Nat.not_lt.1 fun hlt => hnot ⟨rfl, hlt⟩)
      change t.occupants[cpu]?.join = _ at h
      rw [hout] at h
      cases h
  obtain ⟨resume, kernel⟩ := r
  cases resume with
  | user id f =>
    cases hsize _ h
    rfl
  | idle => cases hsize _ h
  | halt panic => cases hsize _ h

lemma occupant?_enter_of_ne (hc : c ≠ cpu) :
    (t.enter cpu r).2.occupant? c = t.occupant? c := by
  have hsame : ∀ (k : Kernel) (o : Option Occupant),
      ({ t with kernel := k }.setOccupant cpu o).occupant? c = t.occupant? c := fun k o => by
    rw [occupant?_setOccupant, if_neg fun h => hc h.1.symm]
    rfl
  obtain ⟨resume, kernel⟩ := r
  cases resume <;> exact hsame _ _

namespace Reachable

variable {config : Config} {frames : Nat}

/-- The kernel of a bench is reachable as well. -/
lemma kernel (h : Reachable config frames t) : Exokernel.Reachable config frames t.kernel := by
  induction h with
  | begin hk => exact hk
  | operate _ op hop ih => exact ih.step op hop.legal
  | @trap t _ cpu f ih =>
    rw [kernel_enter]
    exact ih.step (.trap cpu f) trivial
  | @schedule t _ cpu hnone ih =>
    rw [kernel_enter]
    exact ih.step (.schedule cpu) hnone
  | resume _ _ _ ih => exact ih

lemma sound (h : Reachable config frames t) : t.kernel.Sound := h.kernel.sound

/-- **Who runs on a processor of the bench** is whom the kernel thinks it runs, unless the kernel
has taken it away since. -/
lemma sync (h : Reachable config frames t) (ho : t.occupant? cpu = some o) :
    t.kernel.current? cpu = some o.id ∨ t.kernel.current? cpu = none := by
  induction h generalizing cpu o with
  | begin hk =>
    rw [occupant?, Array.getElem?_replicate] at ho
    split at ho <;> cases ho
  | operate h op hop ih =>
    rcases hop.current h.sound cpu with hsame | hnone
    · rw [hsame]
      exact ih ho
    · exact .inr hnone
  | @trap t h c f ih =>
    rw [kernel_enter]
    by_cases hc : cpu = c
    · subst hc
      have hsound : (t.kernel.trap cpu f).2.Sound := (Kernel.trap_moves h.sound).sound h.sound
      exact .inl (((Kernel.trap_tells h.sound).user _ _ (occupant?_enter_self ho)).current? hsound)
    · rw [occupant?_enter_of_ne hc] at ho
      rw [(Kernel.trap_undisturbed h.sound h.kernel.loaded (Ne.symm hc)).1]
      exact ih ho
  | @schedule t h c hnone ih =>
    rw [kernel_enter]
    by_cases hc : cpu = c
    · subst hc
      have hsound : (t.kernel.schedule cpu).2.Sound :=
        (Kernel.schedule_anyMoves hnone).sound h.sound
      exact .inl (((Kernel.schedule_tells h.sound hnone).user _ _
        (occupant?_enter_self ho)).current? hsound)
    · rw [occupant?_enter_of_ne hc] at ho
      rw [(Kernel.schedule_undisturbed h.sound h.kernel.loaded hnone (Ne.symm hc)).1]
      exact ih ho
  | @resume t h c o' ho' f ih =>
    rw [occupant?_setOccupant] at ho
    split at ho
    · next hc =>
      cases ho
      rw [← hc.1]
      exact ih (o := o') ho'
    · exact ih ho

/-! ### What the bench does -/

lemma timer (h : Reachable config frames t) (cpu : Nat) :
    Reachable config frames (t.timer cpu).2 := by
  rw [Bench.timer, snd_enterNext]
  exact h.trap cpu _

lemma runWithin (h : Reachable config frames t) (cpu : Nat) (id : ProcessId) (n : Nat) :
    Reachable config frames (Bench.runWithin cpu id n t).2 := by
  induction n generalizing t with
  | zero => exact h
  | succ n ih =>
    rw [Bench.runWithin]
    split
    · exact h
    · exact ih (h.timer cpu)

lemma runUntil (h : Reachable config frames t) (cpu : Nat) (id : ProcessId) :
    Reachable config frames (t.runUntil cpu id).2 :=
  h.runWithin cpu id _

lemma call (h : Reachable config frames t) (cpu : Nat) (c : Syscall) :
    Reachable config frames (t.call cpu c).2 := by
  rcases snd_call t cpu c with hsame | ⟨f, htrap⟩
  · rwa [hsame]
  · rw [htrap]
    exact h.trap cpu f

/-- A call that is waited out. -/
lemma userTrap {u : UserContext} (h : Reachable config frames u.bed) (c : Syscall) :
    Reachable config frames (u.trap c).2.bed := by
  have hcall := h.call u.cpu c
  rw [UserContext.trap]
  split
  · next heq => rwa [heq] at hcall
  · next heq => rwa [heq] at hcall
  · next heq =>
    rw [heq] at hcall
    have hrun := hcall.runUntil u.cpu u.process
    split
    · next heq => rwa [heq] at hrun
    · next heq =>
      rw [heq] at hrun
      split <;> exact hrun

/-- A copy of memory that user code makes. -/
lemma copyPage {u : UserContext} (h : Reachable config frames u.bed) (dst src : VirtAddr) :
    Reachable config frames (u.copyPage dst src).2.bed := by
  rw [UserContext.copyPage]
  split
  · exact h
  · next s _ =>
    split
    · exact h
    · next bytes _ =>
      have hstore := h.operate (.store s dst bytes) trivial
      rw [Operation.apply] at hstore
      split
      · next heq => rwa [heq] at hstore
      · next heq => rwa [heq] at hstore

end Reachable

end Bench

end Exokernel
