/-
Waiting for a process to run again.

* `Bench.timers`: the timer of a processor fires several times;
* `Bench.Reachable.timer_bypasses`, `timer_bypassesPages`: **a timer** goes by everybody whom its
  processor does not have bound before it or after it;
* `Bench.Reachable.timer_nears`, `timers_back`: while a process is ready, every timer brings it
  nearer, so that it runs again **within one lap around the table**;
* `runUntil_returns`: waiting brings a process back, and so does every call after which the caller
  is ready.
-/
import Mathlib.Logic.Function.Iterate
import Exokernel.Proofs.Attribution
import Exokernel.Proofs.Interrupts
import Exokernel.Proofs.Kernel.Clock
import Exokernel.Proofs.Stores

namespace Exokernel

open Kernel

variable {config : Config} {frames : Nat}

/-! ### Sizes -/

/-- The kernel is configured as it was created, and has as many slots as it was to have. -/
lemma Reachable.sized {k : Kernel} (h : Reachable config frames k) :
    k.config = config ∧ k.table.capacity = config.maxProcesses := by
  induction h with
  | @boot k₀ k order hcreate _ hboot =>
    have hcalm := calm_bootAll hboot
    obtain ⟨-, -, htable, -⟩ := create_ok hcreate
    have hconfig : k₀.config = config := by
      rw [create] at hcreate
      split at hcreate
      · cases hcreate
      · cases hcreate
        rfl
    have hcapacity : k₀.table.capacity = config.maxProcesses := by
      rw [htable]
      exact Array.size_replicate
    exact ⟨hcalm.config.trans hconfig, hcalm.capacity.trans hcapacity⟩
  | step _ op _ ih => exact ⟨op.tallies.config.trans ih.1, op.tallies.capacity.trans ih.2⟩

namespace Bench

variable {t : Bench} {cpu n : Nat} {id : ProcessId} {o : Occupant} {f : TrapFrame}

/-- The bench keeps one place for each processor. -/
lemma Reachable.size (h : t.Reachable config frames) : t.occupants.size = config.cpus := by
  induction h with
  | begin _ => exact Array.size_replicate
  | operate _ _ _ ih => exact ih
  | trap _ _ _ ih => exact size_enter.trans ih
  | schedule _ _ _ ih => exact size_enter.trans ih
  | resume _ _ _ ih => exact Array.size_setIfInBounds.trans ih

/-! ### One timer -/

/-- The timer of a processor fires so many times. -/
def timers (t : Bench) (cpu n : Nat) : Bench := (fun t => (t.timer cpu).2)^[n] t

lemma timers_succ' (t : Bench) (cpu n : Nat) :
    t.timers cpu (n + 1) = ((t.timers cpu n).timer cpu).2 :=
  Function.iterate_succ_apply' ..

lemma kernel_timer : (t.timer cpu).2.kernel = (t.kernel.trap cpu (t.timerFrame cpu)).2 := by
  rw [timer_eq, snd_enterNext, kernel_enter]

/-- A timer fires in user code if somebody runs there. -/
lemma occupant?_of_timerFrame (h : (t.timerFrame cpu).isUser) : ∃ o, t.occupant? cpu = some o := by
  rw [timerFrame, frame?] at h
  cases ho : t.occupant? cpu with
  | some o => exact ⟨o, rfl⟩
  | none =>
    rw [ho] at h
    cases h

namespace Reachable

lemma timers (h : t.Reachable config frames) (cpu n : Nat) :
    (t.timers cpu n).Reachable config frames := by
  induction n generalizing t with
  | zero => exact h
  | succ n ih => exact ih (h.timer cpu)

/-- **What a timer comes to**: the processor gives up what it has bound and looks for something to
run. Or it runs somebody whom the kernel has taken away, and stops. -/
lemma timer_cases (h : t.Reachable config frames) (hcpu : cpu < config.cpus) :
    (∃ k₁, t.kernel.Vacates cpu k₁ ∧ (t.timer cpu).2 = (t.enter cpu (k₁.schedule cpu)).2) ∨
      ∃ o, t.occupant? cpu = some o ∧ t.kernel.current? cpu = none ∧
        t.kernel.Quiet (t.timer cpu).2.kernel := by
  by_cases hstuck : (t.timerFrame cpu).isUser ∧ t.kernel.current? cpu = none
  · obtain ⟨k₁, panic, hquiet, htrap⟩ := trap_unclaimed hstuck.1 hstuck.2
    obtain ⟨o, ho⟩ := occupant?_of_timerFrame hstuck.1
    refine .inr ⟨o, ho, hstuck.2, ?_⟩
    rw [kernel_timer, htrap]
    exact hquiet
  · obtain ⟨k₁, hvacates, htrap⟩ := trap_timer h.sound (h.kernel.cpus.symm ▸ hcpu)
      (timerFrame_cause t cpu) fun huser hnone => hstuck ⟨huser, hnone⟩
    refine .inl ⟨k₁, hvacates, ?_⟩
    rw [timer_eq, snd_enterNext, htrap]

/-- **A timer goes by everybody** whom its processor does not have bound before it or after it. -/
lemma timer_bypasses (h : t.Reachable config frames) (hcpu : cpu < config.cpus) :
    t.kernel.Bypasses cpu (t.timer cpu).2.kernel := by
  rcases h.timer_cases hcpu with ⟨k₁, hvacates, htimer⟩ | ⟨o, -, -, hquiet⟩
  · rw [htimer, kernel_enter]
    exact hvacates.bypasses h.sound
  · exact hquiet.bypasses

/-- **Nor does it touch their pages**, and it keeps address spaces apart. -/
lemma timer_bypassesPages (h : t.Reachable config frames) (hcpu : cpu < config.cpus)
    {number : UInt32} (hs : t.kernel.Separate number) :
    t.kernel.BypassesPages cpu (t.timer cpu).2.kernel ∧
      (t.timer cpu).2.kernel.Separate number := by
  rcases h.timer_cases hcpu with ⟨k₁, hvacates, htimer⟩ | ⟨o, -, -, hquiet⟩
  · rw [htimer, kernel_enter]
    exact ⟨hvacates.bypassesPages h.sound hs, hvacates.separate h.sound hs⟩
  · have hmoves : Moves Deed.Dispatch t.kernel (t.timer cpu).2.kernel := .quiet .quiet hquiet
    exact ⟨hquiet.bypassesPages, hmoves.separate h.sound (fun _ hd => hd.numbered) hs⟩

lemma timers_separate (h : t.Reachable config frames) (hcpu : cpu < config.cpus)
    {number : UInt32} (hs : t.kernel.Separate number) (n : Nat) :
    (t.timers cpu n).kernel.Separate number := by
  induction n with
  | zero => exact hs
  | succ n ih =>
    rw [timers_succ']
    exact ((h.timers cpu n).timer_bypassesPages hcpu ih).2

/-- Whoever runs after a timer, runs for the kernel as well. -/
lemma running_timer (h : t.Reachable config frames)
    (hnow : (t.timer cpu).2.current? cpu = some id) : ∃ f, (t.timer cpu).2.Running cpu id f := by
  obtain ⟨⟨id, f⟩, ho, rfl⟩ := Option.map_eq_some_iff.1 hnow
  refine ⟨f, ho, f, ?_⟩
  rw [kernel_timer]
  rw [timer_eq, snd_enterNext] at ho
  exact (trap_tells h.sound).user _ _ (occupant?_enter_self ho)

/-- A processor that has given up what it had bound runs a process that is ready, or comes nearer to
it. -/
lemma back_of_vacates (h : t.Reachable config frames) (hcpu : cpu < config.cpus) {k₁ : Kernel}
    (hvacates : t.kernel.Vacates cpu k₁) (hslot : id.slot ≠ idleSlot)
    (hready : t.kernel.Ready id ∨ ∃ g, t.kernel.RunsOn cpu id g) :
    (t.enter cpu (k₁.schedule cpu)).2.current? cpu = some id ∨
      (t.enter cpu (k₁.schedule cpu)).2.kernel.Ready id ∧
        (t.enter cpu (k₁.schedule cpu)).2.kernel.slotsAhead id < t.kernel.slotsAhead id := by
  have hcpu₁ : cpu < k₁.cpus.size := by rwa [hvacates.steady.cpus, h.kernel.cpus]
  rw [kernel_enter, ← hvacates.slotsAhead]
  refine (schedule_ready hvacates.idle hcpu₁ (hvacates.ready h.sound hready) hslot).imp_left ?_
  rintro ⟨f, hres⟩
  obtain ⟨-, ho⟩ := occupant?_enter_user (t := t) (h.size.symm ▸ hcpu) hres
  rw [current?, ho]
  rfl

/-- Who is ready, or runs on the processor, runs there after a timer, or is ready. -/
lemma timer_ready (h : t.Reachable config frames) (hcpu : cpu < config.cpus)
    (hslot : id.slot ≠ idleSlot) (hready : t.kernel.Ready id ∨ ∃ g, t.kernel.RunsOn cpu id g) :
    (t.timer cpu).2.current? cpu = some id ∨ (t.timer cpu).2.kernel.Ready id := by
  rcases h.timer_cases hcpu with ⟨k₁, hvacates, htimer⟩ | ⟨o, -, hnone, hquiet⟩
  · rw [htimer]
    exact (h.back_of_vacates hcpu hvacates hslot hready).imp_right And.left
  · refine .inr (hquiet.ready (hready.resolve_right ?_))
    rintro ⟨g, hrun⟩
    cases hnone.symm.trans (hrun.current? h.sound)

/-- **A timer fires while a process is ready**, on a processor whose process was not taken away: the
process runs after it, or is nearer. -/
lemma timer_nears (h : t.Reachable config frames) (hcpu : cpu < config.cpus)
    (hslot : id.slot ≠ idleSlot) (hready : t.kernel.Ready id)
    (hclaims : ∀ o, t.occupant? cpu = some o → t.kernel.current? cpu ≠ none) :
    (t.timer cpu).2.current? cpu = some id ∨
      (t.timer cpu).2.kernel.Ready id ∧
        (t.timer cpu).2.kernel.slotsAhead id < t.kernel.slotsAhead id := by
  rcases h.timer_cases hcpu with ⟨k₁, hvacates, htimer⟩ | ⟨o, ho, hnone, -⟩
  · rw [htimer]
    exact h.back_of_vacates hcpu hvacates hslot (.inl hready)
  · exact absurd hnone (hclaims o ho)

/-- After a timer the kernel has not taken away whoever runs. -/
lemma claims_timer (h : t.Reachable config frames) :
    ∀ o, (t.timer cpu).2.occupant? cpu = some o → (t.timer cpu).2.kernel.current? cpu ≠ none := by
  intro o ho hnone
  have hnow : (t.timer cpu).2.current? cpu = some o.id := by
    rw [current?, ho]
    rfl
  obtain ⟨f, -, g, hrun⟩ := h.running_timer hnow
  cases hnone.symm.trans (hrun.current? (h.timer cpu).sound)

/-! ### Waiting -/

/-- **A process that is ready runs again** before the timer has fired for every slot on the way. -/
lemma timers_back (h : t.Reachable config frames) (hcpu : cpu < config.cpus)
    (hslot : id.slot ≠ idleSlot) (hready : t.kernel.Ready id)
    (hclaims : ∀ o, t.occupant? cpu = some o → t.kernel.current? cpu ≠ none) {a : Nat}
    (ha : t.kernel.slotsAhead id < a) : ∃ n ≤ a, (t.timers cpu n).current? cpu = some id := by
  induction a generalizing t with
  | zero => omega
  | succ a ih =>
    rcases h.timer_nears hcpu hslot hready hclaims with hnow | ⟨hready', hnear⟩
    · exact ⟨1, by omega, hnow⟩
    · obtain ⟨n, hn, hback⟩ := ih (h.timer cpu) hready' h.claims_timer (by omega)
      exact ⟨n + 1, by omega, hback⟩

/-- So does one that is ready, or runs, before the timer has fired for every slot of the table. The
first time, it may be that a processor only stops running a process that was taken away, or gives up
the process itself. -/
lemma timers_table (h : t.Reachable config frames) (hcpu : cpu < config.cpus)
    (hslot : id.slot ≠ idleSlot) (hready : t.kernel.Ready id ∨ ∃ g, t.kernel.RunsOn cpu id g) :
    ∃ n ≤ config.maxProcesses, (t.timers cpu n).current? cpu = some id := by
  have hcapacity : ∀ {t : Bench}, t.Reachable config frames →
      t.kernel.table.capacity = config.maxProcesses := fun h => h.kernel.sized.2
  have hpos : 0 < config.maxProcesses := by
    have hlt : id.slot < t.kernel.table.capacity := by
      rcases hready with hready | ⟨g, p, hp, -⟩
      · exact lt_capacity_of_dispatchable hready.dispatchable
      · exact (Array.getElem?_eq_some_iff.1 (live?_eq_some_iff.1 hp).1).1
    rw [hcapacity h] at hlt
    omega
  rcases h.timer_ready hcpu hslot hready with hnow | hready'
  · exact ⟨1, hpos, hnow⟩
  · have hfar := hready'.slotsAhead_lt hslot
    rw [hcapacity (h.timer cpu)] at hfar
    obtain ⟨n, hn, hback⟩ := (h.timer cpu).timers_back hcpu hslot hready' h.claims_timer hfar
    exact ⟨n + 1, by omega, hback⟩

/-- Whoever runs after some timers, runs for the kernel as well, if it did so before the first. -/
lemma running_timers (h : t.Reachable config frames)
    (hfirst : t.current? cpu = some id → ∃ g, t.kernel.RunsOn cpu id g)
    (hnow : (t.timers cpu n).current? cpu = some id) : ∃ f, (t.timers cpu n).Running cpu id f := by
  cases n with
  | zero =>
    obtain ⟨⟨id, f⟩, ho, rfl⟩ := Option.map_eq_some_iff.1 hnow
    exact ⟨f, ho, hfirst hnow⟩
  | succ n =>
    rw [timers_succ'] at hnow ⊢
    exact (h.timers cpu n).running_timer hnow

end Reachable

/-- Waiting ends as soon as the process runs. -/
lemma runWithin_timers {N : Nat} (hn : n ≤ N) (hback : (t.timers cpu n).current? cpu = some id) :
    ∃ m ≤ n, runWithin cpu id N t = (true, t.timers cpu m) ∧
      (t.timers cpu m).current? cpu = some id := by
  induction N generalizing t n with
  | zero =>
    obtain rfl : n = 0 := by omega
    refine ⟨0, le_rfl, ?_, hback⟩
    rw [runWithin]
    exact Prod.ext (decide_eq_true hback) rfl
  | succ N ih =>
    rw [runWithin]
    split
    · next hnow => exact ⟨0, Nat.zero_le n, rfl, hnow⟩
    · next hnot =>
      cases n with
      | zero => exact absurd hback hnot
      | succ n =>
        obtain ⟨m, hm, hrun, hnow⟩ := ih (Nat.le_of_succ_le_succ hn) hback
        exact ⟨m + 1, Nat.succ_le_succ hm, hrun, hnow⟩

/-- **Waiting brings back** a process that is ready, or runs on the processor. -/
lemma Reachable.runUntil_back (h : t.Reachable config frames) (hcpu : cpu < config.cpus)
    (hslot : id.slot ≠ idleSlot) (hready : t.current? cpu = some id ∨ t.kernel.Ready id ∨
      ∃ g, t.kernel.RunsOn cpu id g) :
    ∃ n ≤ config.maxProcesses, t.runUntil cpu id = (true, t.timers cpu n) ∧
      (t.timers cpu n).current? cpu = some id := by
  obtain ⟨N, hN, hback⟩ : ∃ n ≤ config.maxProcesses, (t.timers cpu n).current? cpu = some id :=
    hready.elim (fun hnow => ⟨0, Nat.zero_le _, hnow⟩) (h.timers_table hcpu hslot)
  have hbudget : N ≤ t.kernel.config.maxProcesses + 1 := by
    rw [h.kernel.sized.1]
    omega
  obtain ⟨n, hn, hrun, hnow⟩ := runWithin_timers hbudget hback
  exact ⟨n, Nat.le_trans hn hN, hrun, hnow⟩

/-! ### Calls -/

/-- A process that its own call resumes is answered at once, and runs. -/
lemma call_resumed (h : t.Reachable config frames) (ho : t.occupant? cpu = some ⟨id, f⟩)
    {c : Syscall} {g : TrapFrame} (hres : (t.kernel.trap cpu (callFrame f c)).1 = .user id g) :
    t.call cpu c = (.returned g.regs.eax.toInt32,
        (t.enter cpu (t.kernel.trap cpu (callFrame f c))).2) ∧
      (t.enter cpu (t.kernel.trap cpu (callFrame f c))).2.Running cpu id g := by
  obtain ⟨hnow, ho'⟩ := occupant?_enter_user (lt_size_of_occupant? ho) hres
  refine ⟨?_, ho', g, ?_⟩
  · rw [call_of_occupant? ho, ← Prod.eta (t.enter cpu _), hnow]
    dsimp only
    rw [if_pos rfl, frame?_of_occupant? ho']
  · rw [kernel_enter]
    exact (trap_tells h.sound).user _ _ hres

/-- A process that its own call does not resume is ready then, if it can run at all. -/
lemma ready_of_call (h : t.Driven config frames) (hrun : t.Running cpu id f) {c : Syscall}
    (hnot : ∀ g, (t.kernel.trap cpu (callFrame f c)).1 ≠ .user id g) {p : Process}
    (hp : (t.kernel.trap cpu (callFrame f c)).2.live? id = some p)
    (hs : p.status = .runnable ∨ p.status = .running) :
    (t.kernel.trap cpu (callFrame f c)).2.Ready id := by
  have hk := h.reachable.sound
  obtain ⟨g, hruns⟩ := hrun.runs
  have hcur := hruns.current? hk
  obtain ⟨q, hq, -⟩ := hruns
  have huser : (callFrame f c).isUser := h.isUser hrun.occupant
  have hnone : p.resident = none := trap_unbound hk hcur hq huser hnot hp
  refine ready_iff.2 ⟨p, hp, dispatchable_iff.2 ⟨hs.resolve_right fun hrunning => ?_, hnone⟩⟩
  -- whoever runs is bound
  have hk' : (t.kernel.trap cpu (callFrame f c)).2.Sound := (trap_moves hk).sound hk
  have hbound := (hk'.tables.sound _ p (live?_eq_some_iff.1 hp).1).bound (.inl hrunning)
  rw [hnone] at hbound
  cases hbound

/-- Its processor goes on with another process after the call, or with none. -/
lemma call_switched (h : t.Driven config frames) (hrun : t.Running cpu id f) {c : Syscall}
    (hnot : ∀ g, (t.kernel.trap cpu (callFrame f c)).1 ≠ .user id g) :
    ∃ now, t.call cpu c =
        (.switched now, (t.enter cpu (t.kernel.trap cpu (callFrame f c))).2) ∧
      (t.enter cpu (t.kernel.trap cpu (callFrame f c))).2.current? cpu ≠ some id := by
  obtain ⟨g, hruns⟩ := hrun.runs
  have huser : (callFrame f c).isUser := h.isUser hrun.occupant
  have hcpu : cpu < t.kernel.cpus.size := by
    rw [h.reachable.kernel.cpus, ← h.reachable.size]
    exact lt_size_of_occupant? hrun.occupant
  have hgoes : ∀ panic, (t.kernel.trap cpu (callFrame f c)).1 ≠ .halt panic := fun panic => by
    refine trap_ne_halt h.reachable.sound hcpu ?_
    rw [if_pos huser, hruns.current? h.reachable.sound]
    rfl
  rw [call_of_occupant? hrun.occupant]
  refine ⟨(t.kernel.trap cpu (callFrame f c)).1.process?, ?_, fun hnow => ?_⟩
  · generalize t.kernel.trap cpu (callFrame f c) = r at hnot hgoes
    obtain ⟨resume, kernel⟩ := r
    cases resume with
    | user other g => exact if_neg fun heq => hnot g (by rw [Option.some.inj heq])
    | idle => rfl
    | halt panic => exact absurd rfl (hgoes panic)
  · obtain ⟨⟨id, g⟩, ho, rfl⟩ := Option.map_eq_some_iff.1 hnow
    exact hnot g (occupant?_enter_self ho)

/-- **A call of a process that stays ready** returns with the process on its processor. -/
lemma call_back (h : t.Driven config frames) (hcpu : cpu < config.cpus) (hslot : id.slot ≠ idleSlot)
    (hrun : t.Running cpu id f) {c : Syscall} {p : Process}
    (hp : (t.call cpu c).2.kernel.live? id = some p)
    (hs : p.status = .runnable ∨ p.status = .running) :
    ∃ f', ((⟨t, cpu, id⟩ : UserContext).trap c).1 = f'.regs.eax.toInt32 ∧
      ((⟨t, cpu, id⟩ : UserContext).trap c).2.bed.Running cpu id f' := by
  have hreach := h.reachable.trap cpu (callFrame f c)
  have hkernel : (t.enter cpu (t.kernel.trap cpu (callFrame f c))).2.kernel = _ := kernel_enter
  rw [kernel_call hrun.occupant] at hp
  rw [UserContext.trap_eq_settle]
  dsimp only
  by_cases hback : ∃ g, (t.kernel.trap cpu (callFrame f c)).1 = .user id g
  · obtain ⟨g, hres⟩ := hback
    obtain ⟨hcall, hrunning⟩ := call_resumed h.reachable hrun.occupant hres
    rw [hcall]
    exact ⟨g, rfl, hrunning⟩
  · rw [not_exists] at hback
    have hready := ready_of_call h hrun hback hp hs
    rw [← hkernel] at hready
    obtain ⟨now, hcall, hother⟩ := call_switched h hrun hback
    obtain ⟨n, -, hwaited, hnow⟩ := hreach.runUntil_back hcpu hslot (.inr (.inl hready))
    obtain ⟨g, hrunning⟩ := hreach.running_timers (fun hfirst => absurd hfirst hother) hnow
    refine ⟨g, ?_⟩
    rw [hcall, UserContext.settle]
    dsimp only
    rw [hwaited]
    dsimp only
    rw [frame?_of_occupant? hrunning.occupant]
    exact ⟨rfl, hrunning⟩

end Bench

open Bench in
/-- **Waiting brings a process back.** A processor of the bench waits for a process that is ready to
run and bound nowhere, or that runs there already. If the process is not in the idle slot, it runs
there before the timer has fired more often than there are slots, whatever the other processors run,
and whoever stands on this one. The timers go by everybody but those whom this processor gives up,
clears away or dispatches, and leave the pages of all others alone, as long as the numbers of
address spaces have not come round. The process runs there for the kernel as well, unless the bench
showed it there from the beginning, and the kernel did not run it. So a call of a process comes back
to it on its processor, as long as it stays ready to run. -/
theorem runUntil_returns {t : Bench} {cpu : Nat} (h : t.Driven config frames)
    (hcpu : cpu < config.cpus) :
    (∀ id, id.slot ≠ idleSlot →
      t.current? cpu = some id ∨ t.kernel.Ready id ∨ (∃ g, t.kernel.RunsOn cpu id g) →
      ∃ n ≤ config.maxProcesses, t.runUntil cpu id = (true, t.timers cpu n) ∧
        (t.timers cpu n).current? cpu = some id ∧
        ((t.current? cpu = some id → ∃ g, t.kernel.RunsOn cpu id g) →
          ∃ f, (t.timers cpu n).Running cpu id f) ∧
        (∀ m < n, (t.timers cpu m).kernel.Bypasses cpu (t.timers cpu (m + 1)).kernel) ∧
        (Early config frames t.kernel → ∀ m < n,
          (t.timers cpu m).kernel.BypassesPages cpu (t.timers cpu (m + 1)).kernel)) ∧
    ∀ id f c, id.slot ≠ idleSlot → t.Running cpu id f →
      (∃ p, (t.call cpu c).2.kernel.live? id = some p ∧
        (p.status = .runnable ∨ p.status = .running)) →
      ∃ f', ((⟨t, cpu, id⟩ : UserContext).trap c).1 = f'.regs.eax.toInt32 ∧
        ((⟨t, cpu, id⟩ : UserContext).trap c).2.bed.Running cpu id f' := by
  have hreach := h.reachable
  refine ⟨fun id hslot hready => ?_, fun id f c hslot hrun => ?_⟩
  · obtain ⟨n, hn, hrun, hnow⟩ := hreach.runUntil_back hcpu hslot hready
    refine ⟨n, hn, hrun, hnow, fun hfirst => hreach.running_timers hfirst hnow, fun m _ => ?_,
      fun hearly m _ => ?_⟩
    · rw [timers_succ']
      exact (hreach.timers cpu m).timer_bypasses hcpu
    · rw [timers_succ']
      exact ((hreach.timers cpu m).timer_bypassesPages hcpu
        (hreach.timers_separate hcpu hearly.separate m)).1
  · rintro ⟨p, hp, hs⟩
    exact call_back h hcpu hslot hrun hp hs

/-- A processor waits for the process in the last of five slots. It runs a process that the other
processor destroyed, clears that away, and goes by one more process. The other processor runs a
process that yields, and comes back to it. -/
theorem runUntil_returns_last : ∃ (t : Bench) (f : TrapFrame) (n : Nat),
    t.Driven { maxProcesses := 5, cpus := 2 } 32 ∧ t.kernel.Ready (ProcessId.self.next 4) ∧
      t.current? 1 = some (ProcessId.self.next 2) ∧
      t.kernel.live? (ProcessId.self.next 2) = none ∧
      t.runUntil 1 (ProcessId.self.next 4) = (true, t.timers 1 n) ∧
      (∃ g, (t.timers 1 n).Running 1 (ProcessId.self.next 4) g) ∧
      t.Running 0 (ProcessId.self.next 1) f ∧
      ∃ g, ((⟨t, 0, ProcessId.self.next 1⟩ : UserContext).trap .yield).2.bed.Running 0
        (ProcessId.self.next 1) g := by
  have hboot : Reachable { maxProcesses := 5, cpus := 2 } 32 _ := .boot rfl (.refl _) rfl
  have hspawned := ((((hboot.step (.spawn ⟨⟨0⟩, []⟩) trivial).step (.spawn ⟨⟨0⟩, []⟩) trivial).step
    (.spawn ⟨⟨0⟩, []⟩) trivial).step (.spawn ⟨⟨0⟩, []⟩) trivial).step (.spawn ⟨⟨0⟩, []⟩) trivial
  have hstart := (((Bench.Driven.begin hspawned).schedule 0 rfl).schedule 1 rfl).operate
    (.destroy 0 (ProcessId.self.next 2)) trivial
  obtain ⟨t, hdriven, hready, hother, hcurrent, hgone, hrunning, hstays⟩ :
      ∃ t : Bench, t.Driven { maxProcesses := 5, cpus := 2 } 32 ∧
        t.kernel.Ready (ProcessId.self.next 4) ∧ t.current? 1 ≠ some (ProcessId.self.next 4) ∧
        t.current? 1 = some (ProcessId.self.next 2) ∧
        t.kernel.live? (ProcessId.self.next 2) = none ∧
        t.Running 0 (ProcessId.self.next 1) ((t.frame? 0).getD (.initial 0)) ∧
        ((t.call 0 .yield).2.kernel.live? (ProcessId.self.next 1)).any (·.status = .runnable) :=
    ⟨_, hstart, by decide +kernel⟩
  obtain ⟨hwaits, -⟩ := runUntil_returns hdriven (by decide : 1 < 2)
  obtain ⟨-, hcalls⟩ := runUntil_returns hdriven (by decide : 0 < 2)
  obtain ⟨n, -, hrun, -, hends, -⟩ := hwaits (ProcessId.self.next 4) (by decide)
    (.inr (.inl hready))
  obtain ⟨p, hp, hs⟩ := (Option.any_eq_true ..).1 hstays
  obtain ⟨g, -, hback⟩ := hcalls (ProcessId.self.next 1) _ .yield (by decide) hrunning
    ⟨p, hp, .inl (of_decide_eq_true hs)⟩
  exact ⟨t, _, n, hdriven, hready, hcurrent, hgone, hrun, hends fun h => absurd h hother, hrunning,
    g, hback⟩

end Exokernel
