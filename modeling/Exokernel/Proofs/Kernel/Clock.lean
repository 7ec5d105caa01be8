/-
What the clock does to a processor.

* `Kernel.Ready`: a process that may be dispatched;
* `Kernel.Vacates`: a processor has given up what it had bound, and looks for something to run;
* `Kernel.trap_timer`: **an interrupt of the clock** comes to that, out of user code and inside the
  kernel;
* `Kernel.slotsAhead`, `Kernel.schedule_ready`: **a process that is ready** is dispatched then, or
  the scheduler comes nearer to it;
* `Kernel.Bypasses`, `Vacates.bypasses`: **all other processes** are left alone;
* `Kernel.BypassesPages`, `Vacates.bypassesPages`: so are their pages, as long as address spaces are
  kept apart.
-/
import Exokernel.Proofs.Fairness
import Exokernel.Proofs.Kernel.Effects
import Exokernel.Proofs.Processors

namespace Exokernel.Kernel

variable {k k' k₁ k₂ : Kernel} {id : ProcessId} {p : Process} {cpu slot : Nat} {f g : TrapFrame}

/-! ### Processes that are ready -/

/-- A process is ready to run, and bound nowhere. -/
def Ready (k : Kernel) (id : ProcessId) : Prop := (k.live? id).any Process.dispatchable

instance : Decidable (k.Ready id) := inferInstanceAs (Decidable (_ = true))

lemma ready_iff : k.Ready id ↔ ∃ p, k.live? id = some p ∧ p.dispatchable := Option.any_eq_true ..

lemma dispatchable_iff : p.dispatchable ↔ p.status = .runnable ∧ p.resident = none := by
  rw [Process.dispatchable, Bool.and_eq_true, decide_eq_true_eq, decide_eq_true_eq]

lemma Quiet.ready (h : k.Quiet k') (hready : k.Ready id) : k'.Ready id := by
  rwa [Ready, h.live?]

/-- The slot of a process that is ready may be dispatched. -/
lemma Ready.dispatchable (h : k.Ready id) : k.dispatchable id.slot := by
  obtain ⟨p, hp, hready⟩ := ready_iff.1 h
  rw [Kernel.dispatchable, (live?_eq_some_iff.1 hp).1]
  exact hready

/-! ### Giving up a processor -/

/-- What is about nobody, or about the process that a processor has bound. -/
def Deed.Here (k : Kernel) (cpu : Nat) (d : Deed) : Prop :=
  d = .quiet ∨ ∃ id, k.current? cpu = some id ∧ d.Own id

/-- **A processor has given up what it had bound**, by `k₁`, and looks for something to run. Nothing
else was done, and nobody has moved the place of the scheduler. Whoever ran there is ready. -/
structure Vacates (k : Kernel) (cpu : Nat) (k₁ : Kernel) : Prop where
  steady : k.Steady k₁
  moves : Moves (Deed.Here k cpu) k k₁
  idle : k₁.current? cpu = none
  paused : ∀ id g, k.RunsOn cpu id g → k₁.Ready id

/-- What a processor does before it gives up what it has bound. -/
lemma Vacates.after (h : k'.Vacates cpu k₁) (hsteady : k.Steady k')
    (hmoves : Moves (Deed.Here k cpu) k k') (hcur : k'.current? cpu = k.current? cpu)
    (hruns : ∀ id g, k.RunsOn cpu id g → ∃ g', k'.RunsOn cpu id g') : k.Vacates cpu k₁ where
  steady := hsteady.trans h.steady
  moves := hmoves.trans (h.moves.mono fun d hd => by rwa [Deed.Here, hcur] at hd)
  idle := h.idle
  paused id g hrun := by
    obtain ⟨g', hrun'⟩ := hruns id g hrun
    exact h.paused id g' hrun'

lemma Vacates.after_quiet (h : k'.Vacates cpu k₁) (hsteady : k.Steady k') (hquiet : k.Quiet k') :
    k.Vacates cpu k₁ :=
  h.after hsteady (.quiet (.inl rfl) hquiet) (hquiet.current cpu)
    fun _ g hrun => ⟨g, hquiet.runsOn hrun⟩

lemma Vacates.quiet (h : k.Vacates cpu k₁) (hsteady : k₁.Steady k₂) (hquiet : k₁.Quiet k₂) :
    k.Vacates cpu k₂ where
  steady := h.steady.trans hsteady
  moves := h.moves.trans (.quiet (.inl rfl) hquiet)
  idle := (hquiet.current cpu).trans h.idle
  paused id g hrun := hquiet.ready (h.paused id g hrun)

/-- A processor that has nothing bound has nothing to give up. -/
lemma vacates_idle (hk : k.Sound) (hnone : k.current? cpu = none) : k.Vacates cpu k where
  steady := .refl k
  moves := .refl
  idle := hnone
  paused id g hrun := by cases hnone.symm.trans (hrun.current? hk)

/-- A processor clears away what is gone. -/
lemma vacates_clearStale (hk : k.Sound) (hcur : k.current? cpu = some id)
    (hgone : k.live? id = none) : k.Vacates cpu (k.clearStale cpu id) where
  steady := calm_clearStale.toSteady
  moves := clearStale_moves hk (fun _ => hgone) (.inl rfl) (.inr ⟨id, hcur, .clear⟩)
  idle := current?_clearStale (.inl hcur)
  paused id' g hrun := by
    obtain rfl : id = id' := Option.some.inj (hcur.symm.trans (hrun.current? hk))
    obtain ⟨p, hp, -⟩ := hrun
    rw [hgone] at hp
    cases hp

/-- **A processor is taken from its process**, which is ready then if it ran. -/
lemma vacates_preempt (hk : k.Sound) (hcur : k.current? cpu = some id) :
    k.Vacates cpu (k.preempt cpu id) := by
  obtain ⟨hmoves, hnone⟩ := preempt_moves (A := Deed.Here k cpu) hk hcur (.inl rfl)
    (.inr ⟨id, hcur, .edit⟩) (.inr ⟨id, hcur, .unbind⟩) (.inr ⟨id, hcur, .clear⟩)
  refine ⟨calm_preempt.toSteady, hmoves, hnone, fun id' g hrun => ?_⟩
  obtain rfl : id = id' := Option.some.inj (hcur.symm.trans (hrun.current? hk))
  obtain ⟨p, hp, hstatus, hres, -⟩ := hrun
  have hedit := edit_paused (live?_eq_some_iff.1 hp).2.2 (p.resident = some cpu)
  have hpaused := live?_unbind (live?_modify (f := fun p => if p.status = .running ∧
    p.resident = some cpu then { p with status := .runnable } else p) hp hedit.id hedit.live)
    (hedit.resident.trans hres)
  rw [preempt, hp]
  refine ready_iff.2 ⟨_, hpaused, ?_⟩
  rw [if_pos ⟨hstatus, hres⟩]
  rfl

/-! ### The clock -/

/-- A processor that has given up its process has nothing to clear away. -/
lemma Vacates.clearStale (h : k.Vacates cpu k₁) (hk : k.Sound) (id : ProcessId) :
    k.Vacates cpu (k₁.clearStale cpu id) := by
  refine h.quiet calm_clearStale.toSteady (quiet_clearStale (h.moves.sound hk) ?_)
  rw [h.idle]
  rintro ⟨⟩

/-- It may serve an interrupt of the clock. -/
lemma Vacates.acknowledge (h : k.Vacates cpu k₁) :
    k.Vacates cpu (k₁.acknowledgeInterrupt cpu .timer) :=
  h.quiet (serviced_acknowledgeInterrupt rfl).toSteady (quiet_acknowledgeInterrupt .timer)

/-- It may as well do so before. -/
lemma vacates_acknowledged (hk : k.Sound)
    (h : (k.acknowledgeInterrupt cpu .timer).Sound →
      (k.acknowledgeInterrupt cpu .timer).current? cpu = k.current? cpu →
      (k.acknowledgeInterrupt cpu .timer).Vacates cpu k₁) : k.Vacates cpu k₁ := by
  have hack : k.Quiet (k.acknowledgeInterrupt cpu .timer) := quiet_acknowledgeInterrupt .timer
  exact (h (hack.sound hk) (hack.current cpu)).after_quiet
    (serviced_acknowledgeInterrupt rfl).toSteady hack

/-- A processor that is interrupted out of user code gives up its process. -/
lemma handle_timer (hk : k.Sound) (hcause : TrapCause.ofNumber f.trapno = .timer)
    (hcur : k.current? cpu = some id) :
    (k.handle cpu id f).1 = .switch ∧ k.Vacates cpu (k.handle cpu id f).2 := by
  rw [handle, hcause]
  exact ⟨rfl, vacates_acknowledged hk fun hk₁ hsame => vacates_preempt hk₁ (hsame.trans hcur)⟩

/-- So it does if it runs a process that is live. -/
lemma userTrap_timer (hk : k.Sound) (hcause : TrapCause.ofNumber f.trapno = .timer)
    (hp : k.live? id = some p) (hres : p.resident = some cpu) :
    ∃ k₁, k.Vacates cpu k₁ ∧ k.userTrap cpu (some id) f = k₁.schedule cpu := by
  have hcur := (hk.current?_iff hp).2 hres
  have hedit : k.Move (.edit id) (k.modify id fun p => { p with frame := f }) :=
    .edit_of_same hp rfl rfl rfl rfl rfl rfl
  have hsaved := live?_modify (f := fun p => { p with frame := f }) hp rfl
    (live?_eq_some_iff.1 hp).2.2
  obtain ⟨hswitch, hhandled⟩ := handle_timer (f := f) (hedit.sound hk) hcause hcur
  have hvacates := hhandled.after (calm_modify _).toSteady
    (.one (.inr ⟨id, hcur, .edit⟩) hedit) rfl fun id' g hrun => by
      obtain rfl : id = id' := Option.some.inj (hcur.symm.trans (hrun.current? hk))
      obtain ⟨q, hq, hstatus, -⟩ := hrun
      obtain rfl : p = q := Option.some.inj (hp.symm.trans hq)
      exact ⟨f, _, hsaved, hstatus, hres, rfl⟩
  refine ⟨_, hvacates.clearStale hk id, ?_⟩
  rw [userTrap]
  dsimp only
  rw [if_pos (isBound_iff.2 ⟨p, hp, hres⟩), hswitch, leave]

/-- And so it does if what it runs is gone. -/
lemma userTrap_timer_gone (hk : k.Sound) (hcause : TrapCause.ofNumber f.trapno = .timer)
    (hcur : k.current? cpu = some id) (hgone : k.live? id = none) :
    ∃ k₁, k.Vacates cpu k₁ ∧ k.userTrap cpu (some id) f = k₁.schedule cpu := by
  have hnot : ¬ k.isBound cpu id = true := fun h => by
    obtain ⟨p, hp, -⟩ := isBound_iff.1 h
    rw [hgone] at hp
    cases hp
  have hlog := quiet_log (k := k) .debug s!"cpu {cpu}: {id} is gone"
  have hk₁ := hlog.sound hk
  have hcleared := vacates_clearStale hk₁ ((hlog.current cpu).trans hcur)
    ((hlog.live? id).trans hgone)
  refine ⟨_, (hcleared.after_quiet (calm_log _ _).toSteady hlog).acknowledge, ?_⟩
  rw [userTrap]
  dsimp only
  rw [if_neg hnot, hcause]
  rfl

/-- A processor that is interrupted inside the kernel gives up what it has bound. -/
lemma kernelTrap_timer (hk : k.Sound) (hcause : TrapCause.ofNumber f.trapno = .timer) :
    ∃ k₁, k.Vacates cpu k₁ ∧ k.kernelTrap cpu (k.current? cpu) f = k₁.schedule cpu := by
  rw [kernelTrap, hcause]
  cases hcur : k.current? cpu with
  | none =>
    exact ⟨_, vacates_acknowledged hk fun hk₁ hsame => vacates_idle hk₁ (hsame.trans hcur), rfl⟩
  | some id =>
    exact ⟨_, vacates_acknowledged hk fun hk₁ hsame => vacates_preempt hk₁ (hsame.trans hcur), rfl⟩

/-- **An interrupt of the clock** makes a processor give up what it has bound and look for something
to run. It must not come out of user code if nothing is bound. -/
lemma trap_timer (hk : k.Sound) (hcpu : cpu < k.cpus.size)
    (hcause : TrapCause.ofNumber f.trapno = .timer) (hclaims : f.isUser → k.current? cpu ≠ none) :
    ∃ k₁, k.Vacates cpu k₁ ∧ k.trap cpu f = k₁.schedule cpu := by
  have hcount : k.Quiet (k.modifyCpu cpu fun c => { c with traps := c.traps + 1 }) :=
    quiet_countTrap
  have hk₁ := hcount.sound hk
  have hclaim : k.cpus[cpu].current = k.current? cpu := by
    rw [current?, Array.getElem?_eq_getElem hcpu]
    rfl
  suffices hcounted : ∃ k₁,
      (k.modifyCpu cpu fun c => { c with traps := c.traps + 1 }).Vacates cpu k₁ ∧
        k.trap cpu f = k₁.schedule cpu by
    obtain ⟨k₁, hvacates, htrap⟩ := hcounted
    exact ⟨k₁, hvacates.after_quiet (calm_modifyCpu _).toSteady hcount, htrap⟩
  rw [trap, Array.getElem?_eq_getElem hcpu]
  dsimp only
  rw [hclaim, ← hcount.current cpu]
  split
  · next huser =>
    obtain ⟨id, hcur⟩ := Option.ne_none_iff_exists'.1 (hclaims huser)
    have hcur₁ := (hcount.current cpu).trans hcur
    rw [hcur₁]
    rcases live?_of_current hk₁ hcur₁ with ⟨p, hp, hres⟩ | hgone
    · exact userTrap_timer hk₁ hcause hp hres
    · exact userTrap_timer_gone hk₁ hcause hcur₁ hgone
  · exact kernelTrap_timer hk₁ hcause

/-! ### Who is next -/

/-- Who is ready, or runs, is ready when the processor looks for something to run. -/
lemma Vacates.ready (h : k.Vacates cpu k₁) (hk : k.Sound)
    (hready : k.Ready id ∨ ∃ g, k.RunsOn cpu id g) : k₁.Ready id := by
  rcases hready with hready | ⟨g, hrun⟩
  · obtain ⟨p, hp, hp'⟩ := ready_iff.1 hready
    have hspared : k₁.live? id = some p := by
      refine h.moves.spared hk (fun d hd => ?_) hp
      rcases hd with rfl | ⟨id', hcur, hown⟩
      · trivial
      · refine hown.spares fun hslot => ?_
        obtain ⟨q, hq, -, hres⟩ := (hk.tables.claim_iff cpu id').1 hcur
        rw [hslot, (live?_eq_some_iff.1 hp).1] at hq
        cases hq
        rw [(dispatchable_iff.1 hp').2] at hres
        cases hres
    exact ready_iff.2 ⟨p, hspared, hp'⟩
  · exact h.paused id g hrun

/-- How many slots the scheduler comes to before that of a process. -/
def slotsAhead (k : Kernel) (id : ProcessId) : Nat := Lap.ahead k.table.capacity k.place id.slot

lemma Vacates.slotsAhead (h : k.Vacates cpu k₁) : k₁.slotsAhead id = k.slotsAhead id := by
  rw [Kernel.slotsAhead, h.steady.capacity, h.steady.place, Kernel.slotsAhead]

/-- The scheduler comes to every process on a lap, but to that in the idle slot. -/
lemma Ready.slotsAhead_lt (h : k.Ready id) (hslot : id.slot ≠ idleSlot) :
    k.slotsAhead id < k.table.capacity - 1 :=
  Lap.ahead_lt (lt_capacity_of_dispatchable h.dispatchable) hslot

/-- **A processor looks for something to run while a process is ready**, which is not in the idle
slot: it runs the process, or comes nearer to it. -/
lemma schedule_ready (hnone : k.current? cpu = none) (hcpu : cpu < k.cpus.size)
    (hready : k.Ready id) (hslot : id.slot ≠ idleSlot) :
    (∃ f, (k.schedule cpu).1 = .user id f) ∨
      (k.schedule cpu).2.Ready id ∧ (k.schedule cpu).2.slotsAhead id < k.slotsAhead id := by
  obtain ⟨p, hp, hp'⟩ := ready_iff.1 hready
  obtain ⟨hrec, hid, hlive⟩ := live?_eq_some_iff.1 hp
  obtain ⟨⟨q, hq, rfl | ⟨hres, -⟩⟩, -⟩ := schedule_keeps hnone hrec
  · obtain ⟨slot, r, -, -, hdispatched, hcapacity, hplace, hnear⟩ :=
      schedule_of_dispatchable hcpu hready.dispatchable hslot
    refine .inr ⟨ready_iff.2 ⟨q, live?_eq_some_iff.2 ⟨hq, hid, hlive⟩, hp'⟩, ?_⟩
    rw [slotsAhead, hcapacity, hplace]
    refine hnear.resolve_left ?_
    -- whoever was dispatched is not ready any more
    rintro rfl
    rw [hq, Option.some.injEq] at hdispatched
    subst hdispatched
    cases hp'
  · exact .inl ⟨p.frame, hid ▸ hres⟩

/-! ### The others -/

/-- The record `p` in a slot is that of a bystander: the processor had somebody else bound, and has
somebody else bound now. -/
structure Bystander (k : Kernel) (cpu : Nat) (k' : Kernel) (slot : Nat) (p : Process) : Prop where
  record : k.table.records[slot]? = some p
  used : p.status ≠ .free
  before : k.current? cpu ≠ some p.id
  after : k'.current? cpu ≠ some p.id

/-- **A processor goes by everybody** but who it had bound and who it has bound: their records are
as they were, and so is what is in memory. -/
structure Bypasses (k : Kernel) (cpu : Nat) (k' : Kernel) : Prop where
  records : ∀ (slot : Nat) (p : Process), k.Bystander cpu k' slot p →
    k'.table.records[slot]? = some p
  contents : ∀ n, k'.machine.frames.contents? n = k.machine.frames.contents? n

/-- **Everybody else keeps his pages**, too. -/
def BypassesPages (k : Kernel) (cpu : Nat) (k' : Kernel) : Prop :=
  ∀ (slot : Nat) (p : Process) (s page : Nat), k.Bystander cpu k' slot p → p.space = some s →
    k'.machine.mapping? s page = k.machine.mapping? s page

lemma Quiet.bypasses (h : k.Quiet k') : k.Bypasses cpu k' where
  records slot p hp := h.records ▸ hp.record
  contents n := by rw [h.frames]

lemma Quiet.bypassesPages (h : k.Quiet k') : k.BypassesPages cpu k' :=
  fun _ _ s page _ _ => h.mapping? s page

lemma Deed.Here.numbered {d : Deed} {n : UInt32} (h : d.Here k cpu) : d.Numbered n := by
  rcases h with rfl | ⟨id, -, hown⟩
  · trivial
  · cases hown <;> trivial

/-- A processor gives up nobody but whom it had bound. -/
lemma Deed.Here.spares {d : Deed} {slot : Nat} (h : d.Here k cpu) (hk : k.Sound)
    (hp : k.Bystander cpu k' slot p) : d.Spares slot := by
  rcases h with rfl | ⟨id, hcur, hown⟩
  · trivial
  · refine hown.spares fun hslot => hp.before ?_
    obtain ⟨q, hq, hid, -⟩ := (hk.tables.claim_iff cpu id).1 hcur
    rw [hslot, hp.record, Option.some.injEq] at hq
    rw [hcur, hq, hid]

section Vacates

variable (h : k.Vacates cpu k₁) (hk : k.Sound)
include h hk

/-- **A processor that gives up what it has bound, and looks for something to run**, goes by
everybody else. -/
lemma Vacates.bypasses : k.Bypasses cpu (k₁.schedule cpu).2 := by
  have hk₁ := h.moves.sound hk
  have htells : Tells cpu (k₁.schedule cpu) := schedule_tells hk₁ h.idle
  have hk₂ : (k₁.schedule cpu).2.Sound := (schedule_anyMoves h.idle).sound hk₁
  refine ⟨fun slot p hp => ?_, fun n => ?_⟩
  · have hrec := h.moves.record hk (fun d hd => hd.spares hk hp) hp.record hp.used
    obtain ⟨⟨q, hq, hgoes⟩, -⟩ := schedule_keeps h.idle hrec
    rcases hgoes with rfl | ⟨hres, -⟩
    · exact hq
    · exact absurd ((htells.user _ _ hres).current? hk₂) hp.after
  · have hframes : (k₁.schedule cpu).2.machine.frames = k₁.machine.frames := by
      rcases schedule_cases h.idle with ⟨_, _, _, hk₀, -, -, -, -, -, hlast⟩ | ⟨hquiet, -⟩
      · exact hlast.frames.trans hk₀.frames
      · exact hquiet.frames
    rw [hframes]
    refine h.moves.contents? fun id before after hd => ?_
    rcases hd with hquiet | ⟨id', -, hown⟩
    · cases hquiet
    · cases hown

variable {n : UInt32} (hs : k.Separate n)
include hs

/-- **Nor does that touch their pages**, as long as address spaces are kept apart. -/
lemma Vacates.bypassesPages : k.BypassesPages cpu (k₁.schedule cpu).2 := by
  intro slot p s page hp hps
  have hkeeps := h.moves.keeps hk (fun _ hd => hd.numbered) hs (fun d hd => hd.spares hk hp)
    hp.record hp.used
  obtain ⟨-, -, hspaces⟩ := schedule_keeps h.idle hkeeps.record
  exact (Machine.mapping?_of_spaces hspaces s page).trans (hkeeps.pages s page hps)

lemma Vacates.separate : (k₁.schedule cpu).2.Separate n :=
  (schedule_moves (A := Deed.Numbered n) h.idle trivial fun _ => trivial).separate
    (h.moves.sound hk) (fun _ hd => hd) (h.moves.separate hk (fun _ hd => hd.numbered) hs)

end Vacates

end Exokernel.Kernel
