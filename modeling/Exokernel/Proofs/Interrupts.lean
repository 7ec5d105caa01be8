/-
Interrupts are served once.

* `Operation.interrupt?`: the interrupt that an operation is, if its processor goes on after it;
* `Kernel.Tallies`: what the machine tells of served interrupts after it, and that the configuration
  and the sizes of the tables are what they were;
* `Operation.tallies`: **an operation serves the interrupt that it is**, once, and no other;
* `Machine.Tells`: a machine that has served a row of interrupts, and `Booted.tells`,
  `History.tells`: every machine in a run has served those of the run;
* `interrupts_served_once`: so for acknowledgements, the clock and the devices.
-/
import Exokernel.Proofs.Panics

namespace Exokernel

/-- The interrupt that a trap of the given cause is, if its processor goes on after it. -/
def Resume.interrupt? (cpu : Nat) (cause : TrapCause) : Resume → Option (Nat × TrapCause)
  | .halt _ => none
  | .user .. | .idle => if cause.isInterrupt then some (cpu, cause) else none

/-- The processor that an operation interrupts, and why, if the processor goes on after it. -/
def Operation.interrupt? (k : Kernel) : Operation → Option (Nat × TrapCause)
  | .trap cpu f => (k.trap cpu f).1.interrupt? cpu (TrapCause.ofNumber f.trapno)
  | .spawn _ | .allocate _ | .destroy _ _ | .schedule _ | .latch _ _ | .store _ _ _ => none

/-- The interrupts of a run, oldest first. -/
def interrupts (es : List Transition) : List (Nat × TrapCause) :=
  es.filterMap fun e => e.op.interrupt? e.before

namespace Kernel

variable {k k' k'' : Kernel} {id : ProcessId} {cpu : Nat} {f : TrapFrame} {cause : TrapCause}
  {interrupt : Option (Nat × TrapCause)}

/-! ### One operation -/

/-- What the machine tells of served interrupts, is told of this one besides. The kernel is
configured as it was, and there are as many slots and processors. -/
structure Tallies (k : Kernel) (interrupt : Option (Nat × TrapCause)) (k' : Kernel) : Prop where
  config : k'.config = k.config
  capacity : k'.table.capacity = k.table.capacity
  cpus : k'.cpus.size = k.cpus.size
  services : k'.machine.services =
    interrupt.elim k.machine.services fun i => k.machine.services.serve i.1 i.2

lemma Calm.tallies (h : k.Calm k') : k.Tallies none k' :=
  ⟨h.config, h.capacity, h.cpus, h.services⟩

lemma Tallies.trans (h : k.Tallies interrupt k') (h' : k'.Tallies none k'') :
    k.Tallies interrupt k'' :=
  ⟨h'.config.trans h.config, h'.capacity.trans h.capacity, h'.cpus.trans h.cpus,
    h'.services.trans h.services⟩

lemma tallies_schedule : k.Tallies none (k.schedule cpu).2 := by
  obtain ⟨cursor, hcalm⟩ : ∃ cursor, ({ k with table := { k.table with cursor } } : Kernel).Calm
    (k.schedule cpu).2 := calm_schedule
  exact ⟨hcalm.config, hcalm.capacity, hcalm.cpus, hcalm.services⟩

/-- A processor that has served a trap, and goes on. -/
lemma Serviced.tallies (h : k.Serviced cpu cause k') {r : Resume} (hr : ∀ panic, r ≠ .halt panic) :
    k.Tallies (r.interrupt? cpu cause) k' := by
  refine ⟨h.config, h.capacity, h.cpus, h.services.trans ?_⟩
  cases r with
  | halt panic => exact absurd rfl (hr panic)
  | user | idle =>
    rw [Resume.interrupt?]
    split <;> rfl

/-- So it is when it looks for something to run. -/
lemma Serviced.schedule (h : k.Serviced cpu cause k') (hcpu : cpu < k.cpus.size) :
    k.Tallies ((k'.schedule cpu).1.interrupt? cpu cause) (k'.schedule cpu).2 :=
  (h.tallies fun _ => schedule_ne_halt (h.cpus ▸ hcpu)).trans tallies_schedule

lemma Serviced.leave (h : k.Serviced cpu cause k') (hcpu : cpu < k.cpus.size) (flow : Flow) :
    k.Tallies ((k'.leave cpu id flow).1.interrupt? cpu cause) (k'.leave cpu id flow).2 := by
  cases flow with
  | switch => exact (h.trans_calm calm_clearStale).schedule hcpu
  | stay =>
    rw [Kernel.leave]
    cases k'.live? id with
    | none => exact (h.trans_calm calm_clearStale).schedule hcpu
    | some p =>
      dsimp only
      split
      · exact h.tallies fun _ => by rintro ⟨⟩
      · exact (h.trans_calm calm_unbind).schedule hcpu

lemma userTrap_tallies {current : Option ProcessId} (hcpu : cpu < k.cpus.size) :
    k.Tallies ((k.userTrap cpu current f).1.interrupt? cpu (TrapCause.ofNumber f.trapno))
      (k.userTrap cpu current f).2 := by
  cases current with
  | none =>
    rw [userTrap]
    exact (calm_log .fatal _).tallies
  | some id =>
    rw [userTrap]
    dsimp only
    split
    · exact ((calm_modify _).trans_serviced serviced_handle).leave hcpu _
    · have hcleared : k.Calm ((k.log .debug s!"cpu {cpu}: {id} is gone").clearStale cpu id) :=
        (calm_log _ _).trans calm_clearStale
      refine Serviced.schedule ?_ hcpu
      split
      · next hcause => exact hcleared.trans_serviced (serviced_acknowledgeInterrupt hcause)
      · next hcause => exact .of_calm hcause hcleared

lemma kernelTrap_tallies {current : Option ProcessId} (hcpu : cpu < k.cpus.size) :
    k.Tallies ((k.kernelTrap cpu current f).1.interrupt? cpu (TrapCause.ofNumber f.trapno))
      (k.kernelTrap cpu current f).2 := by
  rw [kernelTrap]
  dsimp only
  split
  · next hcause =>
    refine Serviced.schedule ?_ hcpu
    cases current with
    | none => exact serviced_acknowledgeInterrupt hcause
    | some id => exact (serviced_acknowledgeInterrupt hcause).trans_calm calm_preempt
  · exact (calm_log .fatal _).tallies

/-- **A trap serves the interrupt that it is**, whether it comes out of user code, from a process
that is gone, or from inside the kernel. -/
lemma trap_tallies :
    k.Tallies ((k.trap cpu f).1.interrupt? cpu (TrapCause.ofNumber f.trapno)) (k.trap cpu f).2 := by
  rw [trap]
  cases hc : k.cpus[cpu]? with
  | none => exact (Calm.refl k).tallies
  | some c =>
    have hcpu := (Array.getElem?_eq_some_iff.1 hc).1
    have hcounted : k.Calm (k.modifyCpu cpu fun c => { c with traps := c.traps + 1 }) :=
      calm_modifyCpu _
    have hafter : ∀ {i : Option (Nat × TrapCause)} {k' : Kernel},
        (k.modifyCpu cpu fun c => { c with traps := c.traps + 1 }).Tallies i k' →
        k.Tallies i k' := fun h =>
      ⟨h.config, h.capacity, h.cpus.trans hcounted.cpus, h.services⟩
    dsimp only
    split
    · exact hafter (userTrap_tallies (hcounted.cpus ▸ hcpu))
    · exact hafter (kernelTrap_tallies (hcounted.cpus ▸ hcpu))

/-- Only a processor that there is goes on after an interrupt. -/
lemma lt_of_interrupt? {i : Nat × TrapCause}
    (h : (k.trap cpu f).1.interrupt? cpu cause = some i) :
    i = (cpu, cause) ∧ cpu < k.cpus.size := by
  refine ⟨?_, ?_⟩
  · cases hr : (k.trap cpu f).1 with
    | halt panic =>
      rw [hr] at h
      cases h
    | user | idle =>
      rw [hr, Resume.interrupt?] at h
      split at h
      · exact (Option.some.inj h).symm
      · cases h
  · by_contra hnot
    rw [trap, Array.getElem?_eq_none (Nat.not_lt.1 hnot)] at h
    cases h

end Kernel

namespace Operation

variable {k : Kernel} {op : Operation}

/-- **An operation serves the interrupt that it is**, and no other. -/
lemma tallies : k.Tallies (op.interrupt? k) (op.apply k) := by
  have hsame : k.Tallies none k := (Kernel.Calm.refl k).tallies
  cases op with
  | spawn image => exact (Kernel.calm_spawn image).tallies
  | allocate parent =>
    rw [apply]
    split
    · exact hsame
    · next hmade => exact (Kernel.calm_allocate hmade).tallies
  | destroy cpu id =>
    rw [apply]
    split
    · exact hsame
    · next hgone => exact (Kernel.calm_destroy hgone).tallies
  | trap cpu f => exact Kernel.trap_tallies
  | schedule cpu => exact Kernel.tallies_schedule
  | latch cpu va =>
    have hcalm : k.Calm (apply k (.latch cpu va)) :=
      Kernel.calm_machine (Machine.services_modifyProcessor fun _ => rfl)
    exact hcalm.tallies
  | store s va data =>
    have hcalm : k.Calm (apply k (.store s va data)) := Kernel.calm_machine rfl
    exact hcalm.tallies

end Operation

/-! ### Any run -/

/-- **A machine that has served these interrupts**: it has acknowledged each on its processor; its
clock has ticked for every interrupt of the timer on the processor that owns it; and it has serviced
the devices among them that there are drivers for, one after the other. -/
structure Machine.Tells (m : Machine) (is : List (Nat × TrapCause)) : Prop where
  acknowledged : ∀ cpu, m.acknowledgements cpu = UInt32.ofNat (is.countP (·.1 = cpu))
  ticks : m.ticks = UInt32.ofNat (is.count (bootCpu, .timer))
  serviced : m.serviced = is.filterMap (·.2.drivenLine?)

namespace Machine

variable {m m' : Machine} {is : List (Nat × TrapCause)} {i : Nat × TrapCause}

lemma Tells.congr (h : m.Tells is) (hsame : m'.services = m.services) : m'.Tells is where
  acknowledged cpu := by rw [acknowledgements_eq, hsame, ← acknowledgements_eq, h.acknowledged]
  ticks := (congrArg Services.ticks hsame).trans h.ticks
  serviced := (congrArg Services.lines hsame).trans h.serviced

/-- One more interrupt of a processor that there is. -/
lemma Tells.serve (h : m.Tells is) (hcpu : i.1 < m.processors.size)
    (hserved : m'.services = m.services.serve i.1 i.2) : m'.Tells (is ++ [i]) where
  acknowledged cpu := by
    have hbefore := h.acknowledged cpu
    rw [acknowledgements_eq] at hbefore ⊢
    rw [hserved, Services.serve, Array.getElem?_modify, List.countP_append, List.countP_singleton,
      UInt32.ofNat_add, ← hbefore]
    by_cases hhere : i.1 = cpu
    · rw [← hhere, if_pos rfl, if_pos (decide_eq_true rfl), services, Array.getElem?_map,
        Array.getElem?_eq_getElem hcpu]
      rfl
    · rw [if_neg hhere, if_neg (by rwa [decide_eq_true_eq])]
      exact (UInt32.add_zero _).symm
  ticks := by
    have hticks : m'.ticks = if i.2 = .timer ∧ i.1 = bootCpu then m.ticks + 1 else m.ticks :=
      congrArg Services.ticks hserved
    rw [hticks, h.ticks, List.count_append, List.count_singleton, UInt32.ofNat_add]
    by_cases htick : i = (bootCpu, .timer)
    · subst htick
      rw [if_pos ⟨rfl, rfl⟩, if_pos (beq_self_eq_true _)]
      rfl
    · rw [if_neg fun hc => htick (Prod.ext hc.2 hc.1), if_neg (by rwa [beq_iff_eq])]
      exact (UInt32.add_zero _).symm
  serviced := by
    have hlines : m'.serviced = m.serviced ++ i.2.drivenLine?.toList :=
      congrArg Services.lines hserved
    rw [hlines, h.serviced, List.filterMap_append]
    cases hline : i.2.drivenLine? <;> simp [hline]

end Machine

section Run

variable {config : Config} {frames : Nat} {k k' : Kernel} {es : List Transition}

/-- A processor that joins in serves no interrupt. -/
lemma Kernel.calm_boot {cpu : Nat} (h : k.boot cpu = .ok k') : k.Calm k' := by
  rw [boot] at h
  split at h
  · cases h
    exact ((calm_modifyCpu _).trans (calm_activate none)).trans (calm_log _ _)
  · cases h

lemma Kernel.calm_bootAll {order : List Nat} (h : Bench.bootAll order k = .ok k') : k.Calm k' :=
  bootAll_induct h (.refl k) fun _ _ _ hcalm hboot => hcalm.trans (calm_boot hboot)

/-- At first no interrupt was served. -/
lemma Booted.tells (h : Booted config frames k) : k.machine.Tells [] := by
  obtain ⟨k₀, order, hcreate, -, hboot⟩ := h
  obtain ⟨-, hmachine, -, -⟩ := Kernel.create_ok hcreate
  have hfresh : (Machine.ofSize config.cpus frames).Tells [] := {
    acknowledged := fun cpu => by
      rw [Machine.acknowledgements, Machine.ofSize]
      dsimp only
      rw [Array.getElem?_replicate]
      split <;> rfl
    ticks := rfl
    serviced := rfl }
  exact (hmachine ▸ hfresh).congr (Kernel.calm_bootAll hboot).services

/-- **The machine has served the interrupts of the run**, after every history. -/
lemma History.tells (h : History k es k') (hk : Booted config frames k) :
    k'.machine.Tells (interrupts es) := by
  induction h with
  | nil => exact hk.tells
  | @snoc es k' hhist op hlegal ih =>
    have htallies := op.tallies (k := k')
    have hlast : interrupts (es ++ [⟨k', op⟩]) = interrupts es ++ (op.interrupt? k').toList := by
      rw [interrupts, List.filterMap_append]
      cases hop : op.interrupt? k' <;> simp [interrupts, hop]
    rw [hlast]
    cases hop : op.interrupt? k' with
    | none =>
      rw [Option.toList_none, List.append_nil]
      exact ih.congr (htallies.services.trans (by rw [hop]; rfl))
    | some i =>
      refine ih.serve ?_ (htallies.services.trans (by rw [hop]; rfl))
      rw [← (hhist.reachable hk.reachable).loaded.size]
      cases op with
      | trap cpu f =>
        obtain ⟨rfl, hcpu⟩ := Kernel.lt_of_interrupt? hop
        exact hcpu
      | spawn | allocate | destroy | schedule | latch | store => cases hop

/-- **Every interrupt is served once.** In any run, a processor has acknowledged as many interrupts
as it took, modulo `2 ^ 32`: whether they came out of user code, from inside the kernel, or from a
process that was gone, and whoever was preempted or cleared away and told to run by the same trap.
A trap after which the processor stops for good is none of them. The clock has ticked once for each
interrupt of the timer on the processor that owns it, and for no other; and exactly those devices
were serviced, in their order, that interrupted and that there are drivers for. -/
theorem interrupts_served_once (hk : Booted config frames k) (h : History k es k') :
    (∀ cpu, k'.machine.acknowledgements cpu =
      UInt32.ofNat ((interrupts es).countP (·.1 = cpu))) ∧
    k'.machine.ticks = UInt32.ofNat ((interrupts es).count (Machine.bootCpu, .timer)) ∧
    k'.machine.serviced = (interrupts es).filterMap (·.2.drivenLine?) :=
  ⟨(h.tells hk).acknowledged, (h.tells hk).ticks, (h.tells hk).serviced⟩

/-- A process is preempted, goes on, and is destroyed by another processor; a key is pressed before
its own processor knows. The other processor, which runs nothing, takes an interrupt of its timer
inside the kernel, and stops at one that seems to come out of user code. -/
theorem interrupts_served_once_doomed : ∃ (k k' : Kernel) (es : List Transition),
    Booted { maxProcesses := 2, cpus := 2 } 16 k ∧ History k es k' ∧
    interrupts es = [(0, .timer), (0, .device Irq.keyboard), (1, .timer)] ∧
    k'.machine.acknowledgements 0 = 2 ∧ k'.machine.acknowledgements 1 = 1 ∧
    k'.machine.ticks = 1 ∧ k'.machine.serviced = [Irq.keyboard] := by
  have hboot : Booted { maxProcesses := 2, cpus := 2 } 16 _ := ⟨_, [0, 1], rfl, .refl _, rfl⟩
  have hbegin : ∀ {k : Kernel}, Booted { maxProcesses := 2, cpus := 2 } 16 k → History k [] k :=
    fun _ => .nil
  let user (line : UInt32) : TrapFrame := { TrapFrame.initial 0 with trapno := Irq.offset + line }
  have hrun := (((hbegin hboot).snoc (.spawn ⟨⟨0⟩, []⟩) trivial).snoc (.schedule 0) rfl).snoc
    (.trap 0 (user Irq.timer)) trivial
  have hhist := (((hrun.snoc (.destroy 1 (ProcessId.self.next 0)) trivial).snoc
    (.trap 0 (user Irq.keyboard)) trivial).snoc (.trap 1 (.kernel Irq.offset)) trivial).snoc
    (.trap 1 (user Irq.timer)) trivial
  have hserved : ∀ {k k' : Kernel} {es : List Transition},
      Booted { maxProcesses := 2, cpus := 2 } 16 k → History k es k' →
      interrupts es = [(0, .timer), (0, .device Irq.keyboard), (1, .timer)] →
      k'.machine.acknowledgements 0 = 2 ∧ k'.machine.acknowledgements 1 = 1 ∧
        k'.machine.ticks = 1 ∧ k'.machine.serviced = [Irq.keyboard] := fun hk h his => by
    obtain ⟨hacknowledged, hticks, hserviced⟩ := interrupts_served_once hk h
    rw [his] at hacknowledged hticks hserviced
    exact ⟨hacknowledged 0, hacknowledged 1, hticks, hserviced⟩
  refine ⟨_, _, _, hboot, hhist, ?his, hserved hboot hhist ?his⟩
  decide +kernel

end Run

end Exokernel
