/-
What the kernel leaves alone in whatever it does for a process.

* `Kernel.Steady`: the place of the scheduler and the sizes of the tables stay as they are;
* `Kernel.Calm`: and so do the configuration and what the machine tells of served interrupts;
* `calm_execute`, `calm_pageFault` and their like: **nothing but the scheduler moves its place**,
  and nothing that a process does serves an interrupt;
* `Kernel.Serviced`: a trap of a given cause is served, if that is an interrupt;
* `serviced_acknowledgeInterrupt`, `serviced_handle`: so are an interrupt, and every trap of a
  process.
-/
import Exokernel.Proofs.Kernel.Traps
import Exokernel.Proofs.Memory.Services
import Exokernel.Proofs.Schedule.Turns

namespace Exokernel.Kernel

variable {k k' k'' : Kernel} {id caller target : ProcessId} {cpu : Nat} {f : TrapFrame}
  {va : VirtAddr} {perm : Perm}

/-! ### What stays as it is -/

/-- The scheduler stands where it stood, and the tables have the sizes that they had. -/
structure Steady (k k' : Kernel) : Prop where
  cursor : k'.table.cursor = k.table.cursor
  capacity : k'.table.capacity = k.table.capacity
  cpus : k'.cpus.size = k.cpus.size

namespace Steady

lemma refl (k : Kernel) : k.Steady k := ⟨rfl, rfl, rfl⟩

lemma trans (h : k.Steady k') (h' : k'.Steady k'') : k.Steady k'' :=
  ⟨h'.cursor.trans h.cursor, h'.capacity.trans h.capacity, h'.cpus.trans h.cpus⟩

lemma place (h : k.Steady k') : k'.place = k.place := by
  rw [Kernel.place, Kernel.place, h.cursor, h.capacity]

end Steady

/-- Besides, the kernel is configured as it was, and no interrupt was served. -/
structure Calm (k k' : Kernel) : Prop extends Steady k k' where
  config : k'.config = k.config
  services : k'.machine.services = k.machine.services

namespace Calm

lemma refl (k : Kernel) : k.Calm k := ⟨.refl k, rfl, rfl⟩

lemma trans (h : k.Calm k') (h' : k'.Calm k'') : k.Calm k'' :=
  ⟨h.toSteady.trans h'.toSteady, h'.config.trans h.config, h'.services.trans h.services⟩

end Calm

lemma calm_log (level : LogLevel) (message : String) : k.Calm (k.log level message) := by
  rw [log]
  split <;> exact ⟨⟨rfl, rfl, rfl⟩, rfl, rfl⟩

lemma calm_modify (g : Process → Process) : k.Calm (k.modify id g) :=
  ⟨⟨rfl, Array.size_modify, rfl⟩, rfl, rfl⟩

lemma calm_modifyCpu (g : CpuRecord → CpuRecord) : k.Calm (k.modifyCpu cpu g) :=
  ⟨⟨rfl, rfl, Array.size_modify⟩, rfl, rfl⟩

/-- A machine on which no interrupt was served. -/
lemma calm_machine {m : Machine} (h : m.services = k.machine.services) :
    k.Calm { k with machine := m } := ⟨⟨rfl, rfl, rfl⟩, rfl, h⟩

lemma calm_activate (s : Option Nat) : k.Calm (k.activate cpu s) :=
  calm_machine (Machine.services_modifyProcessor fun _ => rfl)

lemma calm_audit (kind : EventKind) : k.Calm (k.audit id kind) := ⟨⟨rfl, rfl, rfl⟩, rfl, rfl⟩

lemma calm_dropClaim : k.Calm (k.dropClaim cpu id) := calm_modifyCpu _

lemma calm_unbind : k.Calm (k.unbind cpu id) := by
  rw [unbind]
  split
  · have hmodify : k.Calm (k.modify id fun p => { p with resident := none }) := calm_modify _
    exact (hmodify.trans (calm_activate none)).trans calm_dropClaim
  · exact calm_dropClaim

/-! ### The end of a process -/

lemma calm_beginFree? {table : ProcessTable} {holder : Option Nat}
    (h : k.table.beginFree? id = some (holder, table)) : k.Calm { k with table } := by
  rw [ProcessTable.beginFree?] at h
  split at h
  · cases h
  · cases h
    exact calm_modify _

lemma calm_takeDying? {table : ProcessTable} {holder space : Option Nat}
    (h : k.table.takeDying? id holder = some (space, table)) : k.Calm { k with table } := by
  rw [ProcessTable.takeDying?] at h
  split at h
  · cases h
  · split at h
    · cases h
      exact calm_modify _
    · cases h

lemma calm_finishFree : k.Calm { k with table := k.table.finishFree id } := by
  rw [ProcessTable.finishFree]
  split
  · exact .refl k
  · split
    · exact ⟨⟨rfl, Array.size_modify, rfl⟩, rfl, rfl⟩
    · exact .refl k

lemma calm_reap (holder : Option Nat) : k.Calm (k.reap id holder) := by
  rw [reap]
  split
  · exact .refl k
  · next space table htake =>
    have htaken := calm_takeDying? htake
    have hunloaded : ∀ cpu, k.Calm ({ k with table }.activate cpu none) := fun cpu =>
      htaken.trans (calm_activate none)
    have hdismantled : ∀ {k₁ : Kernel} s, k.Calm k₁ →
        k.Calm { k₁ with machine := k₁.machine.dismantle s } := fun s h =>
      h.trans (calm_machine Machine.services_dismantle)
    have hfreed : ∀ {k₁ : Kernel}, k.Calm k₁ →
        k.Calm { k₁ with table := k₁.table.finishFree id } := fun h => h.trans calm_finishFree
    refine Calm.trans ?_ (calm_log _ _)
    cases holder with
    | none =>
      cases space with
      | none => exact hfreed htaken
      | some s => exact hfreed (hdismantled s htaken)
    | some cpu =>
      cases space with
      | none => exact hfreed (hunloaded cpu)
      | some s => exact hfreed (hdismantled s (hunloaded cpu))

lemma calm_clearStale : k.Calm (k.clearStale cpu id) :=
  calm_dropClaim.trans (calm_reap _)

lemma calm_free : k.Calm (k.free id) := by
  rw [free]
  split
  · exact .refl k
  · next hbegin => exact (calm_beginFree? hbegin).trans (calm_reap _)

lemma calm_destroyOn : k.Calm (k.destroyOn cpu id).2 := by
  rw [destroyOn]
  split
  · exact .refl k
  · next hbegin => exact (calm_beginFree? hbegin).trans (calm_reap _)
  · next holder table hbegin =>
    have hdoom := calm_beginFree? hbegin
    dsimp only
    split
    · exact hdoom.trans calm_clearStale
    · have hlog := hdoom.trans (calm_log .debug s!"[{id}] dying, left to cpu {holder}")
      exact hlog.trans (calm_machine (Machine.services_modifyProcessor fun _ => rfl))

lemma calm_destroy {switch : Bool} (h : k.destroy cpu id = .ok (switch, k')) : k.Calm k' := by
  rw [destroy] at h
  split at h
  · cases h
  · cases h
    exact calm_destroyOn

/-! ### The beginning of a process -/

lemma calm_allocateAs {parent : ProcessId} {status : ProcessStatus}
    (h : k.allocateAs parent status = .ok (id, k')) : k.Calm k' := by
  obtain ⟨slot, rest, s, machine, -, hmade, -, rfl⟩ := allocateAs_cases h
  exact ⟨⟨rfl, Array.size_modify, rfl⟩, rfl, Machine.services_createSpace hmade⟩

lemma calm_allocate {parent : ProcessId} (h : k.allocate parent = .ok (id, k')) :
    k.Calm k' := by
  rw [allocate] at h
  split at h
  · cases h
  · next hmade =>
    cases h
    exact (calm_allocateAs hmade).trans (calm_log _ _)

lemma calm_load (id : ProcessId) (image : Image) : k.Calm (k.load id image).2 := by
  rw [load]
  split
  · exact .refl k
  · next s _ =>
    have hsame : (k.machine.load s image).2.services = k.machine.services :=
      Machine.services_load image
    split
    · next hload =>
      rw [hload] at hsame
      exact calm_machine hsame
    · next hload =>
      rw [hload] at hsame
      exact (calm_machine hsame).trans (calm_modify _)

lemma calm_spawn (image : Image) : k.Calm (k.spawn image).2 := by
  rw [spawn]
  split
  · cases hmade : k.allocateAs .self .notRunnable with
    | error e => exact .refl k
    | ok r =>
      obtain ⟨id, k₁⟩ := r
      have hload := (calm_allocateAs hmade).trans (calm_load id image)
      dsimp only
      cases hr : k₁.load id image with
      | mk result k₂ =>
        rw [hr] at hload
        cases result with
        | error e => exact hload.trans calm_free
        | ok _ => exact (hload.trans (calm_modify _)).trans (calm_log _ _)
  · exact .refl k

/-! ### System calls -/

lemma calm_exofork {answer : UInt32} (h : k.exofork caller = .ok (answer, k')) : k.Calm k' := by
  obtain ⟨parent, child, k₁, -, hmade, -, rfl⟩ := exofork_cases h
  exact ((calm_allocateAs hmade).trans (calm_modify _)).trans (calm_log _ _)

lemma calm_setStatus {status : ProcessStatus} (h : k.setStatus caller target status = .ok k') :
    k.Calm k' := by
  obtain ⟨id, p, -, -, -, rfl⟩ := setStatus_cases h
  exact calm_modify _

lemma calm_setFaultHandler {entry : VirtAddr}
    (h : k.setFaultHandler caller target entry = .ok k') : k.Calm k' := by
  obtain ⟨id, p, -, -, rfl⟩ := setFaultHandler_cases h
  exact calm_modify _

lemma calm_setFrame (h : k.setFrame caller target va = .ok k') : k.Calm k' := by
  obtain ⟨id, bytes, p, -, -, -, rfl⟩ := setFrame_cases h
  exact calm_modify _

lemma calm_putString {len : UInt32} (h : k.putString caller va len = .ok k') : k.Calm k' := by
  rw [putString] at h
  split at h
  · cases h
  · cases h
    exact calm_machine rfl

lemma calm_pageAlloc : k.Calm (k.pageAlloc caller target va perm).2 := by
  rw [pageAlloc]
  split
  · exact .refl k
  · exact calm_machine Machine.services_mapZeroed

lemma calm_pageMap {src : ProcessId} {srcVa : VirtAddr} :
    k.Calm (k.pageMap caller src srcVa target va perm).2 := by
  rw [pageMap]
  split
  · exact .refl k
  · rw [holding]
    dsimp only
    split
    · exact calm_machine rfl
    · next hkept =>
      obtain ⟨s, m, -, hmap, rfl⟩ := mapKept_ok hkept
      have hsame := Machine.services_map hmap
      exact calm_machine hsame

lemma calm_pageUnmap (h : k.pageUnmap caller target va = .ok k') : k.Calm k' := by
  obtain ⟨id, s, -, -, -, rfl⟩ := pageUnmap_cases h
  exact calm_machine Machine.services_unmap

lemma calm_deliver {value : UInt32} {page : Option Nat} {shown : Perm}
    (h : k.deliver caller target value page perm = .ok (shown, k')) : k.Calm k' := by
  rw [deliver] at h
  obtain ⟨q, -, h⟩ := bind_ok h
  split at h
  · dsimp only at h
    split at h
    · obtain ⟨s, -, h⟩ := bind_ok h
      obtain ⟨k₁, hmap, h⟩ := bind_ok h
      obtain ⟨m, hm, rfl⟩ := withMachine_ok hmap
      cases h
      exact (calm_machine (Machine.services_map hm)).trans ((calm_modify _).trans (calm_log _ _))
    · cases h
      exact (calm_modify _).trans (calm_log _ _)
  · cases h

lemma calm_deliverTelling {value : UInt32} {page : Option Nat} :
    k.Calm (k.deliverTelling caller target value page perm).2 := by
  rw [deliverTelling]
  split
  · exact .refl k
  · next hdel => exact calm_deliver hdel

lemma calm_trySend {value : UInt32} {srcVa : Option VirtAddr} :
    k.Calm (k.trySend caller target value srcVa perm).2 := by
  rw [trySend]
  split
  · exact .refl k
  · split
    · exact calm_deliverTelling
    · split
      · exact .refl k
      · next frame _ =>
        rw [holding]
        have hkept : k.Calm { k with machine := k.machine.retain frame } := calm_machine rfl
        exact (hkept.trans calm_deliverTelling).trans (calm_machine rfl)

lemma calm_receive {dstVa : Option VirtAddr} (h : k.receive cpu caller dstVa = .ok k') :
    k.Calm k' := by
  obtain ⟨p, -, -, rfl⟩ := receive_cases h
  exact (calm_modify _).trans calm_unbind

lemma calm_yield : k.Calm (k.yield cpu caller) := by
  rw [yield]
  split
  · exact .refl k
  · exact (calm_modify _).trans calm_unbind

lemma calm_exit : k.Calm (k.exit cpu caller target).2 := by
  rw [exit]
  split
  · exact .refl k
  · next id _ =>
    dsimp only
    generalize (if id = caller then s!"[{caller}] exiting gracefully"
      else s!"[{caller}] destroying {id}") = message
    have hend : k.Calm ((k.log .info message).destroyOn cpu id).2 :=
      (calm_log _ _).trans calm_destroyOn
    split <;> next hdestroy => rwa [hdestroy] at hend

/-- **A call leaves the scheduler alone**, and serves no interrupt. -/
lemma calm_execute (c : Syscall) : k.Calm (k.execute cpu caller c).2 := by
  cases c with
  | putString va len =>
    rw [execute]
    cases hput : k.putString caller va len with
    | error e => cases e <;> exact .refl k
    | ok k₁ => exact calm_putString hput
  | getId => exact .refl k
  | destroy target => exact calm_exit
  | yield => exact calm_yield
  | exofork =>
    rw [execute]
    cases hfork : k.exofork caller with
    | error e => exact .refl k
    | ok r => exact calm_exofork hfork
  | setStatus target status =>
    rw [execute]
    cases hset : k.setStatus caller target status with
    | error e => exact .refl k
    | ok k₁ => exact calm_setStatus hset
  | setFrame target va =>
    rw [execute]
    cases hset : k.setFrame caller target va with
    | error e => cases e <;> exact .refl k
    | ok k₁ => exact calm_setFrame hset
  | setFaultHandler target entry =>
    rw [execute]
    cases hset : k.setFaultHandler caller target entry with
    | error e => exact .refl k
    | ok k₁ => exact calm_setFaultHandler hset
  | pageAlloc target va perm => exact calm_pageAlloc
  | pageMap src srcVa dst dstVa perm => exact calm_pageMap
  | pageUnmap target va =>
    rw [execute]
    cases hunmap : k.pageUnmap caller target va with
    | error e => exact .refl k
    | ok k₁ => exact calm_pageUnmap hunmap
  | trySend target value va perm => exact calm_trySend
  | receive dstVa =>
    rw [execute]
    cases hrec : k.receive cpu caller dstVa with
    | error e => exact .refl k
    | ok k₁ => exact calm_receive hrec
  | time => exact .refl k

lemma calm_perform (call : RawCall) : k.Calm (k.perform cpu caller call).2 := by
  rw [perform]
  split
  · exact (calm_log _ _).trans (calm_execute _)
  · exact calm_log _ _

lemma calm_setAnswer (answer : Int32) : k.Calm (k.setAnswer cpu caller answer) := by
  rw [setAnswer]
  split
  · exact .refl k
  · split
    · exact calm_modify _
    · exact .refl k

lemma calm_conclude (request : Nat) (outcome : Outcome) :
    k.Calm (k.conclude cpu caller request outcome).2 := by
  cases outcome with
  | answer result =>
    exact (calm_setAnswer (encodeResult result)).trans (calm_audit _)
  | giveUp => exact calm_audit _
  | badBuffer va =>
    exact (((calm_log _ _).trans (calm_audit _)).trans (calm_audit _)).trans calm_destroyOn

lemma calm_systemCall : k.Calm (k.systemCall cpu caller).2 := by
  rw [systemCall]
  split
  · exact .refl k
  · exact ((calm_audit _).trans (calm_perform _)).trans (calm_conclude _ _)

/-! ### Page faults, and the end of a turn -/

lemma FaultWrite.services {m : Machine} (h : k.FaultWrite id f m) :
    m.services = k.machine.services := by
  cases h
  rfl

lemma calm_reflectFault (faultVa : VirtAddr) : k.Calm (k.reflectFault id f faultVa).2 := by
  rcases reflectFault_cases k id f faultVa with hsame | ⟨p, m, -, hwrite, heq | ⟨frame, heq⟩⟩
  · rw [hsame]
    exact .refl k
  · rw [heq]
    exact calm_machine hwrite.services
  · rw [heq]
    exact (calm_machine hwrite.services).trans (calm_modify _)

lemma calm_pageFault : k.Calm (k.pageFault cpu id f).2 := by
  have hreflect : k.Calm (k.reflectFault id f (k.machine.faultAddress cpu)).2 :=
    calm_reflectFault _
  rw [pageFault]
  dsimp only
  split
  · next hr =>
    rw [hr] at hreflect
    exact hreflect.trans (calm_log _ _)
  · next hr =>
    rw [hr] at hreflect
    exact ((hreflect.trans (calm_log _ _)).trans (calm_audit _)).trans calm_destroyOn

lemma calm_preempt : k.Calm (k.preempt cpu id) := by
  rw [preempt]
  split
  · exact calm_clearStale
  · exact (calm_modify _).trans calm_unbind

/-! ### Interrupts -/

/-- Kernel `k'` has served a trap of the given cause on a processor, if that is an interrupt; the
scheduler and the configuration are left alone in any case. -/
structure Serviced (k : Kernel) (cpu : Nat) (cause : TrapCause) (k' : Kernel) : Prop
    extends Steady k k' where
  config : k'.config = k.config
  services : k'.machine.services =
    if cause.isInterrupt then k.machine.services.serve cpu cause else k.machine.services

namespace Serviced

variable {cause : TrapCause}

lemma of_calm (hcause : ¬ cause.isInterrupt) (h : k.Calm k') : k.Serviced cpu cause k' :=
  ⟨h.toSteady, h.config, by rw [h.services, if_neg hcause]⟩

lemma trans_calm (h : k.Serviced cpu cause k') (h' : k'.Calm k'') : k.Serviced cpu cause k'' :=
  ⟨h.toSteady.trans h'.toSteady, h'.config.trans h.config, h'.services.trans h.services⟩

end Serviced

lemma Calm.trans_serviced {cause : TrapCause} (h : k.Calm k') (h' : k'.Serviced cpu cause k'') :
    k.Serviced cpu cause k'' :=
  ⟨h.toSteady.trans h'.toSteady, h'.config.trans h.config, by rw [h'.services, h.services]⟩

/-- Servicing an interrupt lets the clock tick or calls the driver, and acknowledges nothing. -/
lemma steady_serviceInterrupt (k : Kernel) (cpu : Nat) (cause : TrapCause) :
    k.Steady (k.serviceInterrupt cpu cause) ∧
      (k.serviceInterrupt cpu cause).config = k.config ∧
      (k.serviceInterrupt cpu cause).machine.services =
        { k.machine.services.serve cpu cause with
          acknowledged := k.machine.services.acknowledged } := by
  -- where nothing is serviced, the log may tell so
  have hnothing : ∀ {k' : Kernel}, k.Calm k' → cause ≠ .timer → cause.drivenLine? = none →
      k.Steady k' ∧ k'.config = k.config ∧ k'.machine.services =
        { k.machine.services.serve cpu cause with
          acknowledged := k.machine.services.acknowledged } := fun h hcause hline => by
    refine ⟨h.toSteady, h.config, h.services.trans ?_⟩
    rw [Machine.Services.serve, if_neg fun ht => hcause ht.1, hline]
    exact congrArg (Machine.Services.mk _ · _) (List.append_nil _).symm
  cases cause with
  | timer =>
    rw [serviceInterrupt, Machine.Services.serve]
    split
    · next hboot =>
      refine ⟨⟨rfl, rfl, rfl⟩, rfl, ?_⟩
      rw [if_pos ⟨rfl, hboot⟩]
      exact congrArg (Machine.Services.mk _ · _) (List.append_nil _).symm
    · next hboot =>
      refine ⟨.refl k, rfl, ?_⟩
      rw [if_neg fun h => hboot h.2]
      exact congrArg (Machine.Services.mk _ · _) (List.append_nil _).symm
  | device line =>
    rw [serviceInterrupt, Machine.service]
    by_cases hline : line = Irq.keyboard ∨ line = Irq.serial ∨ line = Irq.network ∨ line = Irq.disk
    · rw [if_pos hline]
      refine ⟨⟨rfl, rfl, rfl⟩, rfl, ?_⟩
      rw [Machine.Services.serve, TrapCause.drivenLine?, if_pos hline,
        if_neg fun h => by cases h.1]
      rfl
    · rw [if_neg hline]
      exact hnothing (calm_log _ _) (by rintro ⟨⟩) (if_neg hline)
  | spurious => exact hnothing (calm_log _ _) (by rintro ⟨⟩) rfl
  | pageFault | syscall | reschedule | controllerError | unexpected =>
    exact hnothing (.refl k) (by rintro ⟨⟩) rfl

/-- **An interrupt is served** by what its cause asks for, and acknowledged once. -/
lemma serviced_acknowledgeInterrupt {cause : TrapCause} (hcause : cause.isInterrupt) :
    k.Serviced cpu cause (k.acknowledgeInterrupt cpu cause) := by
  obtain ⟨hsteady, hconfig, hservices⟩ := steady_serviceInterrupt k cpu cause
  refine ⟨hsteady.trans ⟨rfl, rfl, rfl⟩, hconfig, ?_⟩
  rw [acknowledgeInterrupt, if_pos hcause]
  dsimp only
  rw [Machine.services_acknowledge, hservices]
  rfl

/-- **A trap of a process is handled** and served, whatever its cause. -/
lemma serviced_handle : k.Serviced cpu (TrapCause.ofNumber f.trapno) (k.handle cpu id f).2 := by
  rw [handle]
  cases TrapCause.ofNumber f.trapno with
  | pageFault => exact .of_calm Bool.false_ne_true calm_pageFault
  | syscall => exact .of_calm Bool.false_ne_true calm_systemCall
  | timer => exact (serviced_acknowledgeInterrupt rfl).trans_calm calm_preempt
  | unexpected =>
    exact .of_calm Bool.false_ne_true
      (((calm_log _ _).trans (calm_audit _)).trans calm_destroyOn)
  | reschedule | spurious | controllerError | device => exact serviced_acknowledgeInterrupt rfl

/-! ### Looking for something to run -/

/-- A dispatch leaves the place of the scheduler alone. -/
lemma calm_dispatch {slot : Nat} : k.Calm (k.dispatch cpu slot).2 := by
  rw [dispatch]
  split
  · exact .refl k
  · next p _ =>
    have hrunning : k.Calm { k with table := k.table.modify slot fun p =>
        { p with status := .running, resident := some cpu, runs := p.runs + 1 } } :=
      ⟨⟨rfl, Array.size_modify, rfl⟩, rfl, rfl⟩
    exact ((hrunning.trans (calm_activate p.space)).trans (calm_modifyCpu _)).trans (calm_log _ _)

/-- Nothing but the place of the scheduler moves when a processor looks for something to run. -/
lemma calm_schedule : ∃ cursor, ({ k with table := { k.table with cursor } } : Kernel).Calm
    (k.schedule cpu).2 := by
  rw [schedule]
  split
  · split
    · next slot _ => exact ⟨slot, calm_dispatch⟩
    · refine ⟨k.table.cursor, ?_⟩
      split
      · exact calm_dispatch
      · exact (calm_log .trace _).trans (calm_activate none)
  · exact ⟨k.table.cursor, .refl k⟩

end Exokernel.Kernel
