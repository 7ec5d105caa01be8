/-
A store that the machine refuses, and its next attempt.

* `TrapFrame.Continues`: registers that agree in all that user code works with;
* `Active.told`, `Active.resume`, `Active.resume_error`: **a process that is told of a fault** goes
  on where it was, if its handler mends that, and has destroyed itself otherwise;
* `StoreReady`: what a process needs for a store;
* `Stores`: a process that is in the middle of a store;
* `Stores.told`, `Stores.mended`, `Stores.retry`, `Stores.again`: **a store that is refused** comes
  to a fault, a copy of the page and the registers of before;
* `Stores.store`, `Stores.gaveUp`: **a store succeeds** in the end, if fewer pages have to be copied
  than there are attempts. Otherwise it is given up.
-/
import Exokernel.Proofs.Bench.Accesses
import Exokernel.Proofs.Bench.Copies
import Exokernel.Proofs.Bench.Faults
import Exokernel.Proofs.Memory.Storing

namespace Exokernel

open Layout Kernel

/-- Registers that agree in all that user code works with. -/
structure TrapFrame.Continues (f g : TrapFrame) : Prop where
  regs : g.regs = f.regs
  eip : g.eip = f.eip
  eflags : g.eflags = f.eflags
  esp : g.esp = f.esp

namespace TrapFrame.Continues

lemma refl (f : TrapFrame) : f.Continues f := ⟨rfl, rfl, rfl, rfl⟩

lemma trans {f g h : TrapFrame} (hfg : f.Continues g) (hgh : g.Continues h) : f.Continues h :=
  ⟨hgh.regs.trans hfg.regs, hgh.eip.trans hfg.eip, hgh.eflags.trans hfg.eflags,
    hgh.esp.trans hfg.esp⟩

end TrapFrame.Continues

/-- A processor that keeps the address of a fault tells it. -/
lemma Machine.faultAddress_latchFault {m : Machine} {cpu : Nat} {va : VirtAddr}
    (hcpu : cpu < m.processors.size) : (m.latchFault cpu va).faultAddress cpu = va := by
  rw [faultAddress, latchFault, modifyProcessor, Array.getElem?_modify, if_pos rfl,
    Array.getElem?_eq_getElem hcpu]
  rfl

namespace UserContext

open Bench

variable {config : Config} {frames cpu s x k : Nat} {id : ProcessId} {t : Bench}
  {u' : UserContext} {f g : TrapFrame} {plan : UpcallPlan} {va : VirtAddr} {data : List UInt8}

namespace Active

/-- A process runs on a processor that there is. -/
lemma lt_processors (h : (⟨t, cpu, id⟩ : UserContext).Active config frames cpu id s f) :
    cpu < t.kernel.machine.processors.size := by
  obtain ⟨g, hruns⟩ := h.running.runs
  rw [← h.reachable.kernel.loaded.size]
  exact Kernel.lt_size_of_current? (hruns.current? h.sound)

/-- An attempt to store leaves the process where it is. -/
lemma attempted (h : (⟨t, cpu, id⟩ : UserContext).Active config frames cpu id s f) (va : VirtAddr)
    (data : List UInt8) :
    (⟨t.withMachine (t.kernel.machine.userWrite s va data).2, cpu, id⟩ : UserContext).Active config
      frames cpu id s f :=
  ⟨h.reachable.operate (.store s va data) trivial, rfl, rfl,
    ⟨h.running.occupant, h.running.runs⟩, h.user, h.space⟩

/-- So does the report of a fault. -/
lemma latched (h : (⟨t, cpu, id⟩ : UserContext).Active config frames cpu id s f) (va : VirtAddr) :
    (⟨t.withMachine (t.kernel.machine.latchFault cpu va), cpu, id⟩ : UserContext).Active config
      frames cpu id s f :=
  ⟨h.reachable.operate (.latch cpu va) trivial, rfl, rfl,
    ⟨h.running.occupant, h.running.runs⟩, h.user, h.space⟩

/-- **The process is told of a fault** that the machine has just reported, and the frame that it
finds says where. Nothing else changes. -/
lemma told (h : (⟨t, cpu, id⟩ : UserContext).Active config frames cpu id s f)
    (hhandles : t.kernel.Handles id s x) (hplan : UpcallPlan.ofStackPointer f.esp = .ok plan)
    (fault : MmuFault) :
    ∃ t₁,
      (t.withMachine (t.kernel.machine.latchFault cpu fault.va)).enter cpu
        ((t.withMachine (t.kernel.machine.latchFault cpu fault.va)).kernel.trap cpu
          (faultFrame f fault.err)) = (.ok (some id), t₁) ∧
      (⟨t₁, cpu, id⟩ : UserContext).Active config frames cpu id s
        (handlerFrame f fault.err plan) ∧
      Renews id t.kernel t₁.kernel ∧ t₁.kernel.machine.spaces = t.kernel.machine.spaces ∧
      t₁.kernel.machine.freeFrames = t.kernel.machine.freeFrames ∧
      (∀ i < pageSize, ¬ plan.Takes i →
        t₁.kernel.machine.frames.byte? x i = t.kernel.machine.frames.byte? x i) ∧
      (∀ n, n ≠ x → t₁.kernel.machine.frames.contents? n = t.kernel.machine.frames.contents? n) ∧
      t₁.kernel.machine.userRead s plan.frameVa FaultFrame.size 0 =
        .ok (FaultFrame.ofTrap (faultFrame f fault.err) fault.va.word).toBytes := by
  obtain ⟨hhandler, hcode, hstack⟩ := hhandles
  obtain ⟨t₁, hentered, h₁, hrenews, hspaces, hfree, hbeside, hothers, hread⟩ :=
    (h.latched fault.va).fault ⟨hhandler, hcode, hstack⟩ hplan fault.err
  have haddress : (t.kernel.machine.latchFault cpu fault.va).faultAddress cpu = fault.va :=
    Machine.faultAddress_latchFault h.lt_processors
  change t₁.kernel.machine.userRead s _ _ _ = .ok (FaultFrame.ofTrap _ (Machine.faultAddress
    (t.kernel.machine.latchFault cpu fault.va) cpu).word).toBytes at hread
  rw [haddress] at hread
  exact ⟨t₁, hentered, h₁, ⟨hrenews.others, hrenews.own⟩, hspaces, hfree, hbeside, hothers, hread⟩

/-- What a process does that was told of a fault: it tries to mend it. -/
lemma resumeFaulting_eq (h : (⟨t, cpu, id⟩ : UserContext).Active config frames cpu id s f)
    (hentry : f.eip = (VirtAddr.ofNat handlerEntry).word) {fault : FaultFrame}
    (hread : t.kernel.machine.userRead s ⟨f.esp⟩ FaultFrame.size 0 = .ok fault.toBytes) :
    t.resumeFaulting cpu id s =
      match (Program.mendCopyOnWrite fault).exec (⟨t, cpu, id⟩ : UserContext) with
      | (.error e, u) => (.error (.handler e), (u.bed.call cpu (.destroy .self)).2)
      | (.ok (), u) =>
        match u.bed.occupant? cpu with
        | none => (.error .terminated, u.bed)
        | some now =>
          if now.id = id then (.ok (), u.bed.setOccupant cpu (some ⟨id, restore now.frame fault⟩))
          else (.error .terminated, u.bed) := by
  have hplace : f.eip.toNat = handlerEntry := by
    rw [hentry]
    decide
  rw [resumeFaulting, of?_of_occupant? h.running.occupant, frame?_of_occupant? h.running.occupant]
  dsimp only
  rw [if_pos hplace, hread]
  dsimp only
  rewrite [FaultFrame.ofBytes_toBytes]
  rfl

/-- A process that was told of a fault and mends it goes on where it was. -/
lemma resume (h : (⟨t, cpu, id⟩ : UserContext).Active config frames cpu id s f)
    (hentry : f.eip = (VirtAddr.ofNat handlerEntry).word) {fault : FaultFrame}
    (hread : t.kernel.machine.userRead s ⟨f.esp⟩ FaultFrame.size 0 = .ok fault.toBytes)
    (hmend : (Program.mendCopyOnWrite fault : Program UserContext Unit).exec ⟨t, cpu, id⟩ =
      (.ok (), u')) (h' : u'.Active config frames cpu id s g) :
    ∃ t', t.resumeFaulting cpu id s = (.ok (), t') ∧ t'.kernel = u'.bed.kernel ∧
      (⟨t', cpu, id⟩ : UserContext).Active config frames cpu id s (restore g fault) := by
  obtain ⟨hreach, rfl, rfl, ⟨hocc, g', hruns⟩, huser, hs⟩ := h'
  refine ⟨u'.bed.setOccupant u'.cpu (some ⟨u'.process, restore g fault⟩), ?_, rfl, ?_⟩
  · rw [h.resumeFaulting_eq hentry hread, hmend]
    dsimp only
    rw [hocc]
    exact if_pos rfl
  · refine ⟨hreach.resume hocc _, rfl, rfl, ⟨?_, g', hruns⟩, huser, hs⟩
    rw [occupant?_setOccupant, if_pos ⟨rfl, lt_size_of_occupant? hocc⟩]

/-- If it cannot mend it, it ends itself, and tells why. -/
lemma resume_error (h : (⟨t, cpu, id⟩ : UserContext).Active config frames cpu id s f)
    (hentry : f.eip = (VirtAddr.ofNat handlerEntry).word) {fault : FaultFrame}
    (hread : t.kernel.machine.userRead s ⟨f.esp⟩ FaultFrame.size 0 = .ok fault.toBytes)
    {e : LibError} (hmend : (Program.mendCopyOnWrite fault : Program UserContext Unit).exec
      ⟨t, cpu, id⟩ = (.error e, u')) :
    ∃ t', t.resumeFaulting cpu id s = (.error (.handler e), t') := by
  refine ⟨(u'.bed.call cpu (.destroy .self)).2, ?_⟩
  rw [h.resumeFaulting_eq hentry hread, hmend]

end Active

/-- **What a process needs for a store**: it can be told of faults, by a frame that goes where
`plan` says, and make copies. Nothing is at the scratch page, and its scratch page and exception
stack are not in the range. -/
structure StoreReady (k : Kernel) (id : ProcessId) (s x : Nat) (plan : UpcallPlan) (f : TrapFrame)
    (va : VirtAddr) (len : Nat) : Prop where
  handles : k.Handles id s x
  room : UpcallPlan.ofStackPointer f.esp = .ok plan
  apart : ∀ q ∈ pagesOf va.toNat len, q ≠ exceptionPage ∧ q ≠ scratchNumber
  scratch : k.machine.mapping? s scratchNumber = none

instance {k : Kernel} {len : Nat} : Decidable (StoreReady k id s x plan f va len) :=
  decidable_of_iff (k.Handles id s x ∧ UpcallPlan.ofStackPointer f.esp = .ok plan ∧
    (∀ q ∈ pagesOf va.toNat len, q ≠ exceptionPage ∧ q ≠ scratchNumber) ∧
    k.machine.mapping? s scratchNumber = none)
    ⟨fun ⟨hhandles, hroom, hapart, hscratch⟩ => ⟨hhandles, hroom, hapart, hscratch⟩,
      fun h => ⟨h.handles, h.room, h.apart, h.scratch⟩⟩

namespace StoreReady

variable {k : Kernel} {m : Machine} {len : Nat} {P : Nat → Prop}

/-- The exception stack is not in the range. -/
lemma outside (h : StoreReady k id s x plan f va len) : k.machine.Outside s va len x := by
  obtain ⟨e, he, hframe, -⟩ := h.handles.stack
  exact ⟨s, exceptionPage, e, fun hc => (h.apart _ hc.2).1 rfl, he, hframe⟩

/-- Nothing comes to the scratch page. -/
lemma scratch_storing (h : StoreReady k id s x plan f va len)
    (hstoring : k.machine.Storing s x va len P m) : m.mapping? s scratchNumber = none := by
  rw [hstoring.others s scratchNumber fun hc => (h.apart _ hc.2).2 rfl, h.scratch]

/-- The process can still be told of faults. -/
lemma handles_storing {k' : Kernel} (h : StoreReady k id s x plan f va len)
    (hrenews : Renews id k k') (hstoring : k.machine.Storing s x va len P k'.machine) :
    k'.Handles id s x := by
  obtain ⟨⟨p, hp, hentry⟩, ⟨e, he⟩, e', he', hframe, hwrite⟩ := h.handles
  obtain ⟨g, hg⟩ := hrenews.live?_self hp
  refine ⟨⟨_, hg, hentry⟩, ?_, e', ?_, hframe, hwrite⟩
  · by_cases hcode : (VirtAddr.ofNat handlerEntry).page ∈ pagesOf va.toNat len
    · rcases hstoring.pages _ hcode with hsame | ⟨n, -, hown⟩
      · exact ⟨e, hsame.trans he⟩
      · exact ⟨_, hown⟩
    · exact ⟨e, (hstoring.others _ _ fun hc => hcode hc.2).trans he⟩
  · rw [hstoring.others _ _ fun hc => (h.apart _ hc.2).1 rfl, he']

end StoreReady

/-- **A process that is in the middle of a store** which began on bench `t₀`. Since then the records
of processes changed in nothing but its registers. -/
structure Stores (config : Config) (frames : Nat) (t₀ : Bench) (cpu : Nat) (id : ProcessId)
    (s x : Nat) (plan : UpcallPlan) (va : VirtAddr) (len : Nat) (f : TrapFrame) (t : Bench) :
    Prop where
  active : (⟨t, cpu, id⟩ : UserContext).Active config frames cpu id s f
  renews : Renews id t₀.kernel t.kernel
  storable : t.kernel.machine.Storable s va len
  storing : t₀.kernel.machine.Storing s x va len plan.Takes t.kernel.machine
  /-- There are frames for the pages that are still to be copied. -/
  provided : t.kernel.machine.Provided s scratchNumber (t.kernel.machine.sealedPages s va len)

namespace Stores

variable {t₀ : Bench} {f₀ : TrapFrame}

/-- **An attempt**, whatever comes of it. -/
lemma attempt (h : Stores config frames t₀ cpu id s x plan va data.length f t)
    (hready : StoreReady t₀.kernel id s x plan f₀ va data.length) :
    Stores config frames t₀ cpu id s x plan va data.length f
      (t.withMachine (t.kernel.machine.userWrite s va data).2) := by
  obtain ⟨hactive, hrenews, hstorable, hstoring, hprovided⟩ := h
  exact ⟨hactive.attempted va data, ⟨hrenews.others, hrenews.own⟩, hstorable.congr fun _ _ => rfl,
    hstoring.userWrite hready.outside hstorable hactive.sound.accounted,
    hprovided.mono rfl (Nat.le_of_eq Machine.freeFrames_userWrite.symm)⟩

/-- **The process is told of a fault**, and the frame that it finds says where. -/
lemma told (h : Stores config frames t₀ cpu id s x plan va data.length f t)
    (hready : StoreReady t₀.kernel id s x plan f va data.length) (fault : MmuFault) :
    ∃ t₁,
      (t.withMachine (t.kernel.machine.latchFault cpu fault.va)).enter cpu
        ((t.withMachine (t.kernel.machine.latchFault cpu fault.va)).kernel.trap cpu
          (faultFrame f fault.err)) = (.ok (some id), t₁) ∧
      Stores config frames t₀ cpu id s x plan va data.length (handlerFrame f fault.err plan) t₁ ∧
      (∀ s' q, t₁.kernel.machine.mapping? s' q = t.kernel.machine.mapping? s' q) ∧
      t₁.kernel.machine.userRead s plan.frameVa FaultFrame.size 0 =
        .ok (FaultFrame.ofTrap (faultFrame f fault.err) fault.va.word).toBytes := by
  obtain ⟨hactive, hrenews, hstorable, hstoring, hprovided⟩ := h
  obtain ⟨t₁, hentered, h₁, hrenews₁, hspaces₁, hfree₁, hbeside₁, hothers₁, hread₁⟩ :=
    hactive.told (hready.handles_storing hrenews hstoring) hready.room fault
  have hmapping₁ : ∀ s' q, t₁.kernel.machine.mapping? s' q = t.kernel.machine.mapping? s' q :=
    Machine.mapping?_of_spaces hspaces₁
  have hcount : t₁.kernel.machine.sealedPages s va data.length =
      t.kernel.machine.sealedPages s va data.length := by
    rw [Machine.sealedPages, Machine.sealedPages, Machine.isSealed_congr (hmapping₁ s)]
  refine ⟨t₁, hentered, ⟨h₁, hrenews.trans hrenews₁,
    hstorable.congr fun q _ => hmapping₁ s q,
    hstoring.fault hready.outside hmapping₁ hbeside₁ hothers₁, ?_⟩, hmapping₁, hread₁⟩
  rw [hcount]
  exact hprovided.mono hspaces₁ (Nat.le_of_eq hfree₁.symm)

/-- **The process mends a fault** at a page of the range that is still to be copied, and goes on
where the fault was. -/
lemma mended (h : Stores config frames t₀ cpu id s x plan va data.length f t)
    (hready : StoreReady t₀.kernel id s x plan f₀ va data.length)
    (hentry : f.eip = (VirtAddr.ofNat handlerEntry).word) {fault : FaultFrame}
    (hread : t.kernel.machine.userRead s ⟨f.esp⟩ FaultFrame.size 0 = .ok fault.toBytes)
    (hmendable : Mendable ⟨t, cpu, id⟩ s fault)
    (hpage : (VirtAddr.mk fault.faultVa).page ∈ pagesOf va.toNat data.length)
    (hsealed : t.kernel.machine.isSealed s (VirtAddr.mk fault.faultVa).page = true) :
    ∃ t' g, t.resumeFaulting cpu id s = (.ok (), t') ∧
      Stores config frames t₀ cpu id s x plan va data.length (restore g fault) t' ∧
      t'.kernel.machine.sealedPages s va data.length + 1 =
        t.kernel.machine.sealedPages s va data.length := by
  obtain ⟨hactive, hrenews, hstorable, hstoring, hprovided⟩ := h
  obtain ⟨n, hcount⟩ : ∃ n, t.kernel.machine.sealedPages s va data.length = n + 1 :=
    Nat.exists_eq_succ_of_ne_zero (Nat.ne_of_gt (Machine.sealedPages_pos hpage hsealed))
  obtain ⟨g, u', hmend, h', hrenews', hmended, hprovided'⟩ :=
    hactive.mend hmendable (hready.scratch_storing hstoring) (hcount ▸ hprovided)
  obtain ⟨t', hresumed, hkernel, h''⟩ := hactive.resume hentry hread hmend h'
  rw [← hkernel] at hrenews' hmended hprovided'
  have hfewer : t'.kernel.machine.sealedPages s va data.length + 1 =
      t.kernel.machine.sealedPages s va data.length :=
    Machine.sealedPages_mended hmended hpage hsealed
  refine ⟨t', g, hresumed, ⟨h'', hrenews.trans hrenews', hstorable.mended hmended,
    hstoring.mended hready.outside hpage hmended, hprovided'.anti ?_⟩, hfewer⟩
  rw [hcount] at hfewer
  exact Nat.le_of_eq (Nat.succ.inj hfewer)

/-- **A store that is refused** comes to a fault that the process is told of, a copy of the page
that it could not write, and the registers of before. -/
lemma retry (h : Stores config frames t₀ cpu id s x plan va data.length f t)
    (hready : StoreReady t₀.kernel id s x plan f va data.length) {fault : MmuFault}
    (hrefused : (t.kernel.machine.userWrite s va data).1 = .error fault) :
    ∃ t₁ t₂ f₂,
      (t.withMachine ((t.kernel.machine.userWrite s va data).2.latchFault cpu fault.va)).enter cpu
        ((t.withMachine ((t.kernel.machine.userWrite s va data).2.latchFault cpu
          fault.va)).kernel.trap cpu (faultFrame f fault.err)) = (.ok (some id), t₁) ∧
      t₁.resumeFaulting cpu id s = (.ok (), t₂) ∧ f.Continues f₂ ∧
      Stores config frames t₀ cpu id s x plan va data.length f₂ t₂ ∧
      t₂.kernel.machine.sealedPages s va data.length + 1 =
        t.kernel.machine.sealedPages s va data.length := by
  obtain ⟨hbelow, hpage, hcode, hsealed, e, he, hcopy⟩ :=
    h.storable.userWrite_error h.active.reachable.kernel.permitted hrefused
  obtain ⟨t₁, hentered, h₁, hmapping, hread⟩ := (h.attempt hready).told hready fault
  have hmendable : Mendable ⟨t₁, cpu, id⟩ s
      (FaultFrame.ofTrap (faultFrame f fault.err) fault.va.word) :=
    ⟨hbelow, hcode, (hready.apart _ hpage).2, e, (hmapping s _).trans he, hcopy⟩
  have hsame : t₁.kernel.machine.isSealed s = t.kernel.machine.isSealed s :=
    Machine.isSealed_congr (hmapping s)
  obtain ⟨t₂, g, hresumed, h₂, hfewer⟩ :=
    h₁.mended hready rfl hread hmendable hpage (hsame ▸ hsealed)
  rw [Machine.sealedPages, Machine.sealedPages, hsame] at hfewer
  exact ⟨t₁, t₂, restore g (.ofTrap (faultFrame f fault.err) fault.va.word), hentered, hresumed,
    ⟨rfl, rfl, rfl, rfl⟩, h₂, hfewer⟩

/-- **After such an attempt** the next one is made. -/
lemma again (h : Stores config frames t₀ cpu id s x plan va data.length f t)
    (hready : StoreReady t₀.kernel id s x plan f va data.length) {fault : MmuFault}
    (hrefused : (t.kernel.machine.userWrite s va data).1 = .error fault) :
    ∃ t₂ f₂, (∀ attempts, accessWithin cpu (fun m s => m.userWrite s va data) (attempts + 1) t =
        accessWithin cpu (fun m s => m.userWrite s va data) attempts t₂) ∧ f.Continues f₂ ∧
      StoreReady t₀.kernel id s x plan f₂ va data.length ∧
      Stores config frames t₀ cpu id s x plan va data.length f₂ t₂ ∧
      t₂.kernel.machine.sealedPages s va data.length + 1 =
        t.kernel.machine.sealedPages s va data.length := by
  obtain ⟨t₁, t₂, f₂, hentered, hresumed, hcontinues, hstores, hfewer⟩ := h.retry hready hrefused
  refine ⟨t₂, f₂, fun attempts => ?_, hcontinues,
    ⟨hready.handles, hcontinues.esp ▸ hready.room, hready.apart, hready.scratch⟩, hstores, hfewer⟩
  rw [accessWithin_refused h.active.running.occupant h.active.space (Prod.ext hrefused rfl)
    hentered, if_pos rfl, hresumed]

/-- **A store that is tried often enough succeeds.** -/
lemma store (h : Stores config frames t₀ cpu id s x plan va data.length f t)
    (hready : StoreReady t₀.kernel id s x plan f va data.length) {attempts : Nat}
    (hcount : t.kernel.machine.sealedPages s va data.length < attempts) :
    ∃ t' f', accessWithin cpu (fun m s => m.userWrite s va data) attempts t = (.ok (), t') ∧
      f.Continues f' ∧ Stores config frames t₀ cpu id s x plan va data.length f' t' ∧
      ∀ j < data.length, t'.kernel.machine.byte? s (va.toNat + j) = data[j]? := by
  induction attempts generalizing t f with
  | zero => exact absurd hcount (Nat.not_lt_zero _)
  | succ attempts ih =>
    rcases hwrite : (t.kernel.machine.userWrite s va data).1 with fault | _
    · obtain ⟨t₂, f₂, hnext, hcontinues, hready₂, hstores, hfewer⟩ := h.again hready hwrite
      obtain ⟨t', f', hdone, hcontinues', hrest⟩ := ih hstores hready₂ (by omega)
      exact ⟨t', f', (hnext attempts).trans hdone, hcontinues.trans hcontinues', hrest⟩
    · exact ⟨_, f, accessWithin_ok h.active.running.occupant h.active.space (Prod.ext hwrite rfl),
        .refl f, h.attempt hready, fun j hj =>
          h.storable.byte?_stored h.active.sound.accounted hwrite hj⟩

/-- **A store that is not** is given up, although the process has mended every fault and goes on
where it was. -/
lemma gaveUp (h : Stores config frames t₀ cpu id s x plan va data.length f t)
    (hready : StoreReady t₀.kernel id s x plan f va data.length) {attempts : Nat}
    (hcount : attempts ≤ t.kernel.machine.sealedPages s va data.length) :
    ∃ t' f', accessWithin cpu (fun m s => m.userWrite s va data) attempts t =
        (.error .terminated, t') ∧
      f.Continues f' ∧ Stores config frames t₀ cpu id s x plan va data.length f' t' := by
  induction attempts generalizing t f with
  | zero => exact ⟨t, f, rfl, .refl f, h⟩
  | succ attempts ih =>
    rcases hwrite : (t.kernel.machine.userWrite s va data).1 with fault | _
    · obtain ⟨t₂, f₂, hnext, hcontinues, hready₂, hstores, hfewer⟩ := h.again hready hwrite
      obtain ⟨t', f', hdone, hcontinues', h'⟩ := ih hstores hready₂ (by omega)
      exact ⟨t', f', (hnext attempts).trans hdone, hcontinues.trans hcontinues', h'⟩
    · have hnone :=
        (h.storable.covered h.active.reachable.kernel.permitted).sealedPages_of_ok hwrite
      omega

end Stores

end UserContext

end Exokernel
