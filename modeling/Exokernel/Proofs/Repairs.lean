/-
What the handler of copy-on-write faults does, and what it refuses.

* `Machine.ToMend`: **a fault that the handler mends**: a write to a page that is to be copied;
* `Program.exec_mendCopyOnWrite_refused`: every other fault is refused without a call;
* `Active.grants`, `Active.hands`, `Active.drops`: the requests of the handler, reference by
  reference;
* `Active.repaired`: a handler that succeeds has given the page a frame of its own;
* `repair_exact`: **how the handler ends, and what it leaves**.
-/
import Exokernel.Proofs.Bench.Copies
import Exokernel.Proofs.Bench.Refusals
import Exokernel.Proofs.LibOS.Transcripts
import Exokernel.Proofs.Memory.Checks
import Exokernel.Proofs.Memory.Repairs
import Exokernel.Proofs.Stores

namespace Exokernel

open Layout

/-- **A fault that the handler mends**: a write to a page that address space `s` is to copy when it
is written. -/
def Machine.ToMend (m : Machine) (s : Nat) (fault : FaultFrame) : Prop :=
  fault.err &&& FaultCode.write ≠ 0 ∧
    ∃ e, m.lookup? s ⟨fault.faultVa⟩ = some e ∧ e.perm.contains .copyOnWrite = true

namespace Program

variable {σ : Type} [Host σ] {fault : FaultFrame} {s s' : σ}

/-- **What the handler does not mend** is refused, and nothing is done. -/
lemma exec_mendCopyOnWrite_refused (h : fault.err &&& FaultCode.write = 0 ∨
      ¬ (Host.perm? s (VirtAddr.mk fault.faultVa).pageBase).any (·.contains .copyOnWrite)) :
    (mendCopyOnWrite fault : Program σ Unit).exec s =
      (.error (.unexpectedFault fault.faultVa fault.err fault.eip), s) := by
  rw [mendCopyOnWrite, exec_bind, exec_perm?]
  dsimp only
  rw [if_pos h]
  rfl

/-- If the handler succeeds, so have its requests. -/
lemma exec_mendCopyOnWrite_steps
    (h : (mendCopyOnWrite fault : Program σ Unit).exec s = (.ok (), s')) : ∃ s₁ s₂ s₃,
      (pageAlloc .self (.ofNat scratchPage) .userWrite : Program σ Unit).exec s = (.ok (), s₁) ∧
      (copyPage (.ofNat scratchPage) (VirtAddr.mk fault.faultVa).pageBase :
        Program σ Unit).exec s₁ = (.ok (), s₂) ∧
      (pageMap .self (.ofNat scratchPage) .self (VirtAddr.mk fault.faultVa).pageBase .userWrite :
        Program σ Unit).exec s₂ = (.ok (), s₃) ∧
      (pageUnmap .self (.ofNat scratchPage) : Program σ Unit).exec s₃ = (.ok (), s') := by
  rw [mendCopyOnWrite, exec_bind, exec_perm?] at h
  dsimp only at h
  split at h
  · cases h
  · obtain ⟨_, s₁, hgrant, h⟩ := exec_bind_ok h
    obtain ⟨_, s₂, hcopy, h⟩ := exec_bind_ok h
    obtain ⟨_, s₃, hshare, hhide⟩ := exec_bind_ok h
    exact ⟨s₁, s₂, s₃, hgrant, hcopy, hshare, hhide⟩

/-- If its first request is refused, that is its end. -/
lemma exec_mendCopyOnWrite_error {e : LibError}
    (hmend : ¬ (fault.err &&& FaultCode.write = 0 ∨
      ¬ (Host.perm? s (VirtAddr.mk fault.faultVa).pageBase).any (·.contains .copyOnWrite)))
    (hgrant : (pageAlloc .self (.ofNat scratchPage) .userWrite : Program σ Unit).exec s =
      (.error e, s')) : (mendCopyOnWrite fault : Program σ Unit).exec s = (.error e, s') := by
  rw [mendCopyOnWrite, exec_bind, exec_perm?]
  dsimp only
  rw [if_neg hmend, exec_bind, hgrant]

/-- The handler does the same where its calls are taken down. -/
lemma mirrors_mendCopyOnWrite (fault : FaultFrame) :
    Mirrors (mendCopyOnWrite fault : Program (Recorded σ) Unit) (mendCopyOnWrite fault) := by
  refine (mirrors_perm? _).bind fun perm => ?_
  dsimp only
  split
  · exact mirrors_throw _
  · exact (mirrors_request _).bind fun _ => (mirrors_copyPage _ _).bind fun _ =>
      (mirrors_request _).bind fun _ => mirrors_request _

end Program

namespace UserContext

open Bench Kernel Program

variable {config : Config} {frames cpu s n : Nat} {id : ProcessId} {u u' : UserContext}
  {f : TrapFrame} {va srcVa : VirtAddr} {perm : Perm} {e : Mapping} {fault : FaultFrame}

namespace Active

/-! ### The requests of the handler -/

/-- **A fresh page** is the only one that shows its frame. Where nothing was shown before, no other
frame is referred to more or less. -/
lemma grants (h : u.Active config frames cpu id s f)
    (hexec : (Program.pageAlloc .self va perm : Program UserContext Unit).exec u = (.ok (), u')) :
    ∃ f' n, u'.Active config frames cpu id s f' ∧
      u'.bed.kernel.machine.mapping? s va.page = some ⟨n, perm⟩ ∧
      u'.bed.kernel.machine.SoleAt n s va.page ∧
      u.bed.kernel.machine.KeepsBut s va.page u'.bed.kernel.machine ∧
      (u.bed.kernel.machine.mapping? s va.page = none → ∀ k,
        (u.bed.kernel.machine.frames.allocated? k).isSome →
          u'.bed.kernel.machine.frames.refs k = u.bed.kernel.machine.frames.refs k) := by
  obtain ⟨k₁, v, k₂, hserved, hactive⟩ := h.request_ok rfl pageAlloc_leavesTable.persists hexec
  obtain ⟨_, halloc, -⟩ := tell_ok hserved.executed
  obtain ⟨t, n, ht, ⟨-, hshown, hkeeps⟩, -, hsole⟩ := setsAt_pageAlloc hserved.sound halloc
  have hs₁ : k₁.spaceOf? id = some s := hserved.saved.spaceOf?_eq h.space
  obtain rfl : s = t := Option.some.inj (hs₁.symm.trans ht)
  have hbefore := hserved.saved.memory
  have hafter := hserved.answered.memory
  refine ⟨_, n, hactive, (Machine.mapping?_of_spaces hafter.2.1 s _).trans hshown,
    fun t va' e he hframe => ?_, hkeeps.congr hbefore hafter, fun hnone k hk => ?_⟩
  · rw [Machine.lookup?_of_spaces hafter.2.1 hafter.2.2] at he
    exact hsole t va' e he hframe
  · obtain ⟨t, hspace, hok, rfl⟩ := pageAlloc_iff.1 halloc
    obtain ⟨-, -, -, ht'⟩ := allocSpace_iff.1 hspace
    obtain rfl : s = t := Option.some.inj (hs₁.symm.trans ht')
    rw [← Machine.mapping?_of_spaces hbefore.2.1] at hnone
    rw [← hbefore.1] at hk
    have hcount := hserved.sound.accounted.refs_mapZeroed hok hk
    rw [hnone] at hcount
    rw [hafter.1, ← hbefore.1]
    exact hcount

/-- **A page that is shown at another one** hands its frame over. -/
lemma hands (h : u.Active config frames cpu id s f)
    (hexec : (Program.pageMap .self srcVa .self va perm : Program UserContext Unit).exec u =
      (.ok (), u')) :
    ∃ f', u'.Active config frames cpu id s f' ∧
      u.bed.kernel.machine.Hands s srcVa s va perm u'.bed.kernel.machine ∧
      u.bed.kernel.machine.KeepsBut s va.page u'.bed.kernel.machine := by
  obtain ⟨k₁, v, k₂, hserved, hactive⟩ := h.request_ok rfl pageMap_leavesTable.persists hexec
  obtain ⟨_, hmap, -⟩ := tell_ok hserved.executed
  have hs₁ : k₁.spaceOf? id = some s := hserved.saved.spaceOf?_eq h.space
  obtain ⟨frame, t, m, ⟨dst, hargs, ht⟩, hm, rfl⟩ := pageMap_iff.1 hmap
  have hoffers := offers_of_mapArguments hargs
  obtain ⟨-, -, -, -, -, ht', t', e, ht₁, he, rfl, -⟩ := mapArguments_iff.1 ⟨dst, hargs, ht⟩
  obtain rfl : s = t := Option.some.inj (hs₁.symm.trans ht')
  obtain rfl : s = t' := Option.some.inj (hs₁.symm.trans ht₁)
  have hwindows : (m.release e.frame).windows = k₁.machine.windows :=
    (Machine.sameShape_map hm).windows
  refine ⟨_, hactive, ?_, ?_⟩
  · exact ((hserved.sound.accounted.hands he hoffers hm).congr_left hserved.saved.memory).congr
      hserved.answered.memory.1 hserved.answered.memory.2.1 hserved.answered.memory.2.2
  · exact (Machine.KeepsBut.of_puts (.of_mapKept hm) hserved.sound.accounted hwindows).congr
      hserved.saved.memory hserved.answered.memory

/-- **A page that is hidden** gives up its reference. -/
lemma drops (h : u.Active config frames cpu id s f)
    (hexec : (Program.pageUnmap .self va : Program UserContext Unit).exec u = (.ok (), u')) :
    ∃ f', u'.Active config frames cpu id s f' ∧
      u.bed.kernel.machine.Drops s va u'.bed.kernel.machine := by
  obtain ⟨k₁, v, k₂, hserved, hactive⟩ := h.request_ok rfl pageUnmap_leavesTable.persists hexec
  have hs₁ : k₁.spaceOf? id = some s := hserved.saved.spaceOf?_eq h.space
  obtain ⟨-, -, t, ht, rfl⟩ := pageUnmap_iff.1 (acknowledge_ok hserved.executed).1
  obtain rfl : s = t := Option.some.inj (hs₁.symm.trans ht)
  exact ⟨_, hactive,
    hserved.sound.accounted.drops.congr hserved.saved.memory hserved.answered.memory⟩

/-- **A handler that succeeds has given the page a frame of its own.** -/
lemma repaired (h : u.Active config frames cpu id s f) (hfault : u.Mendable s fault)
    (hscratch : u.bed.kernel.machine.mapping? s scratchNumber = none)
    (hexec : (Program.mendCopyOnWrite fault : Program UserContext Unit).exec u = (.ok (), u')) :
    u.bed.kernel.machine.Repaired s (VirtAddr.mk fault.faultVa).page scratchNumber
      u'.bed.kernel.machine := by
  obtain ⟨-, -, hapart, e, he, -⟩ := hfault
  obtain ⟨u₁, u₂, u₃, hgrant, hcopy, hshare, hhide⟩ := exec_mendCopyOnWrite_steps hexec
  have hnumber : (VirtAddr.ofNat scratchPage).page = scratchNumber := by decide
  generalize VirtAddr.mk fault.faultVa = va at hapart he hcopy hshare ⊢
  rw [← VirtAddr.page_pageBase] at hapart he ⊢
  rw [← hnumber] at hapart hscratch ⊢
  obtain ⟨f₁, n, h₁, hput, hsole, hkeeps₁, hrefs₁⟩ := h.grants hgrant
  have he₁ : u₁.bed.kernel.machine.mapping? s va.pageBase.page = some e := by
    rw [hkeeps₁.mapping? (h.sound.accounted.below s _ e he) fun hc => hapart hc.2, he]
  obtain ⟨u₂', hcopied, h₂, -, hspaces₂, -, hrefs₂, hothers₂, hbytes₂⟩ := h₁.copyPage he₁ hput
    (VirtAddr.page_pageBase va ▸ va.toNat_pageBase) (hnumber ▸ toNat_scratchPage)
  obtain rfl : u₂' = u₂ := congrArg Prod.snd (hcopied.symm.trans hcopy)
  have hwindows₂ := h₂.reachable.kernel.fixtures.1.trans h₁.reachable.kernel.fixtures.1.symm
  obtain ⟨f₃, h₃, hhands, hkeeps₃⟩ := h₂.hands hshare
  obtain ⟨f₄, h₄, hdrops⟩ := h₃.drops hhide
  have hsize := h₄.reachable.kernel.fixtures.2.trans h.reachable.kernel.fixtures.2.symm
  exact .of_steps h.sound.accounted h₁.sound.accounted h₂.sound.accounted h₄.sound.accounted hsize
    he hapart hscratch hput hsole hkeeps₁ hspaces₂ hwindows₂ hothers₂ hbytes₂
    ((hrefs₂ _).trans (hrefs₁ hscratch _ (h.sound.accounted.isSome_of_mapping? he))) hhands hkeeps₃
    hdrops

/-! ### What the handler is entered for -/

/-- The handler finds out whether it mends a fault. -/
lemma toMend_iff (h : u.Active config frames cpu id s f) :
    u.bed.kernel.machine.ToMend s fault ↔ ¬ (fault.err &&& FaultCode.write = 0 ∨
      ¬ (Host.perm? u (VirtAddr.mk fault.faultVa).pageBase).any (·.contains .copyOnWrite)) := by
  have hlook : u.bed.kernel.machine.lookup? s (VirtAddr.mk fault.faultVa).pageBase =
      u.bed.kernel.machine.lookup? s ⟨fault.faultVa⟩ :=
    Machine.lookup?_of_page (VirtAddr.page_pageBase _)
  have hperm : Host.perm? u (VirtAddr.mk fault.faultVa).pageBase =
      (u.bed.kernel.machine.lookup? s ⟨fault.faultVa⟩).map (·.perm) := by
    change u.perm? _ = _
    rw [UserContext.perm?, h.placed.space?, Option.bind_some, hlook]
  rw [hperm, not_or, not_not, Option.any_map, Option.any_eq_true]
  exact Iff.rfl

/-- Such a fault is on a page below `Layout.userTop`: no window is to be copied. -/
lemma mapping_toMend (h : u.Active config frames cpu id s f)
    (hmend : u.bed.kernel.machine.ToMend s fault) :
    (VirtAddr.mk fault.faultVa).toNat < userTop ∧
      ∃ e, u.bed.kernel.machine.mapping? s (VirtAddr.mk fault.faultVa).page = some e ∧
        e.perm.contains .copyOnWrite = true := by
  obtain ⟨-, e, he, hcopy⟩ := hmend
  have hbelow : (VirtAddr.mk fault.faultVa).toNat < userTop := by
    by_contra habove
    rw [Machine.lookup?, if_pos (Nat.not_lt.1 habove)] at he
    rw [Machine.not_copyOnWrite_of_window h.reachable.kernel.fixtures.1 he] at hcopy
    cases hcopy
  rw [Machine.lookup?_of_lt hbelow] at he
  exact ⟨hbelow, e, he, hcopy⟩

/-- So it can be mended, if it is not at the scratch page. -/
lemma mendable (h : u.Active config frames cpu id s f)
    (hmend : u.bed.kernel.machine.ToMend s fault)
    (hapart : (VirtAddr.mk fault.faultVa).page ≠ scratchNumber) : u.Mendable s fault := by
  obtain ⟨hbelow, htoCopy⟩ := h.mapping_toMend hmend
  exact ⟨hbelow, hmend.1, hapart, htoCopy⟩

end Active

end UserContext

/-- **How the handler of copy-on-write faults ends, and what it leaves**, if nothing is at the
scratch page and the fault is elsewhere. A fault that is no write to a page to be copied, and no
other, is refused as unexpected: no call is made, and nothing changes. If there is no frame for the
scratch page, or none for its page table, the handler runs out of memory, and every page, every
count of references and every frame in use is as it was. In all other cases the page is given a
frame of its own. No record of a process changes but the registers of the one that runs. -/
theorem repair_exact {config : Config} {frames cpu s : Nat} {t : Bench} {id : ProcessId}
    {f : TrapFrame} {fault : FaultFrame} (hbench : t.Driven config frames)
    (hrunning : t.Running cpu id f) (hspace : t.kernel.spaceOf? id = some s)
    (hscratch : t.kernel.machine.mapping? s scratchNumber = none)
    (hapart : (VirtAddr.mk fault.faultVa).page ≠ scratchNumber) :
    ∃ result u' calls,
      (Program.mendCopyOnWrite fault : Program UserContext Unit).exec ⟨t, cpu, id⟩ =
        (result, u') ∧
      (Program.mendCopyOnWrite fault : Program (Recorded UserContext) Unit).exec
        ⟨⟨t, cpu, id⟩, []⟩ = (result, ⟨u', calls⟩) ∧
      ((∃ va err eip, result = .error (.unexpectedFault va err eip)) ↔
        ¬ t.kernel.machine.ToMend s fault) ∧
      (¬ t.kernel.machine.ToMend s fault →
        result = .error (.unexpectedFault fault.faultVa fault.err fault.eip) ∧ calls = [] ∧
          u' = ⟨t, cpu, id⟩) ∧
      (t.kernel.machine.ToMend s fault → ¬ t.kernel.machine.Provided s scratchNumber 1 →
        result = .error (.kernel .outOfMemory) ∧ Kernel.Renews id t.kernel u'.bed.kernel ∧
          t.kernel.machine.Untouched u'.bed.kernel.machine) ∧
      (t.kernel.machine.ToMend s fault → t.kernel.machine.Provided s scratchNumber 1 →
        result = .ok () ∧ Kernel.Renews id t.kernel u'.bed.kernel ∧
          t.kernel.machine.Repaired s (VirtAddr.mk fault.faultVa).page scratchNumber
            u'.bed.kernel.machine) := by
  have h : (⟨t, cpu, id⟩ : UserContext).Active config frames cpu id s f :=
    ⟨hbench.reachable, rfl, rfl, hrunning, hbench.isUser hrunning.occupant, hspace⟩
  obtain ⟨hresult, hhost⟩ := Program.mirrors_mendCopyOnWrite fault
    (⟨⟨t, cpu, id⟩, []⟩ : Recorded UserContext)
  by_cases hmend : t.kernel.machine.ToMend s fault
  · have hfault := h.mendable hmend hapart
    have hfrom := h.toMend_iff.1 hmend
    by_cases hprovided : t.kernel.machine.Provided s scratchNumber 1
    · obtain ⟨f', u', hexec, -, hrenews, -⟩ := h.mend hfault hscratch (k := 0) hprovided
      have hrepaired := h.repaired hfault hscratch hexec
      rw [hexec] at hresult hhost
      refine ⟨_, u', _, hexec, Prod.ext hresult (congrArg (Recorded.mk · _) hhost), ?_, ?_, ?_, ?_⟩
      · exact iff_of_false (fun ⟨_, _, _, hc⟩ => nomatch hc) (not_not_intro hmend)
      · exact fun hnot => absurd hmend hnot
      · exact fun _ hnot => absurd hprovided hnot
      · exact fun _ _ => ⟨rfl, hrenews, hrepaired⟩
    · have hmappable : (VirtAddr.ofNat scratchPage).isMappable = true := by decide
      obtain ⟨-, e, he, -⟩ := h.mapping_toMend hmend
      obtain ⟨u', hrefused, hrenews, huntouched⟩ := h.pageAlloc_refused
        (Machine.isSome_space?_of_mapping? he) hmappable
        Perm.isRequestable_userWrite hprovided
      have hexec := Program.exec_mendCopyOnWrite_error hfrom hrefused
      rw [hexec] at hresult hhost
      refine ⟨_, u', _, hexec, Prod.ext hresult (congrArg (Recorded.mk · _) hhost), ?_, ?_, ?_, ?_⟩
      · exact iff_of_false (fun ⟨_, _, _, hc⟩ => nomatch hc) (not_not_intro hmend)
      · exact fun hnot => absurd hmend hnot
      · exact fun _ _ => ⟨rfl, hrenews, huntouched⟩
      · exact fun _ hyes => absurd hyes hprovided
  · have hrefused := not_not.1 (mt h.toMend_iff.2 hmend)
    refine ⟨_, _, [], Program.exec_mendCopyOnWrite_refused hrefused,
      Program.exec_mendCopyOnWrite_refused hrefused, ?_, ?_, ?_, ?_⟩
    · exact iff_of_true ⟨_, _, _, rfl⟩ hmend
    · exact fun _ => ⟨rfl, rfl, rfl⟩
    · exact fun hc => absurd hc hmend
    · exact fun hc => absurd hc hmend

/-- A program has made its page of data one that is to be copied. The handler mends a write to it,
and refuses a read. -/
theorem repair_exact_data : ∃ (t : Bench) (f : TrapFrame) (u' : UserContext),
    t.Driven { maxProcesses := 2 } 24 ∧ t.Running 0 (ProcessId.self.next 0) f ∧
      t.kernel.spaceOf? (ProcessId.self.next 0) = some 1 ∧
      t.kernel.machine.mapping? 1 scratchNumber = none ∧
      (Program.mendCopyOnWrite ⟨(VirtAddr.ofNat textBase).word, FaultCode.write, {}, 0, 0, 0⟩ :
        Program UserContext Unit).exec ⟨t, 0, ProcessId.self.next 0⟩ = (.ok (), u') ∧
      t.kernel.machine.Repaired 1 (textBase / pageSize) scratchNumber u'.bed.kernel.machine ∧
      (Program.mendCopyOnWrite ⟨(VirtAddr.ofNat textBase).word, 0, {}, 0, 0, 0⟩ :
        Program (Recorded UserContext) Unit).exec ⟨⟨t, 0, ProcessId.self.next 0⟩, []⟩ =
        (.error (.unexpectedFault (VirtAddr.ofNat textBase).word 0 0),
          ⟨⟨t, 0, ProcessId.self.next 0⟩, []⟩) := by
  have hboot : Reachable { maxProcesses := 2 } 24 _ := .boot rfl (.refl _) rfl
  have hstart := ((Bench.Driven.begin (hboot.step
    (.spawn ⟨.ofNat textBase, [.readWrite (.ofNat textBase) [7] 1]⟩) trivial)).schedule 0
      rfl).calls 0 [.pageMap .self (.ofNat textBase) .self (.ofNat textBase)
        (Program.readOnlyCopy .userWrite)]
  obtain ⟨t, hdriven, hrunning, hspace, hscratch, htoCopy, hexists, hfree⟩ :
      ∃ t : Bench, t.Driven { maxProcesses := 2 } 24 ∧
        t.Running 0 (ProcessId.self.next 0) ((t.frame? 0).getD (.initial 0)) ∧
        t.kernel.spaceOf? (ProcessId.self.next 0) = some 1 ∧
        t.kernel.machine.mapping? 1 scratchNumber = none ∧
        (t.kernel.machine.lookup? 1 (.ofNat textBase)).any (·.perm.contains .copyOnWrite) = true ∧
        (t.kernel.machine.space? 1).isSome = true ∧ 1 + 1 ≤ t.kernel.machine.freeFrames :=
    ⟨_, hstart, by decide +kernel⟩
  have hapart : ∀ err, (VirtAddr.mk (FaultFrame.mk (VirtAddr.ofNat textBase).word err {} 0 0 0
      ).faultVa).page ≠ scratchNumber :=
    fun _ => (by decide : (VirtAddr.ofNat textBase).page ≠ scratchNumber)
  obtain ⟨_, u', _, hexec, -, -, -, -, hmends⟩ :=
    repair_exact hdriven hrunning hspace hscratch (hapart FaultCode.write)
  obtain ⟨_, _, _, -, hrecorded, -, hrefuses, -⟩ :=
    repair_exact hdriven hrunning hspace hscratch (hapart 0)
  obtain ⟨rfl, -, hrepaired⟩ := hmends
    ⟨by decide, (Option.any_eq_true ..).1 htoCopy⟩ (.inr ⟨hexists, hfree⟩)
  obtain ⟨rfl, rfl, rfl⟩ := hrefuses fun hmend => hmend.1 (by decide)
  exact ⟨t, _, u', hdriven, hrunning, hspace, hscratch, hexec, hrepaired, hrecorded⟩

end Exokernel
