/-
What the handler makes of a page that is to be copied, request by request.

* `Active.request_granted`: a request that the kernel grants;
* `Active.grantPage`, `Active.copyPage`, `Active.sharePage`, `Active.hidePage`: **the steps of the
  handler**, which succeed;
* `Mendable`, `Active.mend`: **the handler mends a write** to a page that is to be copied.
-/
import Exokernel.Proofs.Bench.Duplicates
import Exokernel.Proofs.Bench.Mending
import Exokernel.Proofs.Kernel.Grants
import Exokernel.Proofs.Memory.Copies

namespace Exokernel

open Layout

namespace UserContext

open Bench Kernel Program

variable {config : Config} {frames cpu s n k page : Nat} {id : ProcessId} {u u' : UserContext}
  {f : TrapFrame} {va srcVa : VirtAddr} {perm : Perm} {e : Mapping} {c : Syscall}

/-- What the fault handler is entered with: a write to a page that is to be copied. -/
structure Mendable (u : UserContext) (s : Nat) (fault : FaultFrame) : Prop where
  below : (VirtAddr.mk fault.faultVa).toNat < userTop
  write : fault.err &&& FaultCode.write ≠ 0
  apart : (VirtAddr.mk fault.faultVa).page ≠ scratchNumber
  toCopy : ∃ e, u.bed.kernel.machine.mapping? s (VirtAddr.mk fault.faultVa).page = some e ∧
    e.perm.contains .copyOnWrite = true

/-- The base of a page below `Layout.userTop` can be mapped. -/
lemma isMappable_pageBase (hlt : va.toNat < userTop) : va.pageBase.isMappable = true := by
  have haligned : va.pageBase.isAligned = true := by
    rw [VirtAddr.isAligned, VirtAddr.offset, VirtAddr.toNat_pageBase, Nat.mul_mod_left]
    rfl
  have hbase : va.pageBase.toNat < userTop := by
    rw [VirtAddr.toNat_pageBase]
    exact Nat.lt_of_le_of_lt (Nat.div_mul_le_self ..) hlt
  rw [VirtAddr.isMappable, haligned, decide_eq_true hbase]
  rfl

/-- The process finds the permissions of such a page. -/
lemma Mendable.perm? {fault : FaultFrame} (h : u.Mendable s fault) (hs : u.space? = some s) :
    (Host.perm? u (VirtAddr.mk fault.faultVa).pageBase).any (·.contains .copyOnWrite) = true := by
  obtain ⟨hbelow, -, -, e, he, hcopy⟩ := h
  have hlt := lt_userTop_of_isMappable (isMappable_pageBase hbelow)
  change (u.perm? _).any _ = true
  rw [UserContext.perm?, hs, Option.bind_some, Machine.lookup?_of_lt hlt, VirtAddr.page_pageBase,
    he]
  exact hcopy

/-- The handler, whose requests all succeed. -/
lemma exec_mendCopyOnWrite_ok {fault : FaultFrame} {u₁ u₂ u₃ : UserContext}
    (hwrite : fault.err &&& FaultCode.write ≠ 0)
    (htoCopy : (Host.perm? u (VirtAddr.mk fault.faultVa).pageBase).any
      (·.contains .copyOnWrite) = true)
    (hgrant : (Program.pageAlloc .self (.ofNat scratchPage) .userWrite :
      Program UserContext Unit).exec u = (.ok (), u₁))
    (hcopy : (Program.copyPage (.ofNat scratchPage) (VirtAddr.mk fault.faultVa).pageBase :
      Program UserContext Unit).exec u₁ = (.ok (), u₂))
    (hshare : (Program.pageMap .self (.ofNat scratchPage) .self
      (VirtAddr.mk fault.faultVa).pageBase .userWrite : Program UserContext Unit).exec u₂ =
      (.ok (), u₃))
    (hhide : (Program.pageUnmap .self (.ofNat scratchPage) : Program UserContext Unit).exec u₃ =
      (.ok (), u')) :
    (Program.mendCopyOnWrite fault : Program UserContext Unit).exec u = (.ok (), u') := by
  rw [Program.mendCopyOnWrite, exec_bind, exec_perm?]
  dsimp only
  rw [if_neg (not_or.2 ⟨hwrite, not_not_intro htoCopy⟩), exec_bind, hgrant]
  dsimp only
  rw [exec_bind, hcopy]
  dsimp only
  rw [exec_bind, hshare]
  exact hhide

namespace Active

/-- **A request that the kernel grants**, whatever it did to save the registers. -/
lemma request_granted (h : u.Active config frames cpu id s f)
    (hc : Syscall.decode c.encode = .ok c) (hpersists : Persists cpu id c) {g : Kernel → Kernel}
    (hgrants : ∀ k₁, u.bed.kernel.Saved id (callFrame f c) k₁ →
      k₁.execute cpu id c = (.answer (.ok 0), g k₁)) :
    ∃ k₁ u', u.bed.kernel.Saved id (callFrame f c) k₁ ∧
      (g k₁).Saved id (answeredFrame f c (.ok 0)) u'.bed.kernel ∧
      (Program.request c).exec u = (.ok (), u') := by
  obtain ⟨k₁, result, k₂, u', hserved, -, hexec⟩ := h.request hc hpersists
  have hgranted := hserved.executed.symm.trans (hgrants k₁ hserved.saved)
  rw [Prod.mk.injEq, Outcome.answer.injEq] at hgranted
  obtain ⟨rfl, rfl⟩ := hgranted
  exact ⟨k₁, u', hserved.saved, hserved.answered, hexec⟩

/-- **A fresh page** that is provided for is granted, and the frames for other pages are still
there. -/
lemma grantPage (h : u.Active config frames cpu id s f) (hva : va.isMappable = true)
    (hperm : perm.isRequestable = true)
    (hprovided : u.bed.kernel.machine.Provided s va.page (k + 1)) :
    ∃ u', (Program.pageAlloc .self va perm : Program UserContext Unit).exec u = (.ok (), u') ∧
      u'.bed.kernel.machine.HasTable s va.page ∧ k ≤ u'.bed.kernel.machine.freeFrames := by
  have hprovided₁ : ∀ k₁ f', u.bed.kernel.Saved id f' k₁ →
      k₁.machine.Provided s va.page (k + 1) := fun k₁ f' hsaved => by
    obtain ⟨hframes, hspaces, -⟩ := hsaved.memory
    refine hprovided.mono hspaces (Nat.le_of_eq ?_)
    rw [Machine.freeFrames, Machine.freeFrames, hframes]
  obtain ⟨k₁, u', hsaved, hanswered, hexec⟩ := h.request_granted rfl
    pageAlloc_leavesTable.persists fun k₁ hsaved => executed_pageAlloc_self
      (hsaved.spaceOf?_eq h.space) hva hperm (hprovided₁ k₁ _ hsaved)
  obtain ⟨hframes, hspaces, -⟩ := hanswered.memory
  obtain ⟨hok, hleft⟩ : (k₁.machine.mapZeroed s va perm).1 = .ok () ∧ _ :=
    (hprovided₁ k₁ _ hsaved).mapZeroed (lt_userTop_of_isMappable hva)
  obtain ⟨n, frames, -, hm⟩ := Machine.mapZeroed_ok hok
  refine ⟨u', hexec, (Machine.hasTable_map hm).congr hspaces, ?_⟩
  rwa [Machine.freeFrames, hframes]

/-- **A page that is shown** at another page, which has a page table, takes nothing. -/
lemma sharePage (h : u.Active config frames cpu id s f) (hsrc : srcVa.isMappable = true)
    (hva : va.isMappable = true) (hperm : perm.isRequestable = true)
    (he : u.bed.kernel.machine.mapping? s srcVa.page = some e)
    (hwrite : perm.contains .writable = true → e.perm.contains .writable = true)
    (htable : u.bed.kernel.machine.HasTable s va.page) :
    ∃ u', (Program.pageMap .self srcVa .self va perm : Program UserContext Unit).exec u =
        (.ok (), u') ∧ u.bed.kernel.machine.Spares u'.bed.kernel.machine := by
  obtain ⟨k₁, u', hsaved, hanswered, hexec⟩ := h.request_granted rfl
    pageMap_leavesTable.persists fun k₁ hsaved => by
      have he₁ : k₁.machine.mapping? s srcVa.page = some e := by
        rw [Machine.mapping?, Machine.space?, hsaved.memory.2.1]
        exact he
      exact executed_pageMap_self (hsaved.spaceOf?_eq h.space) hsrc hva hperm he₁ hwrite
        (htable.congr hsaved.memory.2.1)
  obtain ⟨hframes, hspaces, -⟩ := hsaved.memory
  obtain ⟨hframes', hspaces', -⟩ := hanswered.memory
  have hbefore : u.bed.kernel.machine.Spares k₁.machine :=
    .of_same hspaces (Nat.le_of_eq (congrArg (·.free.length) hframes.symm))
  exact ⟨u', hexec, (hbefore.trans .share).trans
    (.of_same hspaces' (Nat.le_of_eq (congrArg (·.free.length) hframes'.symm)))⟩

/-- **A page that is hidden** shows nothing any more, and no other page changes. -/
lemma hidePage (h : u.Active config frames cpu id s f) (hva : va.isMappable = true) :
    ∃ f' u', (Program.pageUnmap .self va : Program UserContext Unit).exec u = (.ok (), u') ∧
      u'.Active config frames cpu id s f' ∧ Renews id u.bed.kernel u'.bed.kernel ∧
      u.bed.kernel.machine.Spares u'.bed.kernel.machine ∧
      (∀ t page, u'.bed.kernel.machine.mapping? t page =
        if s = t ∧ va.page = page then none else u.bed.kernel.machine.mapping? t page) ∧
      ∀ n, u'.bed.kernel.machine.frames.contents? n =
        u.bed.kernel.machine.frames.contents? n := by
  obtain ⟨k₁, u', hsaved, hanswered, hexec⟩ := h.request_granted rfl
    pageUnmap_leavesTable.persists fun k₁ hsaved =>
      executed_pageUnmap_self (hsaved.spaceOf?_eq h.space) hva
  obtain ⟨k₂, v, k₃, hserved, hactive⟩ := h.request_ok rfl pageUnmap_leavesTable.persists hexec
  obtain ⟨hframes, hspaces, -⟩ := hsaved.memory
  obtain ⟨hframes', hspaces', -⟩ := hanswered.memory
  have hbefore : u.bed.kernel.machine.Spares k₁.machine :=
    .of_same hspaces (Nat.le_of_eq (congrArg (·.free.length) hframes.symm))
  refine ⟨_, u', hexec, hactive, hserved.renews pageUnmap_leavesTable, (hbefore.trans .unmap).trans
    (.of_same hspaces' (Nat.le_of_eq (congrArg (·.free.length) hframes'.symm))),
    fun t page => ?_, fun n => ?_⟩
  · rw [Machine.mapping?_of_spaces hspaces', Machine.mapping?_unmap,
      Machine.mapping?_of_spaces hspaces]
  · rw [hframes', ← hframes]
    exact Machine.contents?_unmap n

/-- **A copy that user code makes** of one of its pages at another one. -/
lemma copyPage (h : u.Active config frames cpu id s f) {twin : Nat}
    (he : u.bed.kernel.machine.mapping? s page = some e)
    (htwin : u.bed.kernel.machine.mapping? s twin = some ⟨n, .userWrite⟩)
    (hsrc : srcVa.toNat = page * pageSize) (hva : va.toNat = twin * pageSize) :
    ∃ u', (Program.copyPage va srcVa : Program UserContext Unit).exec u = (.ok (), u') ∧
      u'.Active config frames cpu id s f ∧ Renews id u.bed.kernel u'.bed.kernel ∧
      u'.bed.kernel.machine.spaces = u.bed.kernel.machine.spaces ∧
      u'.bed.kernel.machine.freeFrames = u.bed.kernel.machine.freeFrames ∧
      (∀ k, u'.bed.kernel.machine.frames.refs k = u.bed.kernel.machine.frames.refs k) ∧
      (∀ k, k ≠ n → u'.bed.kernel.machine.frames.contents? k =
        u.bed.kernel.machine.frames.contents? k) ∧
      ∀ i < pageSize, u'.bed.kernel.machine.frames.byte? n i =
        u.bed.kernel.machine.frames.byte? e.frame i := by
  obtain ⟨bytes, hread, hok, hothers, hcopied⟩ := Machine.copied h.sound.accounted he
    (h.reachable.kernel.permitted s page e he) htwin hsrc hva
  have hreach' := h.reachable.copyPage va srcVa
  obtain ⟨hreach, rfl, rfl, ⟨hocc, g, hruns⟩, huser, hs⟩ := h
  have hwrite : u.bed.kernel.machine.userWrite s va bytes = (.ok (), _) := Prod.ext hok rfl
  have hcopy : u.copyPage va srcVa = (.ok (), { u with bed := { u.bed with kernel :=
      { u.bed.kernel with machine := (u.bed.kernel.machine.userWrite s va bytes).2 } } }) := by
    have hspace : u.space? = some s := hs
    rw [UserContext.copyPage, hspace]
    dsimp only
    rw [hread]
    dsimp only
    rw [hwrite]
  rw [hcopy] at hreach'
  exact ⟨_, hcopy, ⟨hreach', rfl, rfl, ⟨hocc, g, hruns⟩, huser, hs⟩, .of_table rfl, rfl,
    Machine.freeFrames_userWrite, fun _ => refs_writePieces .., hothers, hcopied⟩

/-- **The handler mends a write** to a page that is to be copied, if there are frames for a copy and
nothing is at the scratch page. -/
lemma mend (h : u.Active config frames cpu id s f) {fault : FaultFrame}
    (hfault : u.Mendable s fault)
    (hscratch : u.bed.kernel.machine.mapping? s scratchNumber = none)
    (hprovided : u.bed.kernel.machine.Provided s scratchNumber (k + 1)) :
    ∃ f' u', (Program.mendCopyOnWrite fault : Program UserContext Unit).exec u = (.ok (), u') ∧
      u'.Active config frames cpu id s f' ∧ Renews id u.bed.kernel u'.bed.kernel ∧
      u.bed.kernel.machine.Mended s (VirtAddr.mk fault.faultVa).page u'.bed.kernel.machine ∧
      u'.bed.kernel.machine.Provided s scratchNumber k := by
  have htoCopy := hfault.perm? h.placed.space?
  obtain ⟨hbelow, hwrite, hapart, e, he, -⟩ := hfault
  have hmappable := isMappable_pageBase hbelow
  have hnumber : (VirtAddr.ofNat scratchPage).page = scratchNumber := by decide
  have huserWrite := Perm.isRequestable_userWrite
  have hpresent : Perm.userWrite ||| .present = .userWrite := Perm.or_present huserWrite
  have hscratchMappable : (VirtAddr.ofNat scratchPage).isMappable = true := by decide
  generalize hva : VirtAddr.mk fault.faultVa = va at hapart he hmappable htoCopy
  -- the scratch page
  obtain ⟨u₁, hgrant, htable, hleft⟩ := h.grantPage hscratchMappable huserWrite
    (hnumber ▸ hprovided)
  obtain ⟨f₁, n, t, h₁, -, hrenews₁, hfresh, ht, hput, -⟩ := h.pageAlloc hgrant
  obtain rfl : s = t := Option.some.inj (h.space.symm.trans ht)
  rw [hpresent, hnumber] at hput
  -- the copy
  have he₁ : u₁.bed.kernel.machine.mapping? s va.page = some e := by
    rw [hput.mapping, if_neg fun hc => hapart hc.2.symm, he]
  have htwin₁ : u₁.bed.kernel.machine.mapping? s scratchNumber = some ⟨n, .userWrite⟩ := by
    rw [hput.mapping, if_pos ⟨rfl, rfl⟩]
  obtain ⟨u₂, hcopied, h₂, hrenews₂, hspaces₂, hfree₂, -, hothers₂, hbytes₂⟩ :=
    h₁.copyPage he₁ htwin₁ va.toNat_pageBase toNat_scratchPage
  have hmapping₂ : ∀ t q, u₂.bed.kernel.machine.mapping? t q =
      u₁.bed.kernel.machine.mapping? t q := Machine.mapping?_of_spaces hspaces₂
  -- its frame takes the place of the page
  have htwin₂ := (hmapping₂ s scratchNumber).trans htwin₁
  obtain ⟨u₃, hshare, hspares₃⟩ := h₂.sharePage hscratchMappable
    hmappable huserWrite (hnumber ▸ htwin₂) (fun hc => hc)
    (h₂.reachable.kernel.tabled s _ e (by rw [VirtAddr.page_pageBase, hmapping₂, he₁]))
  obtain ⟨f₃, e₃, t, h₃, hrenews₃, he₃, ht, hput₃⟩ := h₂.pageMap hshare
  obtain rfl : s = t := Option.some.inj (h₂.space.symm.trans ht)
  rw [hnumber, htwin₂, Option.some.injEq] at he₃
  rw [← he₃, hpresent, VirtAddr.page_pageBase] at hput₃
  -- and the scratch page is given up
  obtain ⟨f₄, u₄, hhide, h₄, hrenews₄, hspares₄, hmap₄, hcont₄⟩ :=
    h₃.hidePage hscratchMappable
  rw [hnumber] at hmap₄
  refine ⟨f₄, u₄, ?_, h₄, ((hrenews₁.trans hrenews₂).trans hrenews₃).trans hrenews₄, ?_, .inl ?_⟩
  · subst hva
    exact exec_mendCopyOnWrite_ok hwrite htoCopy hgrant hcopied hshare hhide
  · exact .of_steps h.sound.accounted h₂.sound.accounted he hapart hscratch hfresh hput hmapping₂
      hothers₂ hbytes₂ hput₃ hmap₄ hcont₄
  · have hspares := (Machine.Spares.of_same hspaces₂ (Nat.le_of_eq hfree₂.symm)).trans
      (hspares₃.trans hspares₄)
    exact ⟨hspares.tables s _ (hnumber ▸ htable), Nat.le_trans hleft hspares.free⟩

end Active

end UserContext

end Exokernel
