/-
A fork that fails does no harm.

* `Operation.held`, `History.held`: **a child that its parent holds** is not resumed until its
  parent lets it run;
* `UserContext.CopyReady`, `Active.store_copied`: **a store to a page that is to be copied**
  succeeds;
* `Kernel.LeavesChild`, `Kernel.ForkFailed`: what a fork that fails leaves behind;
* `Active.fork_refused`: **a fork fails so**, wherever it stops;
* `failed_fork_harmless`: so the process goes on as if it had not forked, and what was made for it
  stays out of the way;
* `failed_fork_harmless_not_stored`: but the frames that the fork did not find are missing when a
  page is to be copied.
-/
import Exokernel.Proofs.Bench.FailedForks
import Exokernel.Proofs.Statuses
import Exokernel.Proofs.Stores

namespace Exokernel

open Layout Kernel UserContext

/-! ### A child that is held -/

namespace Operation

variable {k : Kernel} {op : Operation} {parent child : ProcessId} {p p' : Process} {slot : Nat}

/-- **Who is held by its parent stays so** in steps by which its parent does not let it run. -/
lemma Step.held (h : op.Step k slot p p') (hawaits : ¬ op.Awaits k child)
    (hself : ¬ op.Sets k child child .runnable) (hsets : ¬ op.Sets k parent child .runnable)
    (hissue : op.issue? k ≠ some (slot, child))
    (hp : p.id = child → p.status.isLive → p.HeldBy parent) (hid : p'.id = child)
    (hlive : p'.status.isLive) : p'.HeldBy parent := by
  cases h with
  | begun hs hs' hne hmade => exact absurd (hid ▸ hmade) hissue
  | kept hsame hparent hs hres hopen =>
    have hpid := hsame.symm.trans hid
    obtain ⟨hown, hstatus, hfree, hclosed⟩ := hp hpid (hs ▸ hlive)
    refine ⟨hparent.trans hown, hs.trans hstatus, hres.elim (·.trans hfree) id, ?_⟩
    rw [← Bool.not_eq_true]
    intro hreceiving
    rcases hopen hreceiving with hopen | hopen
    · rw [hclosed] at hopen
      cases hopen
    · exact hawaits (hpid ▸ hopen)
  | moved hsame hparent hedge hres hopen =>
    have hpid := hsame.symm.trans hid
    have hheld := hp hpid
    have hnever : ∀ status, p.status = status → status.isLive → status = .notRunnable :=
      fun status hs hlive => hs.symm.trans (hheld (hs.symm ▸ hlive)).status
    -- no edge begins at a process that is held, but for those that are excluded
    generalize p'.status = status at hedge hlive
    cases hedge with
    | dispatched hs => cases hnever _ hs rfl
    | preempted hs => cases hnever _ hs rfl
    | yielded hs => cases hnever _ hs rfl
    | blocked hs => rcases hs with hs | hs <;> cases hnever _ hs rfl
    | held hs => rcases hs with hs | hs <;> cases hnever _ hs rfl
    | told hs hopen =>
      have hclosed := (hheld (hs ▸ rfl)).closed
      rw [hopen] at hclosed
      cases hclosed
    | released hs hfamily h =>
      rcases hfamily with rfl | rfl
      · exact absurd (hpid ▸ h) hself
      · exact absurd ((hheld (hs ▸ rfl)).parent_eq ▸ hpid ▸ h) hsets
    | loaded hs hop hok hmade => exact absurd (hpid ▸ hmade) hissue
    | doomed | freed => cases hlive

/-- So it is not resumed, as long as its name is not given to another process. -/
lemma held (hk : k.Sound) (hlegal : op.Legal k)
    (hheld : ∀ q, k.live? child = some q → q.HeldBy parent)
    (hissue : op.issue? k ≠ some (child.slot, child))
    (hsets : ¬ op.Sets k parent child .runnable) : op.resumed? k ≠ some child ∧
      ∀ q, (op.apply k).live? child = some q → q.HeldBy parent := by
  -- it is bound to no processor, and so it does nothing itself
  have hidle : ∀ cpu, (k.live? child).isSome →
      k.current? cpu ≠ some child := fun cpu hsome hcur => by
    obtain ⟨q, hq⟩ := Option.isSome_iff_exists.1 hsome
    have hres := (hk.current?_iff hq).1 hcur
    rw [(hheld q hq).resident] at hres
    cases hres
  have hawaits : ¬ op.Awaits k child := by
    rintro ⟨hcur, hcalls, -⟩
    exact hidle _ hcalls.2.1 hcur
  have hself : ¬ op.Sets k child child .runnable := by
    rintro ⟨hcur, hcalls, -⟩
    exact hidle _ hcalls.2.1 hcur
  have hafter : ∀ q, (op.apply k).live? child = some q → q.HeldBy parent := fun q hq => by
    obtain ⟨hrec, hid, hlive⟩ := Kernel.live?_eq_some_iff.1 hq
    exact (op.steps hk).induct (P := fun q => q.id = child → q.status.isLive → q.HeldBy parent)
      hrec (fun q hq hid hlive => hheld _ (Kernel.live?_eq_some_iff.2 ⟨hq, hid, hlive⟩))
      (fun q q' hstep hq => hstep.held hawaits hself hsets hissue hq) hid hlive
  refine ⟨fun hresumed => ?_, hafter⟩
  obtain ⟨r, hr, hprocess⟩ := Option.bind_eq_some_iff.1 hresumed
  cases r with
  | user id g =>
    cases hprocess
    obtain ⟨q, hq, hrun, -⟩ := told hk hlegal hr
    rw [(hafter q hq).status] at hrun
    cases hrun
  | idle | halt => cases hprocess

end Operation

/-- **A child that its parent holds** is not resumed until its parent lets it run, as long as its
name is not given to another process. -/
lemma History.held {config : Config} {frames : Nat} {k k' : Kernel} {es : List Transition}
    {parent child : ProcessId} (h : History k es k') (hk : Reachable config frames k)
    (hheld : ∀ q, k.live? child = some q → q.HeldBy parent)
    (hissue : ∀ e ∈ es, e.op.issue? e.before ≠ some (child.slot, child))
    (hsets : ∀ e ∈ es, ¬ e.op.Sets e.before parent child .runnable) :
    (∀ e ∈ es, e.resumed? ≠ some child) ∧
      ∀ q, k'.live? child = some q → q.HeldBy parent := by
  refine h.invariant (C := fun e => e.op.issue? e.before ≠ some (child.slot, child) ∧
      ¬ e.op.Sets e.before parent child .runnable)
    (P := fun es k' => (∀ e ∈ es, e.resumed? ≠ some child) ∧
      ∀ q, k'.live? child = some q → q.HeldBy parent)
    hk (fun e he => ⟨hissue e he, hsets e he⟩) ⟨List.forall_mem_nil _, hheld⟩ ?_
  rintro es₁ k₁ op hreach hlegal ⟨hissue₁, hsets₁⟩ ⟨hbefore, hheld₁⟩
  obtain ⟨hnot, hafter⟩ := op.held hreach.sound hlegal hheld₁ hissue₁ hsets₁
  exact ⟨List.forall_mem_append.2 ⟨hbefore, List.forall_mem_singleton.2 hnot⟩, hafter⟩

/-! ### A page that is to be copied -/

/-- A range within one page has no other page. -/
lemma eq_page_of_mem_pagesOf {va : VirtAddr} {len q : Nat} (hin : va.offset + len ≤ pageSize)
    (hq : q ∈ pagesOf va.toNat len) : q = va.page := by
  obtain ⟨hlen, hfirst, hlast⟩ := mem_pagesOf_iff.1 hq
  have hps : pageSize = 4096 := rfl
  simp only [VirtAddr.offset, VirtAddr.page, hps] at hin hfirst hlast ⊢
  omega

/-- So it has one page at most. -/
lemma length_pagesOf_le_one {va : VirtAddr} {len : Nat} (hin : va.offset + len ≤ pageSize) :
    (pagesOf va.toNat len).length ≤ 1 := by
  have hps : pageSize = 4096 := rfl
  rw [pagesOf]
  split
  · exact Nat.zero_le _
  · simp only [VirtAddr.offset, hps, List.length_range'] at hin ⊢
    omega

namespace UserContext

open Bench Kernel Program

variable {config : Config} {frames cpu s x : Nat} {id child : ProcessId} {t : Bench}
  {u u' : UserContext} {f : TrapFrame} {plan : UpcallPlan} {va : VirtAddr} {data : List UInt8}
  {e : Mapping} {fault : LibError}

/-- **What a process needs to be given a copy of a page**, once it has its handler and an exception
stack: its handler's code is there, the fault frame goes where `plan` says on an exception stack
that shows frame `x` and can be written, nothing is at the scratch page, and there is a frame for
the copy. -/
structure CopyReady (k : Kernel) (s x : Nat) (plan : UpcallPlan) (f : TrapFrame) : Prop where
  code : ∃ e, k.machine.mapping? s (VirtAddr.ofNat Bench.handlerEntry).page = some e
  stack : ∃ e, k.machine.mapping? s exceptionPage = some e ∧ e.frame = x ∧
    e.perm.contains .writable = true
  room : UpcallPlan.ofStackPointer f.esp = .ok plan
  scratch : k.machine.mapping? s scratchNumber = none
  provided : k.machine.Provided s scratchNumber 1

/-- **A store to a page that is to be copied** succeeds, and only its bytes change. -/
lemma Active.store_copied (h : (⟨t, cpu, id⟩ : UserContext).Active config frames cpu id s f)
    (hhandler : ∃ p, t.kernel.live? id = some p ∧
      p.faultHandler = some (.ofNat Bench.handlerEntry))
    (hready : CopyReady t.kernel s x plan f)
    (he : t.kernel.machine.mapping? s va.page = some e)
    (hcopy : e.perm.contains .copyOnWrite = true) (hpage : va.page ≠ exceptionPage)
    (hin : va.offset + data.length ≤ pageSize) :
    ∃ t', t.store cpu va data = (.ok (), t') ∧ t.Stored cpu id s x plan f va data t' := by
  obtain ⟨hcode, hstack, hroom, hscratch, hprovided⟩ := hready
  have hown : ∀ q ∈ pagesOf va.toNat data.length, q = va.page := fun q =>
    eq_page_of_mem_pagesOf hin
  have hstore : StoreReady t.kernel id s x plan f va data.length := by
    refine ⟨⟨hhandler, hcode, hstack⟩, hroom, fun q hq => ?_, hscratch⟩
    rw [hown q hq]
    refine ⟨hpage, fun heq => ?_⟩
    rw [heq, hscratch] at he
    cases he
  have hbelow : va.page * pageSize < userTop := h.sound.accounted.below s va.page e he
  have hend : va.toNat + data.length ≤ userTop := by
    have hps : pageSize = 4096 := rfl
    have htop : userTop = 0xEEC00000 := rfl
    simp only [VirtAddr.offset, VirtAddr.page, hps, htop] at hin hbelow ⊢
    omega
  have hstorable : t.kernel.machine.Storable s va data.length := by
    refine ⟨hend, fun q hq => ?_, fun q hq q' hq' _ _ _ _ _ => (hown q hq).trans (hown q' hq').symm⟩
    rw [hown q hq]
    exact ⟨e, he, .inr hcopy⟩
  have hone : t.kernel.machine.sealedPages s va data.length ≤ 1 :=
    Nat.le_trans List.countP_le_length (length_pagesOf_le_one hin)
  have hstores : Stores config frames t cpu id s x plan va data.length f t :=
    ⟨h, .of_table rfl, hstorable, .refl _, hprovided.anti hone⟩
  obtain ⟨t', f', hdone, hcontinues, hstores', hbytes⟩ :=
    hstores.store hstore (Nat.lt_of_le_of_lt hone (by decide : 1 < Bench.maxFaults))
  obtain ⟨p, hp, -⟩ := hhandler
  exact ⟨t', hdone, hstores'.stored hp hstore hcontinues hbytes⟩

end UserContext

/-! ### What is left behind -/

namespace Kernel

/-- **A child is left behind**, in a slot that was free, and held by its parent, process `id`.
Nobody else changes. -/
structure LeavesChild (k : Kernel) (id child : ProcessId) (k' : Kernel) : Prop where
  free : ∃ q, k.table.records[child.slot]? = some q ∧ q.status = .free
  held : ∃ q, k'.live? child = some q ∧ q.HeldBy id
  others : ∀ slot, slot ≠ id.slot → slot ≠ child.slot →
    k'.table.records[slot]? = k.table.records[slot]?

/-- **What a fork that fails leaves behind**, of process `id` with address space `s`. -/
structure ForkFailed (k : Kernel) (id : ProcessId) (s : Nat) (k' : Kernel) : Prop where
  own : ∀ p, k.live? id = some p →
    ∃ f h, k'.live? id = some { p with frame := f, faultHandler := h }
  memory : k.machine.Spared s k'.machine
  /-- Where a page is to be copied from now on, the process has its handler and an exception
  stack. -/
  turned : ∀ page e, k.machine.mapping? s page = some e → k'.machine.mapping? s page ≠ some e →
    (k'.machine.mapping? s exceptionPage).isSome ∧
      ∃ p, k'.live? id = some p ∧ p.faultHandler = some (.ofNat Bench.handlerEntry)
  child : (∀ slot, slot ≠ id.slot → k'.table.records[slot]? = k.table.records[slot]?) ∨
    ∃ child, k.LeavesChild id child k'
  /-- Whoever has an address space finds there what it had, at every address. -/
  others : ∀ slot q t, k.table.records[slot]? = some q → slot ≠ id.slot → q.space = some t →
    ∀ va, k'.machine.lookup? t va = k.machine.lookup? t va ∧
      k'.machine.shownByte? t va = k.machine.shownByte? t va

variable {k k' k₁ k₂ : Kernel} {id child : ProcessId} {p : Process} {s s' : Nat}
  {Q : Nat → Prop} {number : UInt32}

lemma Retunes.live? (h : Retunes id k k') (hp : k.live? id = some p) :
    ∃ f h, k'.live? id = some { p with frame := f, faultHandler := h } := by
  obtain ⟨hrec, hid, hlive⟩ := live?_eq_some_iff.1 hp
  obtain ⟨f, handler, hrec'⟩ := h.own p hrec
  exact ⟨f, handler, live?_eq_some_iff.2 ⟨hrec', hid, hlive⟩⟩

namespace ForkFailed

/-- **No child was made.** -/
lemma of_equips (hk : k.Sound) (hsep : k.Separate number) (hk' : k'.Sound)
    (hpermitted : k.machine.Permitted) (hs : k.spaceOf? id = some s) (hretunes : Retunes id k k')
    (hequips : k.machine.Equips s k'.machine) : k.ForkFailed id s k' := by
  obtain ⟨p, hp, hps⟩ := spaceOf?_eq_some_iff.1 hs
  obtain ⟨hrec, -, -⟩ := live?_eq_some_iff.1 hp
  refine ⟨fun q hq => hretunes.live? hq, .of_equips hk.accounted hk'.accounted hpermitted hequips,
    fun page e he hne => absurd (hequips.mapping? he) hne, .inl hretunes.others,
    fun slot q t hq hslot hqs va => ?_⟩
  have hother : s ≠ t := hsep.space_ne hrec hps hq hslot.symm hqs
  have hmap : ∀ page, k'.machine.mapping? t page = k.machine.mapping? t page := fun page =>
    hequips.others t page fun hc => hother hc.1.symm
  exact ⟨hequips.retains.lookup?_eq hmap va, hequips.retains.shownByte?_eq hmap va⟩

/-- **A child was made**, and some pages may be shared with it. -/
lemma of_shares (hk : k.Sound) (hsep : k.Separate number) (hk' : k'.Sound)
    (hfree : k.machine.space? s' = none) (hpermitted : k.machine.Permitted)
    (hs : k.spaceOf? id = some s) (hretunes : Retunes id k k₁)
    (hequips : k.machine.Equips s k₁.machine)
    (hstack : (k₁.machine.mapping? s exceptionPage).isSome)
    (hhandler : ∃ p, k₁.live? id = some p ∧ p.faultHandler = some (.ofNat Bench.handlerEntry))
    (hbegets : Begets id child s' k₁ k₂) (hattends : Attends id child k₂ k')
    (hshares : k₁.machine.Shares s (· ≠ exceptionPage) s' Q k'.machine) :
    k.ForkFailed id s k' := by
  obtain ⟨p, hp, hps⟩ := spaceOf?_eq_some_iff.1 hs
  obtain ⟨hrec, hid, hlive⟩ := live?_eq_some_iff.1 hp
  have hall := hequips.retains.trans hshares.retains
  have hown : ∀ {q : Process}, k₁.live? id = some q →
      ∃ f, k'.live? id = some { q with frame := f } :=
    fun {q} hq => by
      obtain ⟨hrec₁, hid₁, hlive₁⟩ := live?_eq_some_iff.1 hq
      obtain ⟨f, hf⟩ := hbegets.own q hrec₁
      obtain ⟨f', hf'⟩ := hattends.own _ hf
      exact ⟨f', live?_eq_some_iff.2 ⟨hf', hid₁, hlive₁⟩⟩
  refine ⟨fun q hq => ?_, .of_shares hk.accounted hk'.accounted hpermitted hequips hshares,
    fun page e he hne => ⟨?_, ?_⟩, .inr ⟨child, ?_, ?_, fun slot hslot hslot' => ?_⟩,
    fun slot q t hq hslot hqs va => ?_⟩
  · obtain ⟨f, handler, hq₁⟩ := hretunes.live? hq
    obtain ⟨f', hq'⟩ := hown hq₁
    exact ⟨f', handler, hq'⟩
  · rwa [(hshares.parent exceptionPage).resolve_right fun hforked => hforked.1 rfl]
  · obtain ⟨q, hq, hentry⟩ := hhandler
    obtain ⟨f, hq'⟩ := hown hq
    exact ⟨_, hq', hentry⟩
  · obtain ⟨q, hq, hfree⟩ := hbegets.free
    exact ⟨q, (hretunes.others _ hbegets.apart).symm.trans hq, hfree⟩
  · obtain ⟨q, hq, hheld, -⟩ := hbegets.held
    exact hattends.held hq hheld
  · rw [hattends.others slot hslot hslot', hbegets.others slot hslot hslot',
      hretunes.others slot hslot]
  · have hother : s ≠ t := hsep.space_ne hrec hps hq hslot.symm hqs
    have hold : t ≠ s' := by
      rintro rfl
      have hthere := hsep.housed.exist slot q t hq hqs
      rw [hfree] at hthere
      cases hthere
    have hmap : ∀ page, k'.machine.mapping? t page = k.machine.mapping? t page := fun page =>
      (hshares.others t hother.symm hold page).trans
        (hequips.others t page fun hc => hother hc.1.symm)
    exact ⟨hall.lookup?_eq hmap va, hall.shownByte?_eq hmap va⟩

end ForkFailed

end Kernel

namespace UserContext

open Bench Kernel Program

variable {config : Config} {frames cpu s : Nat} {id child : ProcessId}
  {u u' : UserContext} {f : TrapFrame} {fault : LibError}

/-- **A fork that fails**, wherever it stops. -/
lemma Active.fork_refused (h : u.Active config frames cpu id s f)
    (hsep : u.bed.kernel.Separate u.bed.kernel.machine.spaces.nextId)
    (hfork : (Program.fork : Program UserContext Fork).exec u = (.error fault, u')) :
    ∃ f', u'.Active config frames cpu id s f' ∧
      u.bed.kernel.ForkFailed id s u'.bed.kernel := by
  have hpermitted := h.reachable.kernel.permitted
  -- the exception stack and the handler of the parent
  obtain ⟨r₁, u₁, hinstall, hcases⟩ := exec_bind_cases hfork
  obtain ⟨f₁, h₁, hretunes, hequips, hinstalled⟩ := h.installHandler_attempt hinstall
  rcases hcases with ⟨e, -, -, rfl⟩ | ⟨_, hok, hfork⟩
  · exact ⟨f₁, h₁, .of_equips h.sound hsep h₁.sound hpermitted h.space hretunes hequips⟩
  obtain ⟨hstack, hhandler⟩ := hinstalled hok
  have hmade := h.installHandler_makesNoSpace hinstall
  -- the child
  obtain ⟨r₂, u₂, hexofork, hcases⟩ := exec_bind_cases hfork
  obtain ⟨f₂, h₂, hrefused | ⟨child, s', hbegets, hmap, hretains, hside⟩⟩ :=
    h₁.exofork_attempt (hmade.next_free (hsep.free rfl)) hexofork
  · obtain ⟨⟨e, he⟩, hrenews, huntouched⟩ := hrefused
    obtain ⟨e', -, -, rfl⟩ | ⟨side, hside, -⟩ := hcases
    · exact ⟨f₂, h₂, .of_equips h.sound hsep h₂.sound hpermitted h.space
        (hretunes.trans (.of_renews hrenews)) (hequips.untouched h₁.sound.accounted huntouched)⟩
    · rw [he] at hside
      cases hside
  -- the number of its address space was free
  have hfree : u.bed.kernel.machine.space? s' = none := by
    rw [hbegets.space, hmade.next]
    exact hsep.free rfl
  have hne : s ≠ s' := by
    rintro rfl
    have hthere := hsep.isSome_space? h.space
    rw [hfree] at hthere
    cases hthere
  have hnone : ∀ page, u₁.bed.kernel.machine.mapping? s' page = none := fun page => by
    rw [hequips.others s' page fun hc => hne hc.1.symm, Machine.mapping?, hfree]
    rfl
  have hempty : u₁.bed.kernel.machine.Shares s (fun _ => False) s' (fun _ => False)
      u₂.bed.kernel.machine := .of_same hretains hmap
  rcases hcases with ⟨e, -, -, rfl⟩ | ⟨side, rfl, hfork⟩
  · exact ⟨f₂, h₂, .of_shares h.sound hsep h₂.sound hfree hpermitted h.space hretunes hequips
      hstack hhandler hbegets (.of_renews (.of_table rfl) hbegets.apart)
      (hempty.mono (fun _ => False.elim) fun _ hc => hc)⟩
  -- its memory
  cases side with
  | child => cases hfork
  | parent other =>
    obtain ⟨rfl, hself⟩ := hside other rfl
    obtain ⟨q, hq, -, hspace⟩ := hbegets.held
    obtain ⟨f₃, h₃, hattends, hshares⟩ := h₂.furnish_refused hself hbegets.apart hq hspace hne
      (fun page => (hmap s' page).trans (hnone page)) hfork
    exact ⟨f₃, h₃, .of_shares h.sound hsep h₃.sound hfree hpermitted h.space hretunes hequips
      hstack hhandler hbegets hattends ((hempty.trans hshares fun _ => False.elim).mono
        (fun _ hc => hc.resolve_left not_false) fun _ hc => hc)⟩

end UserContext

variable {config : Config} {frames cpu : Nat} {id : ProcessId} {t : Bench} {u' : UserContext}
  {f : TrapFrame} {fault : LibError}

/-- **A fork that fails does no harm.** The process runs on with the memory that it had, but for an
exception stack and for pages that are to be copied from now on. As long as it has its handler, a
store to one of these succeeds whenever it has what it takes to be given a copy. A child that was
made is not resumed until its parent lets it run, as long as its name is not given to another
process; and nobody else changes, unless the numbers of address spaces had come round before. -/
theorem failed_fork_harmless (hbench : t.Driven config frames)
    (hearly : Early config frames t.kernel) (hrunning : t.Running cpu id f)
    (hfork : Program.fork.exec (⟨t, cpu, id⟩ : UserContext) = (.error fault, u')) :
    ∃ s f', t.kernel.spaceOf? id = some s ∧ u'.Active config frames cpu id s f' ∧
      t.kernel.ForkFailed id s u'.bed.kernel ∧
      (∀ (va : VirtAddr) (e : Mapping), t.kernel.machine.mapping? s va.page = some e →
        u'.bed.kernel.machine.mapping? s va.page ≠ some e →
        ∀ (t₁ : Bench) (cpu₁ x : Nat) (f₁ : TrapFrame) (plan : UpcallPlan) (data : List UInt8),
          (⟨t₁, cpu₁, id⟩ : UserContext).Active config frames cpu₁ id s f₁ →
          (t₁.kernel.live? id).map (·.faultHandler) =
            (u'.bed.kernel.live? id).map (·.faultHandler) →
          t₁.kernel.machine.mapping? s va.page = u'.bed.kernel.machine.mapping? s va.page →
          va.offset + data.length ≤ pageSize → CopyReady t₁.kernel s x plan f₁ →
          ∃ t₂, t₁.store cpu₁ va data = (.ok (), t₂) ∧
            t₁.Stored cpu₁ id s x plan f₁ va data t₂) ∧
      ∀ child, t.kernel.LeavesChild id child u'.bed.kernel →
        ∀ es k', History u'.bed.kernel es k' →
          (∀ e ∈ es, e.op.issue? e.before ≠ some (child.slot, child)) →
          (∀ e ∈ es, ¬ e.op.Sets e.before id child .runnable) →
          (∀ e ∈ es, e.resumed? ≠ some child) ∧
            ∀ q, k'.live? child = some q → q.HeldBy id := by
  obtain ⟨g, p, hp, -⟩ := hrunning.runs
  obtain ⟨s, hs⟩ := spaceOf?_of_live? hbench.reachable.sound hp
  have hactive : (⟨t, cpu, id⟩ : UserContext).Active config frames cpu id s f :=
    ⟨hbench.reachable, rfl, rfl, hrunning, hbench.isUser hrunning.occupant, hs⟩
  obtain ⟨f', hactive', hfailed⟩ := hactive.fork_refused hearly.separate hfork
  refine ⟨s, f', hs, hactive', hfailed, fun va e he hne t₁ cpu₁ x f₁ plan data h₁ hsame hpage₁ hin
    hready => ?_, fun child hleft es k' hhist hissue hsets => ?_⟩
  · obtain ⟨-, q, hq, hhandler⟩ := hfailed.turned va.page e he hne
    obtain ⟨hpage, hforked⟩ := (hfailed.memory.pages va.page e he).resolve_left hne
    have hcopy : e.forked.perm.contains .copyOnWrite = true :=
      Mapping.copyOnWrite_of_forked fun heq => hne (heq ▸ hforked)
    rw [hq, Option.map_some, Option.map_eq_some_iff] at hsame
    obtain ⟨q₁, hq₁, hsame⟩ := hsame
    exact h₁.store_copied ⟨q₁, hq₁, hsame.trans hhandler⟩ hready (hpage₁.trans hforked) hcopy hpage
      hin
  · obtain ⟨q, hq, hheld⟩ := hleft.held
    refine hhist.held hactive'.reachable.kernel (fun r hr => ?_) hissue hsets
    rw [hq] at hr
    cases hr
    exact hheld

/-- A program forks when there are frames for its child, but not for all pages of it. Its first page
is to be copied from then on. When it has destroyed the child, a store there succeeds. -/
theorem failed_fork_harmless_destroyed : ∃ (t t₁ t₂ : Bench) (u' : UserContext)
    (f f₁ : TrapFrame) (plan : UpcallPlan) (child : ProcessId),
      t.Driven { maxProcesses := 2 } 10 ∧ Early { maxProcesses := 2 } 10 t.kernel ∧
      t.Running 0 (ProcessId.self.next 0) f ∧
      Program.fork.exec (⟨t, 0, ProcessId.self.next 0⟩ : UserContext) =
        (.error (.kernel .outOfMemory), u') ∧
      t.kernel.ForkFailed (ProcessId.self.next 0) 1 u'.bed.kernel ∧
      t.kernel.LeavesChild (ProcessId.self.next 0) child u'.bed.kernel ∧
      t₁ = (u'.bed.call 0 (.destroy (ProcessId.self.next 1))).2 ∧
      t₁.store 0 (.ofNat textBase) [42] = (.ok (), t₂) ∧
      t₁.Stored 0 (ProcessId.self.next 0) 1 7 plan f₁ (.ofNat textBase) [42] t₂ := by
  have hboot : Booted { maxProcesses := 2 } 10 _ := ⟨_, [0], rfl, .refl _, rfl⟩
  have hspawn := hboot.history.snoc
    (.spawn ⟨.ofNat textBase, [.readWrite (.ofNat textBase) [7] 1]⟩) trivial
  have hstart := (Bench.Driven.begin (hspawn.reachable hboot.reachable)).schedule 0 rfl
  have hscheduled := (hspawn.snoc (.schedule 0) rfl).early hboot (by decide)
  let forked (t : Bench) : UserContext :=
    (Program.fork.exec (⟨t, 0, ProcessId.self.next 0⟩ : UserContext)).2
  let destroyed (t : Bench) : Bench := ((forked t).bed.call 0 (.destroy (ProcessId.self.next 1))).2
  obtain ⟨t, hdriven, hearly, hrunning, hspace, hfork, hbefore, hafter, hfree, hused, hchecked⟩ :
      ∃ t : Bench, t.Driven { maxProcesses := 2 } 10 ∧
        Early { maxProcesses := 2 } 10 t.kernel ∧
        t.Running 0 (ProcessId.self.next 0) ((t.frame? 0).getD (.initial 0)) ∧
        t.kernel.spaceOf? (ProcessId.self.next 0) = some 1 ∧
        (Program.fork.exec (⟨t, 0, ProcessId.self.next 0⟩ : UserContext)).1 =
          .error (.kernel .outOfMemory) ∧
        t.kernel.machine.mapping? 1 (VirtAddr.ofNat textBase).page = some ⟨3, .userWrite⟩ ∧
        (forked t).bed.kernel.machine.mapping? 1 (VirtAddr.ofNat textBase).page ≠
          some ⟨3, .userWrite⟩ ∧
        (t.kernel.table.records[1]?).map (·.status) = some .free ∧
        ((forked t).bed.kernel.table.records[1]?).map (·.status) = some .notRunnable ∧
        (destroyed t).Running 0 (ProcessId.self.next 0)
          (((destroyed t).frame? 0).getD (.initial 0)) ∧
        (((destroyed t).frame? 0).getD (.initial 0)).isUser = true ∧
        (destroyed t).kernel.spaceOf? (ProcessId.self.next 0) = some 1 ∧
        ((destroyed t).kernel.live? (ProcessId.self.next 0)).map (·.faultHandler) =
          ((forked t).bed.kernel.live? (ProcessId.self.next 0)).map (·.faultHandler) ∧
        (destroyed t).kernel.machine.mapping? 1 (VirtAddr.ofNat textBase).page =
          (forked t).bed.kernel.machine.mapping? 1 (VirtAddr.ofNat textBase).page ∧
        ((destroyed t).kernel.machine.mapping? 1
          (VirtAddr.ofNat Bench.handlerEntry).page).isSome = true ∧
        (destroyed t).kernel.machine.mapping? 1 exceptionPage = some ⟨7, .userWrite⟩ ∧
        UpcallPlan.ofStackPointer (((destroyed t).frame? 0).getD (.initial 0)).esp =
          .ok ⟨.ofNat (exceptionStackTop - FaultFrame.size), false⟩ ∧
        (destroyed t).kernel.machine.mapping? 1 scratchNumber = none ∧
        ((destroyed t).kernel.machine.space? 1).isSome = true ∧
        1 + 1 ≤ (destroyed t).kernel.machine.freeFrames :=
    ⟨_, hstart, Bench.kernel_enter ▸ hscheduled, by decide +kernel⟩
  obtain ⟨hrun, huser, hs₁, hhandler, hsame, hcode, hstack, hroom, hscratch, hthere, hfrees⟩ :=
    hchecked
  have hexec : Program.fork.exec (⟨t, 0, ProcessId.self.next 0⟩ : UserContext) =
    (.error (.kernel .outOfMemory), forked t) := Prod.ext hfork rfl
  obtain ⟨s, f', hs, hactive, hfailed, hstore, -⟩ := failed_fork_harmless hdriven hearly hrunning
    hexec
  obtain rfl : 1 = s := Option.some.inj (hspace.symm.trans hs)
  obtain ⟨t₂, hdone, hstored⟩ := hstore _ _ hbefore hafter (destroyed t) 0 7 _
    ⟨.ofNat (exceptionStackTop - FaultFrame.size), false⟩ [42]
    ⟨hactive.reachable.call 0 _, rfl, rfl, hrun, huser, hs₁⟩ hhandler hsame (by decide)
    ⟨Option.isSome_iff_exists.1 hcode, ⟨_, hstack, rfl, by decide⟩, hroom, hscratch,
      .inr ⟨hthere, hfrees⟩⟩
  rcases hfailed.child with hnobody | ⟨child, hleft⟩
  · have hslot := hnobody 1 (by decide)
    rw [hslot, hfree] at hused
    cases hused
  · exact ⟨t, destroyed t, t₂, forked t, _, _, _, child, hdriven, hearly, hrunning, hexec, hfailed,
      hleft, rfl, hdone, hstored⟩

/-- Before it has destroyed the child, there is no frame for a copy, and the store fails. -/
theorem failed_fork_harmless_not_stored : ∃ (t : Bench) (u' : UserContext) (f : TrapFrame)
    (e : Mapping), t.Driven { maxProcesses := 2 } 10 ∧ t.Running 0 (ProcessId.self.next 0) f ∧
      t.kernel.spaceOf? (ProcessId.self.next 0) = some 1 ∧
      Program.fork.exec (⟨t, 0, ProcessId.self.next 0⟩ : UserContext) =
        (.error (.kernel .outOfMemory), u') ∧
      t.kernel.machine.mapping? 1 (VirtAddr.ofNat textBase).page = some e ∧
      e.perm.contains .writable = true ∧
      u'.bed.kernel.machine.mapping? 1 (VirtAddr.ofNat textBase).page = some e.forked ∧
      e.forked.perm.contains .writable = false ∧ e.forked.perm.contains .copyOnWrite = true ∧
      (u'.bed.store 0 (.ofNat textBase) [42]).1 = .error (.handler (.kernel .outOfMemory)) := by
  have hboot : Reachable { maxProcesses := 2 } 10 _ := .boot rfl (.refl _) rfl
  have hstart := (Bench.Driven.begin (hboot.step
    (.spawn ⟨.ofNat textBase, [.readWrite (.ofNat textBase) [7] 1]⟩) trivial)).schedule 0 rfl
  let forked (t : Bench) : UserContext :=
    (Program.fork.exec (⟨t, 0, ProcessId.self.next 0⟩ : UserContext)).2
  obtain ⟨t, hdriven, hrunning, hspace, hfork, hbefore, hafter, hstore⟩ :
      ∃ t : Bench, t.Driven { maxProcesses := 2 } 10 ∧
        t.Running 0 (ProcessId.self.next 0) ((t.frame? 0).getD (.initial 0)) ∧
        t.kernel.spaceOf? (ProcessId.self.next 0) = some 1 ∧
        (Program.fork.exec (⟨t, 0, ProcessId.self.next 0⟩ : UserContext)).1 =
          .error (.kernel .outOfMemory) ∧
        t.kernel.machine.mapping? 1 (VirtAddr.ofNat textBase).page = some ⟨3, .userWrite⟩ ∧
        (forked t).bed.kernel.machine.mapping? 1 (VirtAddr.ofNat textBase).page =
          some (Mapping.mk 3 .userWrite).forked ∧
        ((forked t).bed.store 0 (.ofNat textBase) [42]).1 =
          .error (.handler (.kernel .outOfMemory)) :=
    ⟨_, hstart, by decide +kernel⟩
  exact ⟨t, forked t, _, _, hdriven, hrunning, hspace, Prod.ext hfork rfl, hbefore, by decide,
    hafter, by decide, by decide, hstore⟩

end Exokernel
