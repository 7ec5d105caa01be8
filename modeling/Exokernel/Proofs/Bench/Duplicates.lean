/-
What a fork makes of every page, step by step.

* `Served.puts`: a call that puts a page puts it for the caller to see, and does nothing else;
* `Active.pageMap`, `Active.pageAlloc`, `Active.setFaultHandler`, `Active.setStatus`,
  `Active.exofork`: **the requests of a fork** that succeed, in every detail;
* `Active.duplicate`, `Active.duplicateAll`: **one page**, and all of them, are shown in the child.
-/
import Exokernel.Proofs.Authority
import Exokernel.Proofs.Bench.Active
import Exokernel.Proofs.Bench.Forking
import Exokernel.Proofs.Memory.Doubles

namespace Exokernel

open Layout

/-- Nothing matters to a page that is put but frames and address spaces. -/
lemma Machine.Puts.congr {m m' m₁ m₁' : Machine} {s page : Nat} {e : Mapping}
    (h : m.Puts s page e m') (hf : m₁.frames = m.frames) (hs : m₁.spaces = m.spaces)
    (hf' : m₁'.frames = m'.frames) (hs' : m₁'.spaces = m'.spaces) : m₁.Puts s page e m₁' where
  mapping t q := by
    rw [mapping?_of_spaces hs', mapping?_of_spaces hs]
    exact h.mapping t q
  contents n hn := by
    rw [hf, hf']
    exact h.contents n (hf ▸ hn)

namespace Kernel

variable {k k' k₁ k₂ : Kernel} {id caller target other : ProcessId} {p q : Process} {cpu page : Nat}
  {f : TrapFrame} {c : Syscall} {e : Mapping} {w : UInt32} {result : Except KernelError UInt32}
  {va : VirtAddr} {perm : Perm}

/-! ### What calls come to -/

/-- A call that puts a page, before its caller entered the kernel and after it left. -/
lemma Served.puts (h : k.Served cpu id f c k₁ result k₂ k') (hput : k₁.Puts target page e k₂) :
    ∃ s, k.spaceOf? target = some s ∧ k.machine.Puts s page e k'.machine := by
  obtain ⟨s, m, hs, hput, rfl⟩ := hput
  obtain ⟨hframes, hspaces, -⟩ := h.saved.memory
  obtain ⟨hframes', hspaces', -⟩ := h.answered.memory
  exact ⟨s, h.saved.spaceOf? hs,
    hput.congr hframes.symm hspaces.symm hframes' hspaces'⟩

/-- A fresh page that is asked for and given holds zeros. -/
lemma executed_pageAlloc_zero (hk : k.Sound)
    (h : k.execute cpu caller (.pageAlloc target va perm) = (.answer (.ok w), k')) {s : Nat}
    (hs : k.spaceOf? (named caller target) = some s)
    (he : k'.machine.mapping? s va.page = some e) {i : Nat} (hi : i < pageSize) :
    k'.machine.frames.byte? e.frame i = some 0 := by
  rw [execute, tell, pageAlloc] at h
  cases hspace : k.allocSpace caller target va perm with
  | error e =>
    rw [hspace] at h
    cases h
  | ok s' =>
    rw [hspace] at h
    dsimp only at h
    obtain ⟨hres, rfl⟩ := Prod.mk.injEq .. ▸ h
    have hok : (k.machine.mapZeroed s' va perm).1 = .ok () := by
      cases hr : (k.machine.mapZeroed s' va perm).1 with
      | ok _ => rfl
      | error e =>
        rw [hr] at hres
        cases hres
    obtain rfl : s' = s := by
      obtain ⟨-, -, id, hid, hs'⟩ := allocSpace_ok_iff.1 hspace
      rw [← eq_named_of_resolve hid, hs'] at hs
      exact Option.some.inj hs
    exact Machine.byte?_mapZeroed hk.accounted hok he hi

/-- A fault handler that is set. -/
lemma executed_setFaultHandler_ok {entry : VirtAddr}
    (h : k.execute cpu caller (.setFaultHandler target entry) = (.answer (.ok w), k')) :
    ∃ q, k.live? (named caller target) = some q ∧
      k' = k.modify (named caller target) fun p => { p with faultHandler := some entry } := by
  rw [execute] at h
  obtain ⟨id, q, hid, hq, rfl⟩ := setFaultHandler_cases (acknowledge_ok h).1
  obtain rfl := eq_named_of_resolve hid
  exact ⟨q, hq, rfl⟩

/-- A status that is set. -/
lemma executed_setStatus_ok {status : ProcessStatus}
    (h : k.execute cpu caller (.setStatus target status) = (.answer (.ok w), k')) :
    ∃ q, k.live? (named caller target) = some q ∧
      (status = .runnable ∨ status = .notRunnable) ∧
      k' = k.modify (named caller target) (withStatus · status) := by
  rw [execute] at h
  obtain ⟨id, q, hs, hid, hq, rfl⟩ := setStatus_cases (acknowledge_ok h).1
  obtain rfl := eq_named_of_resolve hid
  exact ⟨q, hq, hs, rfl⟩

/-- **A child that is made**: it is held, has the registers of its parent and an address space of
its own, and all other processes are as they were. -/
lemma exofork_made (hk : k.Sound) (hp : k.live? caller = some p)
    (h : k.exofork caller = .ok (w, k')) : k.live? ⟨w⟩ = none ∧
      (∃ s, k'.live? ⟨w⟩ = some { id := ⟨w⟩, parent := caller, status := .notRunnable,
                                  space := some s, frame := p.frame.withResult 0 }) ∧
      ∀ other, other ≠ ⟨w⟩ → k'.live? other = k.live? other := by
  have hnone := (exofork_effect hk h).1
  obtain ⟨parent, child, k₁, hparent, hmade, rfl, rfl⟩ := exofork_cases h
  rw [hp, Option.some.injEq] at hparent
  subst hparent
  obtain ⟨s, hchild⟩ := live?_of_allocateAs hk rfl hmade
  have hlog : (k₁.modify child fun q => { q with frame := p.frame.withResult 0 }).Quiet _ :=
    quiet_log .debug s!"[{caller}] exofork -> {child}"
  refine ⟨hnone, ⟨s, ?_⟩, fun other hne => ?_⟩
  · rw [hlog.live?]
    exact live?_modify hchild rfl rfl
  · rw [hlog.live?, live?_modify_of_ne hchild rfl hne]
    obtain ⟨q, hq, hfree⟩ := free_of_allocateAs hk hmade
    obtain ⟨hrec, hid, -⟩ := live?_eq_some_iff.1 hchild
    by_cases hslot : child.slot = other.slot
    · exact (live?_eq_none_of_id (hslot ▸ hrec) (hid ▸ hne.symm)).trans (live?_eq_none (hslot ▸ hq)
        fun hlive => ProcessStatus.ne_free_of_isLive hlive hfree).symm
    · obtain ⟨_, rest, s', machine, -, -, -, -, -, rfl⟩ := allocateAs_takes hk hmade
      refine live?_congr ?_
      change (k.table.modify child.slot _).records[other.slot]? = _
      rw [ProcessTable.getElem?_modify, if_neg hslot]

/-! ### Processes with other registers -/

/-- A process has other registers in `k'`, and everybody else is as in `k`. -/
lemma Saved.live?_of_ne (h : k.Saved id f k') (hp : k.live? id = some p) (hne : other ≠ id) :
    k'.live? other = k.live? other :=
  (Renews.of_saved h).live? hp hne

/-- A call that changes the record of one process changes it for all to see. -/
lemma Served.live?_modify {g : Process → Process} (h : k.Served cpu id f c k₁ result k₂ k')
    (hp : k.live? id = some p) (hq : k₁.live? target = some q) (heq : k₂ = k₁.modify target g)
    (hid : ∀ q, (g q).id = q.id) (hlive : (g q).status.isLive) :
    (target ≠ id → k.live? target = some q ∧ k'.live? target = some (g q)) ∧
      ∀ other, other ≠ id → other ≠ target → k'.live? other = k.live? other := by
  have hp₁ := h.saved.live? hp
  have hp₂ : ∃ p₂, k₂.live? id = some p₂ := by
    rw [heq]
    by_cases hself : id = target
    · subst hself
      exact ⟨_, Kernel.live?_modify hq (hid q) hlive⟩
    · exact ⟨_, (live?_modify_of_ne hq (hid q) hself).trans hp₁⟩
  obtain ⟨p₂, hp₂⟩ := hp₂
  refine ⟨fun hne => ⟨(h.saved.live?_of_ne hp hne).symm.trans hq, ?_⟩, fun other hne hother => ?_⟩
  · rw [h.answered.live?_of_ne hp₂ hne, heq]
    exact Kernel.live?_modify hq (hid q) hlive
  · rw [h.answered.live?_of_ne hp₂ hne, heq, live?_modify_of_ne hq (hid q) hother,
      h.saved.live?_of_ne hp hne]

end Kernel

namespace UserContext

open Bench Kernel Program

variable {config : Config} {frames cpu s s' : Nat} {id child : ProcessId} {u u' : UserContext}
  {f : TrapFrame} {va srcVa : VirtAddr} {perm : Perm} {e : Mapping}
  {todo : List (VirtAddr × Perm)}

namespace Active

/-! ### Requests -/

/-- **A page that is shown elsewhere.** -/
lemma pageMap (h : u.Active config frames cpu id s f) {dst : ProcessId}
    (hexec : (Program.pageMap .self srcVa dst va perm : Program UserContext Unit).exec u =
      (.ok (), u')) :
    ∃ f' e t, u'.Active config frames cpu id s f' ∧ Renews id u.bed.kernel u'.bed.kernel ∧
      u.bed.kernel.machine.mapping? s srcVa.page = some e ∧
      u.bed.kernel.spaceOf? (named id dst) = some t ∧
      u.bed.kernel.machine.Puts t va.page ⟨e.frame, perm ||| .present⟩ u'.bed.kernel.machine := by
  obtain ⟨k₁, v, k₂, hserved, hactive⟩ := h.request_ok rfl pageMap_leavesTable.persists hexec
  obtain ⟨s₁, e, hs₁, he, hput⟩ := executed_pageMap hserved.executed
  obtain rfl : s₁ = s := Option.some.inj ((hserved.saved.spaceOf? hs₁).symm.trans h.space)
  obtain ⟨t, ht, hput⟩ := hserved.puts hput
  rw [Machine.mapping?, Machine.space?, hserved.saved.memory.2.1] at he
  exact ⟨_, e, t, hactive, hserved.renews pageMap_leavesTable, he, ht, hput⟩

/-- **A fresh page** shows a frame of zeros that was shown nowhere. -/
lemma pageAlloc (h : u.Active config frames cpu id s f) {target : ProcessId}
    (hexec : (Program.pageAlloc target va perm : Program UserContext Unit).exec u =
      (.ok (), u')) :
    ∃ f' n t, u'.Active config frames cpu id s f' ∧ (∀ c, callFrame f' c = callFrame f c) ∧
      Renews id u.bed.kernel u'.bed.kernel ∧ n ∉ u.bed.kernel.machine.shownFrames ∧
      u.bed.kernel.spaceOf? (named id target) = some t ∧
      u.bed.kernel.machine.Puts t va.page ⟨n, perm ||| .present⟩ u'.bed.kernel.machine ∧
      ∀ i < pageSize, u'.bed.kernel.machine.frames.byte? n i = some 0 := by
  obtain ⟨k₁, v, k₂, hserved, hactive⟩ := h.request_ok rfl pageAlloc_leavesTable.persists hexec
  obtain ⟨n, hfresh, hput⟩ := executed_pageAlloc hserved.sound hserved.executed
  have hzero : ∀ i < pageSize, u'.bed.kernel.machine.frames.byte? n i = some 0 := fun i hi => by
    obtain ⟨t, m, ht, hm, heq⟩ := hput
    rw [hserved.answered.memory.1]
    refine executed_pageAlloc_zero (e := ⟨n, perm ||| .present⟩) hserved.sound hserved.executed ht
      ?_ hi
    rw [heq]
    exact (hm.mapping t va.page).trans (if_pos ⟨rfl, rfl⟩)
  obtain ⟨t, ht, hput⟩ := hserved.puts hput
  refine ⟨_, n, t, hactive, callFrame_answeredFrame, hserved.renews pageAlloc_leavesTable,
    fun hmem => ?_, ht, hput, hzero⟩
  obtain ⟨t', page, e, he, rfl⟩ := Machine.mem_shownFrames_iff.1 hmem
  rw [hserved.saved.memory.1, h.sound.accounted.isSome_of_mapping? he] at hfresh
  cases hfresh

/-- **A fault handler that is set**, of the process itself or of another one. -/
lemma setFaultHandler (h : u.Active config frames cpu id s f) {target : ProcessId}
    {entry : VirtAddr}
    (hexec : (Program.setFaultHandler target entry : Program UserContext Unit).exec u =
      (.ok (), u')) :
    ∃ f', u'.Active config frames cpu id s f' ∧ (∀ c, callFrame f' c = callFrame f c) ∧
      u'.bed.kernel.machine.frames = u.bed.kernel.machine.frames ∧
      u'.bed.kernel.machine.spaces = u.bed.kernel.machine.spaces ∧
      (named id target ≠ id → ∃ q, u.bed.kernel.live? (named id target) = some q ∧
        u'.bed.kernel.live? (named id target) = some { q with faultHandler := some entry }) ∧
      ∀ other, other ≠ id → other ≠ named id target →
        u'.bed.kernel.live? other = u.bed.kernel.live? other := by
  obtain ⟨p, hp⟩ := h.live
  obtain ⟨k₁, v, k₂, hserved, hactive⟩ := h.request_ok rfl persists_setFaultHandler hexec
  obtain ⟨q, hq, heq⟩ := executed_setFaultHandler_ok hserved.executed
  obtain ⟨hself, hothers⟩ := hserved.live?_modify hp hq heq (fun _ => rfl)
    (live?_eq_some_iff.1 hq).2.2
  obtain ⟨hframes, hspaces, -⟩ := hserved.saved.memory
  obtain ⟨hframes', hspaces', -⟩ := hserved.answered.memory
  rw [heq] at hframes' hspaces'
  exact ⟨_, hactive, callFrame_answeredFrame, hframes'.trans hframes, hspaces'.trans hspaces,
    fun hne => ⟨q, hself hne⟩, hothers⟩

/-- **The status of another process that is set.** -/
lemma setStatus (h : u.Active config frames cpu id s f) {target : ProcessId}
    {status : ProcessStatus} (hne : named id target ≠ id)
    (hexec : (Program.setStatus target status : Program UserContext Unit).exec u = (.ok (), u')) :
    ∃ f' q, u'.Active config frames cpu id s f' ∧
      u'.bed.kernel.machine.frames = u.bed.kernel.machine.frames ∧
      u'.bed.kernel.machine.spaces = u.bed.kernel.machine.spaces ∧
      u.bed.kernel.live? (named id target) = some q ∧
      u'.bed.kernel.live? (named id target) = some (withStatus q status) ∧
      ∀ other, other ≠ id → other ≠ named id target →
        u'.bed.kernel.live? other = u.bed.kernel.live? other := by
  obtain ⟨p, hp⟩ := h.live
  have hdecode : Syscall.decode (Syscall.setStatus target status).encode =
      .ok (.setStatus target status) := by
    cases status <;> rfl
  obtain ⟨k₁, v, k₂, hserved, hactive⟩ := h.request_ok hdecode (persists_setStatus hne) hexec
  obtain ⟨q, hq, hstatus, heq⟩ := executed_setStatus_ok hserved.executed
  have hedit : ∀ r : Process, (withStatus r status).id = r.id := fun r => by
    rw [withStatus]
    split
    · rfl
    · split <;> rfl
  obtain ⟨hself, hothers⟩ := hserved.live?_modify hp hq heq hedit
    (edit_withStatus (live?_eq_some_iff.1 hq).2.2 hstatus).live
  obtain ⟨hframes, hspaces, -⟩ := hserved.saved.memory
  obtain ⟨hframes', hspaces', -⟩ := hserved.answered.memory
  rw [heq] at hframes' hspaces'
  exact ⟨_, q, hactive, hframes'.trans hframes, hspaces'.trans hspaces, (hself hne).1,
    (hself hne).2, hothers⟩

/-- **A child that is made** has the registers of the call, and the next address space, which shows
nothing. -/
lemma exofork (h : u.Active config frames cpu id s f)
    (hexec : (Program.exofork : Program UserContext Fork).exec u = (.ok (.parent child), u')) :
    ∃ f' t, t = u.bed.kernel.machine.spaces.nextId.toNat ∧
      u'.Active config frames cpu id s f' ∧ child.isSelf = false ∧ child ≠ id ∧
      u.bed.kernel.live? child = none ∧ u'.bed.kernel.live? child = some
        { id := child, parent := id, status := .notRunnable, space := some t,
          frame := (callFrame f .exofork).withResult 0 } ∧
      (∀ other, other ≠ id → other ≠ child →
        u'.bed.kernel.live? other = u.bed.kernel.live? other) ∧
      (∀ t' page, u'.bed.kernel.machine.mapping? t' page =
        if t = t' then none else u.bed.kernel.machine.mapping? t' page) ∧
      ∀ n, u'.bed.kernel.machine.frames.contents? n = u.bed.kernel.machine.frames.contents? n := by
  obtain ⟨p, hp⟩ := h.live
  obtain ⟨answer, htrap, hok, hself⟩ := exec_exofork_ok hexec
  obtain ⟨k₁, result, k₂, u₁, hserved, htrap', hactive⟩ := h.trap rfl persists_exofork
  have hhost : u.trap .exofork = (answer, u') := htrap
  rw [htrap', Prod.mk.injEq] at hhost
  obtain ⟨rfl, rfl⟩ := hhost
  obtain rfl := ok_of_decodeResult hok
  have hp₁ := hserved.saved.live? hp
  have hfork := executed_exofork hserved.executed
  obtain ⟨-, hspaces, hmap, hcont⟩ := exofork_effect hserved.sound hfork
  obtain ⟨hnone, ⟨t, hchild⟩, hothers⟩ := exofork_made hserved.sound hp₁ hfork
  have hne : child ≠ id := fun heq => by
    rw [heq, hp₁] at hnone
    cases hnone
  have hp₂ := (hothers id (Ne.symm hne)).trans hp₁
  have ht : k₂.spaceOf? child = some t := spaceOf?_eq_some_iff.2 ⟨_, hchild, rfl⟩
  have hmapping : ∀ {k k' : Kernel} {f : TrapFrame}, k.Saved id f k' → ∀ t page,
      k'.machine.mapping? t page = k.machine.mapping? t page := fun hsaved =>
    Machine.mapping?_of_spaces hsaved.memory.2.1
  have hnext : t = u.bed.kernel.machine.spaces.nextId.toNat := by
    rw [← hserved.saved.memory.2.1]
    rcases hspaces child t ht with ⟨-, hnext⟩ | hold
    · exact hnext
    · rw [spaceOf?, hnone] at hold
      cases hold
  have hchild' : u₁.bed.kernel.live? child = _ :=
    (hserved.answered.live?_of_ne hp₂ hne).trans hchild
  refine ⟨_, t, hnext, hactive, hself, hne, (hserved.saved.live?_of_ne hp hne).symm.trans hnone,
    hchild', fun other hid hother => ?_, fun t' page => ?_, fun n => ?_⟩
  · rw [hserved.answered.live?_of_ne hp₂ hid, hothers other hother,
      hserved.saved.live?_of_ne hp hid]
  · rw [hmapping hserved.answered, hmap, hmapping hserved.saved, hnext, hserved.saved.memory.2.1]
  · rw [hserved.answered.memory.1, hcont, hserved.saved.memory.1]

/-! ### Pages, one after the other -/

/-- **One page** of the process is shown in the child. -/
lemma duplicate (h : u.Active config frames cpu id s f) (hself : child.isSelf = false)
    (hchild : u.bed.kernel.spaceOf? child = some s') (hne : s ≠ s')
    (he : u.bed.kernel.machine.mapping? s va.page = some e)
    (hnone : u.bed.kernel.machine.mapping? s' va.page = none)
    (hexec : (Program.duplicate child va e.perm : Program UserContext Unit).exec u =
      (.ok (), u')) :
    ∃ f', u'.Active config frames cpu id s f' ∧ Renews id u.bed.kernel u'.bed.kernel ∧
      u.bed.kernel.machine.Doubled s s' (· = va.page) u'.bed.kernel.machine := by
  have hacc := h.sound.accounted
  have hperm := h.reachable.kernel.permitted s va.page e he
  -- the child is shown what the process has, with some permissions
  have hmap : ∀ {given : Perm} {w : UserContext},
      (Program.pageMap .self va child va given : Program UserContext Unit).exec u = (.ok (), w) →
      ∃ f', w.Active config frames cpu id s f' ∧ Renews id u.bed.kernel w.bed.kernel ∧
        u.bed.kernel.machine.Puts s' va.page ⟨e.frame, given ||| .present⟩
          w.bed.kernel.machine := by
    intro given w hexec
    obtain ⟨f', e', t, h', hrenews, he', ht, hput⟩ := h.pageMap hexec
    rw [named_of_not_self hself, hchild, Option.some.injEq] at ht
    rw [he, Option.some.injEq] at he'
    subst ht he'
    exact ⟨f', h', hrenews, hput⟩
  rw [Program.duplicate, Perm.and_requestable hperm] at hexec
  split at hexec
  · next hshare =>
    obtain ⟨f', h', hrenews, hput⟩ := hmap hexec
    have hsame : e.forked = e := by rw [Mapping.forked, if_pos hshare]
    rw [Perm.or_present hperm] at hput
    exact ⟨f', h', hrenews, .of_puts hacc hne he hnone hsame hput⟩
  · next hshare =>
    split at hexec
    · next hmeets =>
      obtain ⟨_, u₁, hfirst, hexec⟩ := exec_bind_ok hexec
      obtain ⟨f₁, h₁, hrenews, hput⟩ := hmap hfirst
      obtain ⟨f', e', t, h', hrenews', he', ht, hput'⟩ := h₁.pageMap hexec
      have hforked : e.forked = ⟨e.frame, readOnlyCopy e.perm⟩ := by
        rw [Mapping.forked, if_neg hshare, if_pos hmeets]
      rw [hput.mapping, if_neg fun hc => hne hc.1.symm, he, Option.some.injEq] at he'
      have hs : s = t := Option.some.inj (h₁.space.symm.trans ht)
      subst he' hs
      rw [Perm.or_present (Perm.isRequestable_readOnlyCopy hperm), ← hforked] at hput hput'
      exact ⟨f', h', hrenews.trans hrenews',
        .of_puts_puts hacc h₁.sound.accounted hne he hnone hput hput'⟩
    · next hmeets =>
      obtain ⟨f', h', hrenews, hput⟩ := hmap hexec
      have hsame : e.forked = e := by rw [Mapping.forked, if_neg hshare, if_neg hmeets]
      rw [Perm.or_present hperm] at hput
      exact ⟨f', h', hrenews, .of_puts hacc hne he hnone hsame hput⟩

/-- **All pages**, one after the other, but for the exception stack. -/
lemma duplicateAll (h : u.Active config frames cpu id s f) (hself : child.isSelf = false)
    (hchild : u.bed.kernel.spaceOf? child = some s') (hne : s ≠ s')
    (hapart : todo.Pairwise fun a b => a.1.page ≠ b.1.page)
    (hlisted : ∀ va perm, (va, perm) ∈ todo →
      (∃ e, u.bed.kernel.machine.mapping? s va.page = some e ∧ e.perm = perm) ∧
        u.bed.kernel.machine.mapping? s' va.page = none ∧ va = .ofNat (va.page * pageSize))
    (hexec : (Program.duplicateAll child todo : Program UserContext Unit).exec u =
      (.ok (), u')) :
    ∃ f', u'.Active config frames cpu id s f' ∧ Renews id u.bed.kernel u'.bed.kernel ∧
      u.bed.kernel.machine.Doubled s s'
        (fun page => page ≠ exceptionPage ∧ ∃ x ∈ todo, x.1.page = page)
        u'.bed.kernel.machine := by
  induction todo generalizing u f with
  | nil =>
    cases hexec
    refine ⟨f, h, .of_table rfl, (Machine.Doubled.refl _ s s').congr fun page => ?_⟩
    exact ⟨False.elim, by rintro ⟨-, x, ⟨⟩, -⟩⟩
  | cons entry todo ih =>
    obtain ⟨va, perm⟩ := entry
    obtain ⟨hfirst, hrest⟩ := List.pairwise_cons.1 hapart
    obtain ⟨⟨e, he, rfl⟩, hnone, hva⟩ := hlisted va perm List.mem_cons_self
    have hlater := fun va perm hmem => hlisted va perm (List.mem_cons_of_mem _ hmem)
    rw [Program.duplicateAll] at hexec
    by_cases hstack : va = exceptionStack
    · rw [if_neg (not_not_intro hstack)] at hexec
      obtain ⟨f', h', hrenews, hdoubled⟩ := ih h hchild hrest hlater hexec
      refine ⟨f', h', hrenews, hdoubled.congr fun page => and_congr_right fun hpage => ?_⟩
      have hne : (va, e.perm).1.page ≠ page := fun heq => by
        subst hstack heq
        exact hpage rfl
      constructor
      · rintro ⟨x, hx, heq⟩
        exact ⟨x, List.mem_cons_of_mem _ hx, heq⟩
      · rintro ⟨x, hx, heq⟩
        exact ⟨x, (List.mem_cons.1 hx).resolve_left fun hxe => hne (hxe ▸ heq), heq⟩
    · rw [if_pos hstack] at hexec
      obtain ⟨_, u₁, hone, hexec⟩ := exec_bind_ok hexec
      obtain ⟨f₁, h₁, hrenews, hdoubled⟩ := h.duplicate hself hchild hne he hnone hone
      obtain ⟨p, hp⟩ := h.live
      obtain ⟨f', h', hrenews', hdoubled'⟩ := ih h₁ ((hrenews.spaceOf? hp child).trans hchild)
        hrest (fun va' perm' hmem => by
          have hpage : ∀ t, ¬ (va'.page = va.page ∧ (t = s ∨ t = s')) :=
            fun t hc => hfirst _ hmem hc.1.symm
          rw [hdoubled.others _ _ (hpage s), hdoubled.others _ _ (hpage s')]
          exact hlater va' perm' hmem) hexec
      refine ⟨f', h', hrenews.trans hrenews', (hdoubled.trans hdoubled' fun page heq hc => ?_).congr
        fun page => ?_⟩
      · obtain ⟨-, x, hx, hxe⟩ := hc
        exact hfirst x hx (heq ▸ hxe).symm
      · constructor
        · rintro (rfl | ⟨hpage, x, hx, heq⟩)
          · refine ⟨fun heq => hstack ?_, (va, e.perm), List.mem_cons_self, rfl⟩
            rw [hva, heq]
            rfl
          · exact ⟨hpage, x, List.mem_cons_of_mem _ hx, heq⟩
        · rintro ⟨hpage, x, hx, heq⟩
          rcases List.mem_cons.1 hx with rfl | hx
          · exact .inl heq.symm
          · exact .inr ⟨hpage, x, hx, heq⟩

end Active

end UserContext

end Exokernel
