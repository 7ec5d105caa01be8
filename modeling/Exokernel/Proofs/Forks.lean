/-
What a fork makes of parent and child.

* `Machine.GivesStack`: an exception stack that is given;
* `Machine.Forked`: **the two address spaces after a fork**, page by page and byte by byte;
* `Active.installHandler`: the exception stack and the handler of the parent;
* `Active.furnish`: what the parent does for its child;
* `Kernel.Forked`: parent and child, and everybody else;
* `fork_duplicates`: **a fork that succeeds duplicates the process that forks**.
-/
import Exokernel.Proofs.Bench.Accesses
import Exokernel.Proofs.Bench.Duplicates

namespace Exokernel

open Layout Kernel

namespace Machine

variable {m m' m₂ : Machine} {s s' page n : Nat} {kept loose : List Nat}

/-! ### Address spaces after a fork -/

/-- **An exception stack is given** to an address space that has none. -/
structure GivesStack (m : Machine) (s : Nat) (m' : Machine) : Prop where
  kept : ∀ e, m.mapping? s exceptionPage = some e → m'.mapping? s exceptionPage = some e
  given : m.mapping? s exceptionPage = none → m'.FreshPage s exceptionPage
  others : ∀ t page, ¬ (t = s ∧ page = exceptionPage) → m'.mapping? t page = m.mapping? t page
  preserves : m.Preserves m'

namespace GivesStack

lemma of_puts (hput : m.Puts s exceptionPage ⟨n, .userWrite⟩ m') (hacc : m.Accounted kept loose)
    (hnone : m.mapping? s exceptionPage = none) (hfresh : n ∉ m.shownFrames)
    (hzero : ∀ i < pageSize, m'.frames.byte? n i = some 0) : m.GivesStack s m' where
  kept e he := by
    rw [hnone] at he
    cases he
  given _ := .of_puts hput hfresh hzero
  others t page hother := by
    rw [hput.mapping, if_neg fun hc => hother ⟨hc.1.symm, hc.2.symm⟩]
  preserves := .of_puts hput hacc fun e he => by
    rw [hnone] at he
    cases he

/-- An address space that has an exception stack keeps it. -/
lemma of_isSome (h : (m.mapping? s exceptionPage).isSome) : m.GivesStack s m where
  kept _ he := he
  given hnone := by
    rw [hnone] at h
    cases h
  others _ _ _ := rfl
  preserves := .refl m

lemma congr (h : m.GivesStack s m') (hmap : ∀ t q, m₂.mapping? t q = m'.mapping? t q)
    (hcont : ∀ n, m₂.frames.contents? n = m'.frames.contents? n) : m.GivesStack s m₂ :=
  ⟨fun e he => (hmap _ _).trans (h.kept e he), fun hnone => (h.given hnone).congr hmap hcont,
    fun t page hother => (hmap t page).trans (h.others t page hother),
    h.preserves.trans (.of_same hmap hcont)⟩

end GivesStack

/-- **The two address spaces after a fork**, of the parent `s` and the child `s'`. Both show the
same on all pages but the exception stack, which is the child's own. All bytes are as they were. -/
structure Forked (m : Machine) (s s' : Nat) (m' : Machine) : Prop where
  parent : ∀ page, page ≠ exceptionPage → m'.mapping? s page = (m.mapping? s page).map .forked
  child : ∀ page, page ≠ exceptionPage → m'.mapping? s' page = (m.mapping? s page).map .forked
  parentBytes : ∀ a, a / pageSize ≠ exceptionPage → m'.byte? s a = m.byte? s a
  childBytes : ∀ a, a / pageSize ≠ exceptionPage → m'.byte? s' a = m.byte? s a
  stack : ∀ e, m.mapping? s exceptionPage = some e → m'.mapping? s exceptionPage = some e ∧
    ∀ a, a / pageSize = exceptionPage → m'.byte? s a = m.byte? s a
  given : m.mapping? s exceptionPage = none → m'.FreshPage s exceptionPage
  childStack : m'.FreshPage s' exceptionPage
  others : ∀ t, t ≠ s → t ≠ s' → ∀ page, m'.mapping? t page = m.mapping? t page
  othersBytes : ∀ t, t ≠ s → t ≠ s' → ∀ a, m'.byte? t a = m.byte? t a

namespace Forked

/-- Address spaces after a fork are so by what is shown and held. -/
lemma congr (h : m.Forked s s' m') (hmap : ∀ t q, m₂.mapping? t q = m'.mapping? t q)
    (hcont : ∀ n, m₂.frames.contents? n = m'.frames.contents? n) : m.Forked s s' m₂ := by
  have hbyte : ∀ t a, m₂.byte? t a = m'.byte? t a := fun t a =>
    (Preserves.of_same hmap hcont).byte?_eq (congrArg (Option.map (·.frame)) (hmap t _))
  refine ⟨fun page hpage => ?_, fun page hpage => ?_, fun a ha => ?_, fun a ha => ?_,
    fun e he => ?_, fun hnone => (h.given hnone).congr hmap hcont, h.childStack.congr hmap hcont,
    fun t ht ht' page => ?_, fun t ht ht' a => ?_⟩
  · rw [hmap, h.parent page hpage]
  · rw [hmap, h.child page hpage]
  · rw [hbyte, h.parentBytes a ha]
  · rw [hbyte, h.childBytes a ha]
  · refine ⟨(hmap _ _).trans (h.stack e he).1, fun a ha => ?_⟩
    rw [hbyte, (h.stack e he).2 a ha]
  · rw [hmap, h.others t ht ht' page]
  · rw [hbyte, h.othersBytes t ht ht' a]

/-- **The steps of a fork**: an exception stack for the parent, a child that shows nothing, all
pages of the parent in the child, and an exception stack for the child. -/
lemma of_steps {m₁ m₂ m₃ : Machine} (hne : s ≠ s') (hstack : m.GivesStack s m₁)
    (hblank : ∀ page, m.mapping? s' page = none)
    (hall : m₁.Doubled s s' (fun page => page ≠ exceptionPage) m₂)
    (hacc : m₂.Accounted kept loose) (hput : m₂.Puts s' exceptionPage ⟨n, .userWrite⟩ m₃)
    (hfresh : n ∉ m₂.shownFrames)
    (hzero : ∀ i < pageSize, m₃.frames.byte? n i = some 0) : m.Forked s s' m₃ := by
  have hown : ∀ page, ¬ (s' = s ∧ page = exceptionPage) := fun _ hc => hne hc.1.symm
  have hnone : m₂.mapping? s' exceptionPage = none := by
    rw [hall.others s' exceptionPage fun hc => hc.1 rfl, hstack.others s' exceptionPage (hown _),
      hblank]
  have hpres : m₂.Preserves m₃ := .of_puts hput hacc fun e₀ he₀ => by
    rw [hnone] at he₀
    cases he₀
  have hall' : m.Preserves m₃ := (hstack.preserves.trans hall.preserves).trans hpres
  have hparent : ∀ page, page ≠ exceptionPage →
      m₃.mapping? s page = (m.mapping? s page).map .forked := fun page hpage => by
    rw [hput.mapping, if_neg fun hc => hne hc.1.symm, hall.parent page hpage,
      hstack.others s page fun hc => hpage hc.2]
  have hchild : ∀ page, page ≠ exceptionPage →
      m₃.mapping? s' page = (m.mapping? s page).map .forked := fun page hpage => by
    rw [hput.mapping, if_neg fun hc => hpage hc.2.symm, hall.child page hpage,
      hstack.others s page fun hc => hpage hc.2]
  have hothers : ∀ t, t ≠ s → t ≠ s' → ∀ page, m₃.mapping? t page = m.mapping? t page :=
    fun t ht ht' page => by
      rw [hput.mapping, if_neg fun hc => ht' hc.1.symm,
        hall.others t page fun hc => hc.2.elim ht ht', hstack.others t page fun hc => ht hc.1]
  have hframes : ∀ e : Option Mapping, (e.map Mapping.forked).map (·.frame) = e.map (·.frame) := by
    intro e
    cases e with
    | none => rfl
    | some e => exact congrArg some e.frame_forked
  have hkept : ∀ e, m.mapping? s exceptionPage = some e →
      m₃.mapping? s exceptionPage = some e := fun e he => by
    rw [hput.mapping, if_neg fun hc => hne hc.1.symm, hall.others s _ fun hc => hc.1 rfl]
    exact hstack.kept e he
  refine ⟨hparent, hchild, fun a ha => hall'.byte?_eq ?_, fun a ha => hall'.byte?_eq ?_,
    fun e he => ⟨hkept e he, fun a ha => hall'.byte?_eq ?_⟩, fun hgiven => ?_,
    .of_puts hput hfresh hzero, hothers, fun t ht ht' a => hall'.byte?_eq ?_⟩
  · rw [hparent _ ha, hframes]
  · rw [hchild _ ha, hframes]
  · rw [ha, hkept e he, he]
  · exact ((hstack.given hgiven).doubled hall fun hc => hc rfl).puts hput hpres hfresh hnone
  · rw [hothers t ht ht']

end Forked

end Machine

namespace UserContext

open Bench Program

variable {config : Config} {frames cpu s s' : Nat} {id child : ProcessId} {u u' : UserContext}
  {f : TrapFrame}

namespace Active

/-- A process shows nothing where it has no permissions. -/
lemma perm?_isNone (h : u.Active config frames cpu id s f) :
    (Host.perm? u exceptionStack).isNone =
      (u.bed.kernel.machine.mapping? s exceptionPage).isNone := by
  change (u.perm? exceptionStack).isNone = _
  rw [perm?, h.placed.space?, Option.bind_some, Option.isNone_map]
  rfl

/-- **The exception stack and the handler** of a process that is about to fork. -/
lemma installHandler (h : u.Active config frames cpu id s f)
    (hexec : (Program.installHandler : Program UserContext Unit).exec u = (.ok (), u')) :
    ∃ f', u'.Active config frames cpu id s f' ∧ (∀ c, callFrame f' c = callFrame f c) ∧
      (∀ other, other ≠ id → u'.bed.kernel.live? other = u.bed.kernel.live? other) ∧
      u.bed.kernel.machine.GivesStack s u'.bed.kernel.machine := by
  obtain ⟨p, hp⟩ := h.live
  obtain ⟨hnone, hexec⟩ | ⟨hsome, hexec⟩ := exec_installHandler_cases hexec
  · rw [h.perm?_isNone, Option.isNone_iff_eq_none] at hnone
    obtain ⟨_, u₁, halloc, hexec⟩ := exec_bind_ok hexec
    obtain ⟨f₁, n, t, h₁, hcall₁, hrenews, hfresh, ht, hput, hzero⟩ := h.pageAlloc halloc
    obtain ⟨f₂, h₂, hcall₂, hframes, hspaces, -, hothers⟩ := h₁.setFaultHandler hexec
    obtain rfl : s = t := Option.some.inj (h.space.symm.trans ht)
    have hsame := Machine.same_of_eq hframes hspaces
    refine ⟨f₂, h₂, fun c => (hcall₂ c).trans (hcall₁ c), fun other hne => ?_,
      (Machine.GivesStack.of_puts hput h.sound.accounted hnone hfresh hzero).congr hsame.1 hsame.2⟩
    rw [hothers other hne hne, hrenews.live? hp hne]
  · rw [h.perm?_isNone, Option.isNone_iff_eq_none] at hsome
    obtain ⟨f₁, h₁, hcall, hframes, hspaces, -, hothers⟩ := h.setFaultHandler hexec
    have hsame := Machine.same_of_eq hframes hspaces
    exact ⟨f₁, h₁, hcall, fun other hne => hothers other hne hne,
      (Machine.GivesStack.of_isSome (Option.isSome_iff_ne_none.2 hsome)).congr hsame.1 hsame.2⟩

/-- It makes no address space, whether it succeeds or not. -/
lemma installHandler_makesNoSpace (h : u.Active config frames cpu id s f)
    {r : Except LibError Unit}
    (hexec : (Program.installHandler : Program UserContext Unit).exec u = (r, u')) :
    u.bed.kernel.MakesNoSpace u'.bed.kernel := by
  have hhandler : ∀ {w : UserContext} {g : TrapFrame}, w.Active config frames cpu id s g →
      (Program.setFaultHandler .self (.ofNat Bench.handlerEntry) :
        Program UserContext Unit).exec w = (r, u') →
      w.bed.kernel.MakesNoSpace u'.bed.kernel :=
    fun hw => hw.request_makesNoSpace rfl persists_setFaultHandler (by rintro ⟨⟩)
  obtain ⟨-, hexec⟩ | ⟨-, hexec⟩ := exec_installHandler_cases hexec
  · obtain ⟨r₁, u₁, halloc, hcases⟩ := exec_bind_cases hexec
    have hmade := h.request_makesNoSpace rfl pageAlloc_leavesTable.persists (by rintro ⟨⟩) halloc
    rcases hcases with ⟨e, -, -, rfl⟩ | ⟨_, rfl, hexec⟩
    · exact hmade
    · obtain ⟨k₁, v, k₂, -, hactive⟩ :=
        h.request_ok rfl pageAlloc_leavesTable.persists halloc
      exact hmade.trans (hhandler hactive hexec)
  · exact hhandler h hexec

/-- A process that installs its handler runs user code. -/
lemma begin (hreach : u.bed.Reachable config frames)
    (hrunning : u.bed.Running u.cpu u.process f)
    (hexec : (Program.installHandler : Program UserContext Unit).exec u = (.ok (), u')) :
    ∃ s, u.Active config frames u.cpu u.process s f := by
  obtain ⟨g, p, hp, -⟩ := hrunning.runs
  obtain ⟨s, hs⟩ := spaceOf?_of_live? hreach.sound hp
  refine ⟨s, hreach, rfl, rfl, hrunning, ?_, hs⟩
  rw [← Bool.not_eq_false]
  intro huser
  obtain ⟨-, hexec⟩ | ⟨-, hexec⟩ := exec_installHandler_cases hexec
  · obtain ⟨_, u₁, halloc, -⟩ := exec_bind_ok hexec
    exact (request_stuck hreach hrunning.occupant huser halloc).1 rfl
  · exact (request_stuck hreach hrunning.occupant huser hexec).1 rfl

/-- **All pages of the parent** are shown in a child that shows nothing yet. -/
lemma duplicatePages (h : u.Active config frames cpu id s f) (hself : child.isSelf = false)
    (hchild : u.bed.kernel.spaceOf? child = some s') (hne : s ≠ s')
    (hblank : ∀ page, u.bed.kernel.machine.mapping? s' page = none)
    (hexec : (Program.duplicateAll child u.pages : Program UserContext Unit).exec u =
      (.ok (), u')) :
    ∃ f', u'.Active config frames cpu id s f' ∧ Renews id u.bed.kernel u'.bed.kernel ∧
      u.bed.kernel.machine.Doubled s s' (fun page => page ≠ exceptionPage)
        u'.bed.kernel.machine := by
  obtain ⟨f', h', hrenews, hdoubled⟩ := h.duplicateAll hself hchild hne h.placed.pages_apart
    (fun va perm hmem => by
      obtain ⟨he, hva⟩ := h.placed.mem_pages_iff.1 hmem
      exact ⟨he, hblank _, hva⟩) hexec
  refine ⟨f', h', hrenews, hdoubled.widen (fun _ hP => hP.1) fun page hpage hP => ⟨?_, hblank _⟩⟩
  -- a page that shows something is on the list
  rw [Option.eq_none_iff_forall_ne_some]
  intro e he
  have hplace := VirtAddr.page_ofNat_mul (h.sound.accounted.below s page e he)
  refine hP ⟨hpage, (.ofNat (page * pageSize), e.perm), h.placed.mem_pages_iff.2 ?_, hplace⟩
  rw [hplace]
  exact ⟨⟨e, he, rfl⟩, rfl⟩

/-- **A child that shows nothing yet is furnished** with all pages of its parent, an exception stack
of its own and the handler, and may run then. -/
lemma furnish (h : u.Active config frames cpu id s f) {p : Process} {side : Fork}
    (hself : child.isSelf = false) (hne : child ≠ id) (hmade : u.bed.kernel.live? child = some p)
    (hspace : p.space = some s') (hspaces : s ≠ s')
    (hblank : ∀ page, u.bed.kernel.machine.mapping? s' page = none)
    (hexec : (do
      Program.duplicateAll child (← Program.pages)
      Program.pageAlloc child exceptionStack .userWrite
      Program.setFaultHandler child (← Program.handlerEntry)
      Program.setStatus child .runnable
      return Fork.parent child : Program UserContext Fork).exec u = (.ok side, u')) :
    ∃ f' m₁ m₂ n kept, side = .parent child ∧ u'.Active config frames cpu id s f' ∧
      u'.bed.kernel.live? child =
        some (withStatus { p with faultHandler := some (.ofNat Bench.handlerEntry) } .runnable) ∧
      (∀ other, other ≠ id → other ≠ child →
        u'.bed.kernel.live? other = u.bed.kernel.live? other) ∧
      u.bed.kernel.machine.Doubled s s' (fun page => page ≠ exceptionPage) m₁ ∧
      m₁.Accounted kept [] ∧ n ∉ m₁.shownFrames ∧ m₁.Puts s' exceptionPage ⟨n, .userWrite⟩ m₂ ∧
      (∀ i < pageSize, m₂.frames.byte? n i = some 0) ∧
      (∀ t q, u'.bed.kernel.machine.mapping? t q = m₂.mapping? t q) ∧
      ∀ n, u'.bed.kernel.machine.frames.contents? n = m₂.frames.contents? n := by
  have hnamed : named id child = child := named_of_not_self hself
  -- the memory of the child
  obtain ⟨todo, u₁, hpages, hexec⟩ := exec_bind_ok hexec
  cases hpages
  obtain ⟨_, u₁, hall, hexec⟩ := exec_bind_ok hexec
  have hchild : u.bed.kernel.spaceOf? child = some s' := spaceOf?_eq_some_iff.2 ⟨p, hmade, hspace⟩
  obtain ⟨f₁, h₁, hrenews₁, hdoubled⟩ := h.duplicatePages hself hchild hspaces hblank hall
  obtain ⟨_, u₂, halloc, hexec⟩ := exec_bind_ok hexec
  obtain ⟨f₂, n, t, h₂, -, hrenews₂, hfresh, ht, hput, hzero⟩ := h₁.pageAlloc halloc
  -- its handler, and its status
  obtain ⟨entry, u₃, hentry, hexec⟩ := exec_bind_ok hexec
  cases hentry
  obtain ⟨_, u₃, hhandler, hexec⟩ := exec_bind_ok hexec
  obtain ⟨f₃, h₃, -, hframes₃, hspaces₃, hset, hothers₃⟩ := h₂.setFaultHandler hhandler
  obtain ⟨_, u₄, hstatus, hexec⟩ := exec_bind_ok hexec
  cases hexec
  obtain ⟨f₄, q, h₄, hframes₄, hspaces₄, hq, hq', hothers₄⟩ :=
    h₃.setStatus (hnamed.symm ▸ hne) hstatus
  rw [hnamed] at ht hset hothers₃ hq hq' hothers₄
  obtain ⟨r, hr⟩ := h.live
  obtain ⟨r₁, hr₁⟩ := h₁.live
  obtain rfl : s' = t := Option.some.inj
    (((hrenews₁.spaceOf? hr child).trans hchild).symm.trans ht)
  have hsame := Machine.same_of_eq (hframes₄.trans hframes₃) (hspaces₄.trans hspaces₃)
  refine ⟨f₄, _, _, n, _, rfl, h₄, ?_, fun other hid hother => ?_, hdoubled, h₁.sound.accounted,
    hfresh, hput, hzero, hsame.1, hsame.2⟩
  · obtain ⟨q₂, hq₂, hq₃⟩ := hset hne
    rw [hrenews₂.live? hr₁ hne, hrenews₁.live? hr hne, hmade, Option.some.injEq] at hq₂
    rw [hq₃, Option.some.injEq] at hq
    rw [hq', ← hq, ← hq₂]
    rfl
  · rw [hothers₄ other hid hother, hothers₃ other hid hother, hrenews₂.live? hr₁ hid,
      hrenews₁.live? hr hid]

end Active

end UserContext

/-- **A fork of process `id`**, which runs with the registers `f` and has address space `s`. The
child is fresh, held by nobody and ready to run, with the registers of the call. Nobody else
changes. -/
structure Kernel.Forked (k : Kernel) (id child : ProcessId) (s : Nat) (f : TrapFrame)
    (k' : Kernel) : Prop where
  fresh : k.live? child = none
  made : ∃ s', k'.live? child = some
      { id := child, parent := id, status := .runnable, resident := none, space := some s',
        frame := (callFrame f .exofork).withResult 0,
        faultHandler := some (.ofNat Bench.handlerEntry) } ∧
    k.machine.Forked s s' k'.machine
  space : k'.spaceOf? id = some s
  others : ∀ other, other ≠ id → other ≠ child → k'.live? other = k.live? other ∧
    ∀ t, k.spaceOf? other = some t →
      (∀ page, k'.machine.mapping? t page = k.machine.mapping? t page) ∧
      ∀ a, k'.machine.byte? t a = k.machine.byte? t a

open UserContext Program in
/-- **A fork duplicates the process that forks**, as long as the numbers of address spaces have not
come round. -/
theorem fork_duplicates {config : Config} {frames cpu : Nat} {t : Bench} {u' : UserContext}
    {id child : ProcessId} {f : TrapFrame} (hbench : t.Reachable config frames)
    (hearly : Early config frames t.kernel) (hrunning : t.Running cpu id f)
    (hfork : (Program.fork : Program UserContext Fork).exec ⟨t, cpu, id⟩ =
      (.ok (.parent child), u')) :
    ∃ s, t.kernel.spaceOf? id = some s ∧ t.kernel.Forked id child s f u'.bed.kernel := by
  obtain ⟨_, u₁, hinstall, hexec⟩ := exec_bind_ok hfork
  obtain ⟨s, h⟩ := Active.begin hbench hrunning hinstall
  obtain ⟨f₁, h₁, hcall, hothers₁, hstack⟩ := h.installHandler hinstall
  have hnext := (h.installHandler_makesNoSpace hinstall).next
  have hsep := hearly.separate
  obtain ⟨side, u₂, hmake, hexec⟩ := exec_bind_ok hexec
  cases side with
  | child => cases hexec
  | parent child' =>
    obtain ⟨f₂, s', hs', h₂, hself, hne, hfresh, hmade, hothers₂, hmap, hcont⟩ := h₁.exofork hmake
    -- the number of the child's address space was free
    have hfree : t.kernel.machine.space? s' = none := by
      rw [hs', hnext]
      exact hsep.free rfl
    have hapart : ∀ {other r}, t.kernel.spaceOf? other = some r → r ≠ s' := by
      rintro other r hr rfl
      have hthere := hsep.isSome_space? hr
      rw [hfree] at hthere
      cases hthere
    have hspaces : s ≠ s' := hapart h.space
    have hblank₀ : ∀ page, t.kernel.machine.mapping? s' page = none := fun page => by
      rw [Machine.mapping?, hfree]
      rfl
    have hblank : ∀ page, u₂.bed.kernel.machine.mapping? s' page = none := fun page => by
      rw [hmap, if_pos rfl]
    have hmap : ∀ r page, u₂.bed.kernel.machine.mapping? r page =
        u₁.bed.kernel.machine.mapping? r page := fun r page => by
      by_cases hr : s' = r
      · rw [← hr, hblank, hstack.others s' page fun hc => hspaces hc.1.symm, hblank₀]
      · rw [hmap, if_neg hr]
    obtain ⟨f₃, m₁, m₂, n, kept, hside, h₃, hchild, hothers₃, hdoubled, hacc, hn, hput, hzero,
      hsame⟩ := h₂.furnish hself hne hmade rfl hspaces hblank hexec
    cases hside
    rw [hcall] at hchild
    -- the memory of both
    have hmemory : t.kernel.machine.Forked s s' u'.bed.kernel.machine :=
      (Machine.Forked.of_steps hspaces (hstack.congr hmap hcont) hblank₀ hdoubled hacc hput hn
        hzero).congr hsame.1 hsame.2
    refine ⟨s, h.space, (hothers₁ child hne).symm.trans hfresh, ⟨s', hchild, hmemory⟩, h₃.space,
      fun other hid hother => ?_⟩
    have hlive : u'.bed.kernel.live? other = t.kernel.live? other := by
      rw [hothers₃ other hid hother, hothers₂ other hid hother, hothers₁ other hid]
    refine ⟨hlive, fun r hr => ?_⟩
    have hrs : r ≠ s := fun heq => hid (hsep.spaceOf?_inj (heq ▸ hr) h.space)
    exact ⟨hmemory.others r hrs (hapart hr), hmemory.othersBytes r hrs (hapart hr)⟩

/-- A program with one page of data forks. -/
theorem fork_duplicates_data : ∃ (t : Bench) (u' : UserContext) (f : TrapFrame) (s : Nat),
    t.Reachable { maxProcesses := 2 } 24 ∧ Early { maxProcesses := 2 } 24 t.kernel ∧
      t.Running 0 (ProcessId.self.next 0) f ∧
      (Program.fork : Program UserContext Fork).exec ⟨t, 0, ProcessId.self.next 0⟩ =
        (.ok (.parent (ProcessId.self.next 1)), u') ∧
      t.kernel.spaceOf? (ProcessId.self.next 0) = some s ∧
      t.kernel.Forked (ProcessId.self.next 0) (ProcessId.self.next 1) s f u'.bed.kernel := by
  have hboot : Booted { maxProcesses := 2 } 24 _ := ⟨_, [0], rfl, .refl _, rfl⟩
  have hspawn := hboot.history.snoc
    (.spawn ⟨.ofNat textBase, [.readWrite (.ofNat textBase) [7] 1]⟩) trivial
  have hstart := Bench.Reachable.begin (hspawn.reachable hboot.reachable)
  have hearly := (hspawn.snoc (.schedule 0) rfl).early hboot (by decide)
  obtain ⟨t, hbench, hearly, ⟨f, hrunning⟩, hfork⟩ : ∃ t : Bench,
      t.Reachable { maxProcesses := 2 } 24 ∧ Early { maxProcesses := 2 } 24 t.kernel ∧
      (∃ f, t.Running 0 (ProcessId.self.next 0) f) ∧
      (Program.fork.exec (⟨t, 0, ProcessId.self.next 0⟩ : UserContext)).1 =
        .ok (.parent (ProcessId.self.next 1)) :=
    ⟨_, hstart.schedule 0 rfl, Bench.kernel_enter ▸ hearly,
      hstart.running_schedule rfl (by decide +kernel), by decide +kernel⟩
  have hforked : Program.fork.exec (⟨t, 0, ProcessId.self.next 0⟩ : UserContext) =
    (.ok (.parent (ProcessId.self.next 1)), _) := Prod.ext hfork rfl
  obtain ⟨s, hs, hall⟩ := fork_duplicates hbench hearly hrunning hforked
  exact ⟨t, _, f, s, hbench, hearly, hrunning, hforked, hs, hall⟩

end Exokernel
