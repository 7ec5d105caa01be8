/-
Rounds of an access: the machine refuses it, the kernel tells the process, and the handler mends the
fault, or the access comes to nothing. Nothing is known of where the access goes.

* `Process.Tellable.handles`: a process that can be told of its faults, if its handler is the one
  that makes copies;
* `Machine.Opened`: **a page that has been opened** by the handler. One page less of the range is
  `Machine.isSealed` then;
* `Active.opened`: a handler that succeeds has opened the page of the fault;
* `Active.round`: **one round**: the handler fails, or the process goes on where it was;
* `Active.gaveUp`: **an access that is given up** has had a page opened for every attempt.
-/
import Exokernel.Proofs.PageFaults
import Exokernel.Proofs.Repairs

namespace Exokernel

open Layout

/-! ### What the handler makes of the pages -/

namespace Machine

variable {m m' : Machine} {s page len q : Nat} {va : VirtAddr}

/-- **A page that has been opened**: it shows a frame that can be written. Nothing is at the scratch
page, and all other pages show what they showed. -/
structure Opened (m : Machine) (s page : Nat) (m' : Machine) : Prop where
  own : page ≠ scratchNumber → ∃ n, m'.mapping? s page = some ⟨n, .userWrite⟩
  scratch : m'.mapping? s scratchNumber = none
  others : ∀ q, q ≠ page → q ≠ scratchNumber → m'.mapping? s q = m.mapping? s q

namespace Opened

/-- What cannot be written now is another page, which could not be written before. -/
lemma isSealed (h : m.Opened s page m') (hq : m'.isSealed s q = true) :
    m.isSealed s q = true ∧ q ≠ page := by
  have hscratch : q ≠ scratchNumber := fun heq => by
    rw [heq, Machine.isSealed, h.scratch] at hq
    cases hq
  have hpage : q ≠ page := fun heq => by
    subst heq
    obtain ⟨n, hn⟩ := h.own hscratch
    rw [Machine.isSealed, hn, Option.any_some, Perm.contains_userWrite] at hq
    cases hq
  rw [Machine.isSealed, h.others q hpage hscratch] at hq
  exact ⟨hq, hpage⟩

/-- **Fewer pages** of a range cannot be written, if the page is one of them. -/
lemma sealedPages_lt (h : m.Opened s page m') (hpage : page ∈ pagesOf va.toNat len)
    (hsealed : m.isSealed s page = true) : m'.sealedPages s va len < m.sealedPages s va len :=
  countP_lt_countP (fun _ _ hq => (h.isSealed hq).1) hpage hsealed
    (Bool.eq_false_iff.2 fun hopen => (h.isSealed hopen).2 rfl)

end Opened

end Machine

/-! ### Who is told -/

/-- **A process that can be told of its faults** handles them, if its handler is the one that makes
copies. -/
lemma Process.Tellable.handles {k : Kernel} {id : ProcessId} {p : Process} {s : Nat} {esp : UInt32}
    (h : p.Tellable k.machine s esp) (hp : k.live? id = some p)
    (hentry : p.faultHandler = some (.ofNat Bench.handlerEntry)) :
    ∃ x plan, k.Handles id s x ∧ UpcallPlan.ofStackPointer esp = .ok plan := by
  obtain ⟨⟨entry, hentry', -, e, he, -⟩, ⟨e', he', hwrite⟩, hroom⟩ := h
  obtain rfl : entry = .ofNat Bench.handlerEntry := Option.some.inj (hentry'.symm.trans hentry)
  obtain ⟨plan, hplan⟩ := UpcallPlan.ofStackPointer_iff.2 hroom
  rw [Machine.lookup?_of_lt (by decide)] at he
  rw [Kernel.lookup?_exceptionPage] at he'
  exact ⟨e'.frame, plan, ⟨⟨p, hp, hentry⟩, ⟨e, he⟩, e', he', rfl,
    Perm.contains_trans hwrite (by decide)⟩, hplan⟩

/-- It still does when the handler has opened a page. -/
lemma Kernel.Handles.opened {k k' : Kernel} {id : ProcessId} {s x page : Nat}
    (h : k.Handles id s x) (hrenews : Renews id k k') (hsealed : k.machine.isSealed s page = true)
    (hopened : k.machine.Opened s page k'.machine) : k'.Handles id s x := by
  obtain ⟨⟨p, hp, hentry⟩, ⟨e, he⟩, e', he', hframe, hwrite⟩ := h
  obtain ⟨g, hg⟩ := hrenews.live?_self hp
  refine ⟨⟨_, hg, hentry⟩, ?_, e', ?_, hframe, hwrite⟩
  · have hscratch : (VirtAddr.ofNat Bench.handlerEntry).page ≠ scratchNumber := by decide
    by_cases hpage : (VirtAddr.ofNat Bench.handlerEntry).page = page
    · subst hpage
      obtain ⟨n, hn⟩ := hopened.own hscratch
      exact ⟨_, hn⟩
    · exact ⟨e, (hopened.others _ hpage hscratch).trans he⟩
  · -- the page of the exception stack can be written as it is
    refine (hopened.others _ (fun heq => ?_) (by decide)).trans he'
    rw [← heq, Machine.isSealed, he', Option.any_some, hwrite] at hsealed
    cases hsealed

namespace UserContext

open Bench Kernel Program

variable {config : Config} {frames cpu s x : Nat} {id : ProcessId} {u u' : UserContext}
  {t t' : Bench} {f : TrapFrame} {plan : UpcallPlan} {va srcVa : VirtAddr} {data : List UInt8}
  {fault : FaultFrame}

namespace Active

/-! ### The handler -/

/-- A copy that user code makes changes bytes and nothing else. -/
lemma copyPage_ok (h : u.Active config frames cpu id s f)
    (hexec : (Program.copyPage va srcVa : Program UserContext Unit).exec u = (.ok (), u')) :
    u'.Active config frames cpu id s f ∧ Renews id u.bed.kernel u'.bed.kernel ∧
      u'.bed.kernel.machine.spaces = u.bed.kernel.machine.spaces := by
  change u.copyPage va srcVa = (.ok (), u') at hexec
  have hreach' := h.reachable.copyPage va srcVa
  rw [hexec] at hreach'
  obtain ⟨-, rfl, rfl, ⟨hocc, hruns⟩, huser, hs⟩ := h
  rw [UserContext.copyPage] at hexec
  split at hexec
  · cases hexec
  · split at hexec
    · cases hexec
    · split at hexec
      · cases hexec
      · next m hwrite =>
        cases hexec
        obtain rfl := congrArg Prod.snd hwrite
        exact ⟨⟨hreach', rfl, rfl, ⟨hocc, hruns⟩, huser, hs⟩, .of_table rfl, rfl⟩

/-- **A handler that succeeds** has opened the page of the fault, which was to be copied. -/
lemma opened (h : u.Active config frames cpu id s f)
    (hexec : (Program.mendCopyOnWrite fault : Program UserContext Unit).exec u = (.ok (), u')) :
    u.bed.kernel.machine.ToMend s fault ∧ ∃ g, u'.Active config frames cpu id s g ∧
      Renews id u.bed.kernel u'.bed.kernel ∧
      u.bed.kernel.machine.Opened s (VirtAddr.mk fault.faultVa).page u'.bed.kernel.machine := by
  have hnumber : (VirtAddr.ofNat scratchPage).page = scratchNumber := by decide
  have hpresent : Perm.userWrite ||| .present = .userWrite :=
    Perm.or_present Perm.isRequestable_userWrite
  refine ⟨h.toMend_iff.2 fun hrefused => ?_, ?_⟩
  · rw [exec_mendCopyOnWrite_refused hrefused] at hexec
    cases hexec
  obtain ⟨u₁, u₂, u₃, hgrant, hcopy, hshare, hhide⟩ := exec_mendCopyOnWrite_steps hexec
  obtain ⟨f₁, n, s₁, h₁, -, hrenews₁, -, hs₁, hput₁, -⟩ := h.pageAlloc hgrant
  obtain rfl : s = s₁ := Option.some.inj (h.space.symm.trans hs₁)
  obtain ⟨h₂, hrenews₂, hspaces₂⟩ := h₁.copyPage_ok hcopy
  obtain ⟨f₃, e, s₃, h₃, hrenews₃, he, hs₃, hput₃⟩ := h₂.pageMap hshare
  obtain rfl : s = s₃ := Option.some.inj (h₂.space.symm.trans hs₃)
  have hmappable : (VirtAddr.ofNat scratchPage).isMappable = true := by decide
  obtain ⟨f₄, u₄, hhide', h₄, hrenews₄, -, hmap₄, -⟩ := h₃.hidePage hmappable
  obtain rfl : u₄ = u' := congrArg Prod.snd (hhide'.symm.trans hhide)
  have hmap₂ := Machine.mapping?_of_spaces hspaces₂
  rw [hpresent, VirtAddr.page_pageBase] at hput₃
  rw [hnumber] at hmap₄ hput₁
  refine ⟨f₄, h₄, ((hrenews₁.trans hrenews₂).trans hrenews₃).trans hrenews₄,
    fun hne => ⟨e.frame, ?_⟩, ?_, fun q hpage hscratch => ?_⟩
  · rw [hmap₄, if_neg fun hc => hne hc.2.symm, hput₃.mapping, if_pos ⟨rfl, rfl⟩]
  · rw [hmap₄, if_pos ⟨rfl, rfl⟩]
  · rw [hmap₄, if_neg fun hc => hscratch hc.2.symm, hput₃.mapping,
      if_neg fun hc => hpage hc.2.symm, hmap₂, hput₁.mapping, if_neg fun hc => hscratch hc.2.symm]

/-! ### Rounds -/

/-- **One round of an access** that is refused with `fault`. The process is told of the fault. Then
it fails to mend it, or has opened the page, which was to be copied, and goes on where it was. -/
lemma round (h : (⟨t, cpu, id⟩ : UserContext).Active config frames cpu id s f)
    (hhandles : t.kernel.Handles id s x) (hplan : UpcallPlan.ofStackPointer f.esp = .ok plan)
    (fault : MmuFault) : ∃ t₁,
      (t.withMachine (t.kernel.machine.latchFault cpu fault.va)).enter cpu
        ((t.withMachine (t.kernel.machine.latchFault cpu fault.va)).kernel.trap cpu
          (faultFrame f fault.err)) = (.ok (some id), t₁) ∧
      ((∃ e t₂, t₁.resumeFaulting cpu id s = (.error (.handler e), t₂)) ∨
        ∃ t₂ f₂, t₁.resumeFaulting cpu id s = (.ok (), t₂) ∧ f.Continues f₂ ∧
          (⟨t₂, cpu, id⟩ : UserContext).Active config frames cpu id s f₂ ∧
          Renews id t.kernel t₂.kernel ∧ fault.err &&& FaultCode.write ≠ 0 ∧
          fault.va.toNat < userTop ∧ (∃ e, t.kernel.machine.mapping? s fault.va.page = some e) ∧
          t.kernel.machine.Opened s fault.va.page t₂.kernel.machine) := by
  obtain ⟨t₁, hentered, h₁, hrenews₁, hspaces₁, -, -, -, hread⟩ := h.told hhandles hplan fault
  refine ⟨t₁, hentered, ?_⟩
  rcases hmend : (Program.mendCopyOnWrite (.ofTrap (faultFrame f fault.err) fault.va.word) :
    Program UserContext Unit).exec ⟨t₁, cpu, id⟩ with ⟨e | _, u'⟩
  · obtain ⟨t₂, hended⟩ := h₁.resume_error rfl hread hmend
    exact .inl ⟨e, t₂, hended⟩
  · obtain ⟨htoMend, g, h', hrenews', hopened⟩ := h₁.opened hmend
    obtain ⟨hbelow, e, he, -⟩ := h₁.mapping_toMend htoMend
    obtain ⟨t₂, hresumed, hkernel, h₂⟩ := h₁.resume rfl hread hmend h'
    have hmap := Machine.mapping?_of_spaces hspaces₁ s
    rw [← hkernel] at hrenews' hopened
    refine .inr ⟨t₂, restore g (.ofTrap (faultFrame f fault.err) fault.va.word), hresumed,
      ⟨rfl, rfl, rfl, rfl⟩, h₂, hrenews₁.trans hrenews', htoMend.1, hbelow, ?_, ?_⟩
    · exact ⟨e, (hmap _).symm.trans he⟩
    · exact ⟨hopened.own, hopened.scratch,
        fun q hpage hscratch => (hopened.others q hpage hscratch).trans (hmap q)⟩

/-- **An access that is given up** has had a page opened for every attempt, and the process goes
on. -/
lemma gaveUp {α : Type} {op : Machine → Nat → Except MmuFault α × Machine}
    (hmachine : ∀ m s, (op m s).2 = (m.userWrite s va data).2)
    (hrefused : ∀ m s fault, (op m s).1 = .error fault → fault.err &&& FaultCode.write ≠ 0 →
      (m.userWrite s va data).1 = .error fault)
    (h : (⟨t, cpu, id⟩ : UserContext).Active config frames cpu id s f)
    (hhandles : t.kernel.Handles id s x) (hplan : UpcallPlan.ofStackPointer f.esp = .ok plan)
    {attempts : Nat} (hresult : accessWithin cpu op attempts t = (.error .terminated, t')) :
    attempts ≤ t.kernel.machine.sealedPages s va data.length ∧ ∃ f', t'.Running cpu id f' := by
  induction attempts generalizing t f with
  | zero =>
    cases hresult
    exact ⟨Nat.zero_le _, f, h.running⟩
  | succ attempts ih =>
    rcases hop : op t.kernel.machine s with ⟨fault | a, m⟩
    · obtain rfl : (t.kernel.machine.userWrite s va data).2 = m :=
        (hmachine _ _).symm.trans (congrArg Prod.snd hop)
      have hhandles' : (t.withMachine (t.kernel.machine.userWrite s va data).2).kernel.Handles id s
          x := ⟨hhandles.handler, hhandles.code, hhandles.stack⟩
      obtain ⟨t₁, hentered, hends⟩ := (h.attempted va data).round hhandles' hplan fault
      rw [accessWithin_refused h.running.occupant h.space hop hentered, if_pos rfl] at hresult
      obtain ⟨e, t₂, hended⟩ | ⟨t₂, f₂, hresumed, hcontinues, h₂, hrenews, hwrite, hbelow, ⟨e, he⟩,
        hopened⟩ := hends
      · rw [hended] at hresult
        cases hresult
      · rw [hresumed] at hresult
        obtain ⟨hpage, hsealed⟩ := Machine.isSealed_of_userWrite h.reachable.kernel.permitted
          (hrefused _ _ _ (congrArg Prod.fst hop) hwrite) hbelow he
        have hfewer : t₂.kernel.machine.sealedPages s va data.length <
            t.kernel.machine.sealedPages s va data.length := hopened.sealedPages_lt hpage hsealed
        obtain ⟨hcount, hruns⟩ := ih h₂ (hhandles'.opened hrenews hsealed hopened)
          (hcontinues.esp ▸ hplan) hresult
        exact ⟨by omega, hruns⟩
    · rw [accessWithin_ok h.running.occupant h.space hop] at hresult
      cases hresult

end Active

end UserContext

end Exokernel
