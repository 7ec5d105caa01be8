/-
The steps of a fork, whether they succeed or not.

* `Kernel.Retunes`, `Kernel.Attends`: what a process changes about its own record, and about that of
  its child;
* `Process.HeldBy`, `Kernel.Begets`: a child that is made, and held by its parent;
* `Active.pageMap_attempt`, `Active.pageAlloc_attempt`, `Active.setFaultHandler_attempt`,
  `Active.exofork_attempt`: **a request of a fork** does what is asked, or changes nothing but the
  registers of the process that makes it;
* `Active.installHandler_attempt`, `Active.duplicateAll_attempt`, `Active.furnish_refused`: **how
  far a fork gets**, wherever it stops.
-/
import Exokernel.Proofs.Bench.Refusals
import Exokernel.Proofs.Forks
import Exokernel.Proofs.Memory.Sharing

namespace Exokernel

open Layout

/-- Memory that is as it was keeps what it shows. -/
lemma Machine.Untouched.retains {m m' : Machine} {kept loose : List Nat} (h : m.Untouched m')
    (hacc : m.Accounted kept loose) : m.Retains m' := by
  refine .of_allocated hacc h.windows (mapping?_of_spaces h.spaces) fun n hn => ?_
  obtain ⟨slot, hslot⟩ := Option.isSome_iff_exists.1 hn
  have hslot' : m'.frames.allocated? n = some slot := (h.frames.allocated n).trans hslot
  rw [← FramePool.page?_of_allocated? hslot, ← FramePool.page?_of_allocated? hslot',
    FramePool.page?, FramePool.page?, hslot, hslot']

namespace Machine

variable {m m' m'' : Machine} {s s' : Nat} {P Q : Nat → Prop} {kept loose : List Nat}

/-- No exception stack is given, and no page is shared. -/
lemma Untouched.equips (h : m.Untouched m') (hacc : m.Accounted kept loose) : m.Equips s m' :=
  .of_same (h.retains hacc) (mapping?_of_spaces h.spaces)

lemma Untouched.shares (h : m.Untouched m') (hacc : m.Accounted kept loose) :
    m.Shares s P s' Q m' :=
  .of_same (h.retains hacc) (mapping?_of_spaces h.spaces)

/-- A step that leaves memory as it is, after an exception stack may have been given. -/
lemma Equips.untouched (h : m.Equips s m') (hacc : m'.Accounted kept loose)
    (hsame : m'.Untouched m'') : m.Equips s m'' :=
  h.trans_same (hsame.retains hacc) (mapping?_of_spaces hsame.spaces)

/-- So after pages may have been shared. -/
lemma Shares.untouched (h : m.Shares s P s' Q m') (hacc : m'.Accounted kept loose)
    (hsame : m'.Untouched m'') : m.Shares s P s' Q m'' :=
  h.trans_same (hsame.retains hacc) (mapping?_of_spaces hsame.spaces)

end Machine

/-- **A process that its parent holds**: it is bound to no processor and waits for no message. -/
structure Process.HeldBy (p : Process) (parent : ProcessId) : Prop where
  parent_eq : p.parent = parent
  status : p.status = .notRunnable
  resident : p.resident = none
  closed : p.mailbox.receiving = false

namespace Kernel

variable {k k' k'' k₁ k₂ : Kernel} {id caller child target : ProcessId} {p q : Process}
  {cpu s : Nat} {w : UInt32} {entry : VirtAddr}

/-! ### Records that change -/

/-- The records of processes are as they were, but for the registers and the fault handler of
process `id`. -/
structure Retunes (id : ProcessId) (k k' : Kernel) : Prop where
  others : ∀ slot, slot ≠ id.slot → k'.table.records[slot]? = k.table.records[slot]?
  own : ∀ p, k.table.records[id.slot]? = some p →
    ∃ f h, k'.table.records[id.slot]? = some { p with frame := f, faultHandler := h }

namespace Retunes

lemma of_renews (h : Renews id k k') : Retunes id k k' :=
  ⟨h.others, fun p hp => (h.own p hp).imp fun _ hf => ⟨p.faultHandler, hf⟩⟩

lemma trans (h : Retunes id k k') (h' : Retunes id k' k'') : Retunes id k k'' := by
  refine ⟨fun slot hslot => (h'.others slot hslot).trans (h.others slot hslot), fun p hp => ?_⟩
  obtain ⟨f, handler, hp'⟩ := h.own p hp
  obtain ⟨f', handler', hp''⟩ := h'.own _ hp'
  exact ⟨f', handler', hp''⟩

/-- The handler of the process is set. -/
lemma of_modify : Retunes id k (k.modify id fun p => { p with faultHandler := some entry }) := by
  refine ⟨fun slot hslot => ?_, fun p hp => ⟨p.frame, some entry, ?_⟩⟩
  · rw [modify, ProcessTable.getElem?_modify, if_neg hslot.symm]
  · rw [modify, ProcessTable.getElem?_modify, if_pos rfl, hp]
    rfl

end Retunes

/-- A process whose handler is set has it, whatever registers it has. -/
lemma handler_of_modify (hp : k.live? id = some p) (hbefore : Renews id k k₁)
    (hafter : Renews id (k₁.modify id fun p => { p with faultHandler := some entry }) k') :
    ∃ p, k'.live? id = some p ∧ p.faultHandler = some entry := by
  obtain ⟨hrec, hid, hlive⟩ := live?_eq_some_iff.1 hp
  obtain ⟨g, hg⟩ := hbefore.own p hrec
  obtain ⟨g', hg'⟩ := hafter.own { p with frame := g, faultHandler := some entry } (by
    rw [modify, ProcessTable.getElem?_modify, if_pos rfl, hg]
    rfl)
  exact ⟨_, live?_eq_some_iff.2 ⟨hg', hid, hlive⟩, rfl⟩

/-- The records of processes are as they were, but for the registers of process `id` and the fault
handler of its child. -/
structure Attends (id child : ProcessId) (k k' : Kernel) : Prop where
  others : ∀ slot, slot ≠ id.slot → slot ≠ child.slot →
    k'.table.records[slot]? = k.table.records[slot]?
  own : ∀ p, k.table.records[id.slot]? = some p →
    ∃ f, k'.table.records[id.slot]? = some { p with frame := f }
  child : ∀ q, k.table.records[child.slot]? = some q →
    ∃ h, k'.table.records[child.slot]? = some { q with faultHandler := h }

namespace Attends

lemma of_renews (h : Renews id k k') (hne : child.slot ≠ id.slot) : Attends id child k k' :=
  ⟨fun slot hslot _ => h.others slot hslot, h.own,
    fun q hq => ⟨q.faultHandler, (h.others _ hne).trans hq⟩⟩

lemma trans (h : Attends id child k k') (h' : Attends id child k' k'') :
    Attends id child k k'' := by
  refine ⟨fun slot hslot hchild => (h'.others slot hslot hchild).trans (h.others slot hslot hchild),
    fun p hp => ?_, fun q hq => ?_⟩
  · obtain ⟨f, hf⟩ := h.own p hp
    obtain ⟨f', hf'⟩ := h'.own _ hf
    exact ⟨f', hf'⟩
  · obtain ⟨handler, hq'⟩ := h.child q hq
    obtain ⟨handler', hq''⟩ := h'.child _ hq'
    exact ⟨handler', hq''⟩

/-- The handler of the child is set. -/
lemma of_modify (hne : child.slot ≠ id.slot) : Attends id child k
    (k.modify child fun q => { q with faultHandler := some entry }) where
  others slot _ hchild := by
    rw [modify, ProcessTable.getElem?_modify, if_neg hchild.symm]
  own p hp := ⟨p.frame, by rw [modify, ProcessTable.getElem?_modify, if_neg hne, hp]⟩
  child q hq := ⟨some entry, by rw [modify, ProcessTable.getElem?_modify, if_pos rfl, hq]; rfl⟩

/-- The process still has the handler that it had. -/
lemma handler (h : Attends id child k k') (hp : k.live? id = some p) :
    ∃ p', k'.live? id = some p' ∧ p'.faultHandler = p.faultHandler := by
  obtain ⟨hrec, hid, hlive⟩ := live?_eq_some_iff.1 hp
  obtain ⟨f, hf⟩ := h.own p hrec
  exact ⟨_, live?_eq_some_iff.2 ⟨hf, hid, hlive⟩, rfl⟩

/-- The child is still held. -/
lemma held (h : Attends id child k k') (hq : k.live? child = some q) (hheld : q.HeldBy id) :
    ∃ q', k'.live? child = some q' ∧ q'.HeldBy id := by
  obtain ⟨hrec, hid, hlive⟩ := live?_eq_some_iff.1 hq
  obtain ⟨handler, hrec'⟩ := h.child q hrec
  exact ⟨_, live?_eq_some_iff.2 ⟨hrec', hid, hlive⟩,
    ⟨hheld.parent_eq, hheld.status, hheld.resident, hheld.closed⟩⟩

end Attends

/-- **A child is made** in a slot that was free, with the next address space `s`, and held by its
parent, process `id`, whose registers are other ones then. -/
structure Begets (id child : ProcessId) (s : Nat) (k k' : Kernel) : Prop where
  apart : child.slot ≠ id.slot
  free : ∃ q, k.table.records[child.slot]? = some q ∧ q.status = .free
  space : s = k.machine.spaces.nextId.toNat
  others : ∀ slot, slot ≠ id.slot → slot ≠ child.slot →
    k'.table.records[slot]? = k.table.records[slot]?
  own : ∀ p, k.table.records[id.slot]? = some p →
    ∃ f, k'.table.records[id.slot]? = some { p with frame := f }
  held : ∃ q, k'.live? child = some q ∧ q.HeldBy id ∧ q.space = some s

/-- A process that is made for another one, and held, is its child. -/
lemma allocateAs_begets (hk : k.Sound) (hp : k.live? caller = some p)
    (h : k.allocateAs caller .notRunnable = .ok (child, k')) :
    ∃ s, Begets caller child s k k' := by
  obtain ⟨q, rest, s, machine, hq, hfree, -, hcreate, -, rfl⟩ := allocateAs_takes hk h
  obtain ⟨hrec, -, hlive⟩ := live?_eq_some_iff.1 hp
  have hne : child.slot ≠ caller.slot := fun heq => by
    rw [heq, hrec] at hq
    cases hq
    exact ProcessStatus.ne_free_of_isLive hlive hfree
  have hrecords : ∀ i, (k.table.modify child.slot fun _ =>
      { id := child, parent := caller, status := .notRunnable, space := some s,
        frame := .initial (UInt32.ofNat stackTop) }).records[i]? =
      if child.slot = i then k.table.records[i]?.map fun _ =>
        { id := child, parent := caller, status := .notRunnable, space := some s,
          frame := .initial (UInt32.ofNat stackTop) }
      else k.table.records[i]? := fun i => ProcessTable.getElem?_modify ..
  have hspace : s = k.machine.spaces.nextId.toNat := by
    obtain ⟨-, -, -, hs, -⟩ := Machine.createSpace_cases hcreate
    exact hs
  refine ⟨s, hne, ⟨q, hq, hfree⟩, hspace, fun i _ hi => ?_, fun p hp => ⟨p.frame, ?_⟩, ?_⟩
  · exact (hrecords i).trans (if_neg hi.symm)
  · exact (hrecords caller.slot).trans ((if_neg hne).trans hp)
  · have hmade := (hrecords child.slot).trans (if_pos rfl)
    rw [hq] at hmade
    exact ⟨_, live?_eq_some_iff.2 ⟨hmade, rfl, rfl⟩, ⟨rfl, rfl, rfl, rfl⟩, rfl⟩

/-- **An exofork that succeeds** makes a child, and changes nobody else. -/
lemma exofork_begets (hk : k.Sound) (hp : k.live? caller = some p)
    (h : k.exofork caller = .ok (w, k')) : ∃ s, Begets caller ⟨w⟩ s k k' := by
  obtain ⟨parent, child, k₁, -, hmade, rfl, rfl⟩ := exofork_cases h
  obtain ⟨s, hne, hfree, hspace, hothers, hown, q, hq, hheld, hs⟩ := allocateAs_begets hk hp hmade
  -- the child is given the registers of its parent
  have hrecords : ∀ i, i ≠ child.slot →
      ((k₁.modify child fun p => { p with frame := parent.frame.withResult 0 }).log .debug
        s!"[{caller}] exofork -> {child}").table.records[i]? =
      k₁.table.records[i]? := fun i hi => by
    rw [(quiet_log .debug s!"[{caller}] exofork -> {child}").records, modify,
      ProcessTable.getElem?_modify, if_neg hi.symm]
  refine ⟨s, hne, hfree, hspace, fun i hi hi' => ?_, fun p hp => ?_,
    { q with frame := parent.frame.withResult 0 }, ?_,
    ⟨hheld.parent_eq, hheld.status, hheld.resident, hheld.closed⟩, hs⟩
  · exact (hrecords i hi').trans (hothers i hi hi')
  · obtain ⟨f, hf⟩ := hown p hp
    exact ⟨f, (hrecords _ hne.symm).trans hf⟩
  · rw [(quiet_log .debug s!"[{caller}] exofork -> {child}").live?]
    exact live?_modify hq rfl (live?_eq_some_iff.1 hq).2.2

/-- The registers of the parent are other ones before and after. -/
lemma Begets.of_renews (h : Begets id child s k₁ k₂) (hbefore : Renews id k k₁)
    (hspaces : k₁.machine.spaces = k.machine.spaces) (hafter : Renews id k₂ k') :
    Begets id child s k k' := by
  obtain ⟨hne, ⟨q, hq, hfree⟩, hspace, hothers, hown, q', hq', hheld, hs⟩ := h
  refine ⟨hne, ⟨q, (hbefore.others _ hne).symm.trans hq, hfree⟩, ?_, fun i hi hi' => ?_,
    fun p hp => ?_, q', ?_, hheld, hs⟩
  · rwa [hspaces] at hspace
  · rw [hafter.others i hi, hothers i hi hi', hbefore.others i hi]
  · obtain ⟨f, hf⟩ := hbefore.own p hp
    obtain ⟨f', hf'⟩ := hown _ hf
    obtain ⟨f'', hf''⟩ := hafter.own _ hf'
    exact ⟨f'', hf''⟩
  · rw [live?_congr (hafter.others _ hne), hq']

end Kernel

namespace UserContext

open Bench Kernel Program

variable {config : Config} {frames cpu s s' : Nat} {id child : ProcessId} {u u' : UserContext}
  {f f' : TrapFrame} {va srcVa : VirtAddr} {perm : Perm} {e : Mapping} {fault : LibError}
  {r : Except LibError Unit} {todo : List (VirtAddr × Perm)}

namespace Active

/-- The windows are always the same. -/
lemma windows_eq (h : u.Active config frames cpu id s f)
    (h' : u'.Active config frames cpu id s f') :
    u'.bed.kernel.machine.windows = u.bed.kernel.machine.windows :=
  h'.reachable.kernel.fixtures.1.trans h.reachable.kernel.fixtures.1.symm

/-! ### Requests, whether they succeed or not -/

/-- **A page that is shown elsewhere**, or is not. -/
lemma pageMap_attempt (h : u.Active config frames cpu id s f) {dst : ProcessId}
    (hexec : (Program.pageMap .self srcVa dst va perm : Program UserContext Unit).exec u =
      (r, u')) :
    ∃ f', u'.Active config frames cpu id s f' ∧ Renews id u.bed.kernel u'.bed.kernel ∧
      (u.bed.kernel.machine.Untouched u'.bed.kernel.machine ∨
        ∃ e t, u.bed.kernel.machine.mapping? s srcVa.page = some e ∧
          u.bed.kernel.spaceOf? (named id dst) = some t ∧
          u.bed.kernel.machine.Puts t va.page ⟨e.frame, perm ||| .present⟩
            u'.bed.kernel.machine) := by
  cases r with
  | ok _ =>
    obtain ⟨f', e, t, h', hrenews, he, ht, hput⟩ := h.pageMap hexec
    exact ⟨f', h', hrenews, .inr ⟨e, t, he, ht, hput⟩⟩
  | error e =>
    obtain ⟨_, f', -, h', -, hrenews, huntouched⟩ := h.request_refused rfl
      pageMap_leavesTable.persists (fun _ _ _ h => (tell_ok h).elim fun _ hv => hv.2) hexec
    exact ⟨f', h', hrenews, .inl huntouched⟩

/-- **A fresh page**, or none. -/
lemma pageAlloc_attempt (h : u.Active config frames cpu id s f) {target : ProcessId}
    (hexec : (Program.pageAlloc target va perm : Program UserContext Unit).exec u = (r, u')) :
    ∃ f', u'.Active config frames cpu id s f' ∧ Renews id u.bed.kernel u'.bed.kernel ∧
      ((∃ e, r = .error e) ∧ u.bed.kernel.machine.Untouched u'.bed.kernel.machine ∨
        ∃ n t, n ∉ u.bed.kernel.machine.shownFrames ∧
          u.bed.kernel.spaceOf? (named id target) = some t ∧
          u.bed.kernel.machine.Puts t va.page ⟨n, perm ||| .present⟩
            u'.bed.kernel.machine) := by
  cases r with
  | ok _ =>
    obtain ⟨f', n, t, h', -, hrenews, hfresh, ht, hput, -⟩ := h.pageAlloc hexec
    exact ⟨f', h', hrenews, .inr ⟨n, t, hfresh, ht, hput⟩⟩
  | error e =>
    obtain ⟨_, f', -, h', -, hrenews, huntouched⟩ := h.request_refused rfl
      pageAlloc_leavesTable.persists (fun _ _ _ h => (tell_ok h).elim fun _ hv => hv.2) hexec
    exact ⟨f', h', hrenews, .inl ⟨⟨e, rfl⟩, huntouched⟩⟩

/-- **A fault handler that is set**, or is not. Memory is as it was. -/
lemma setFaultHandler_attempt (h : u.Active config frames cpu id s f) {target : ProcessId}
    {entry : VirtAddr}
    (hexec : (Program.setFaultHandler target entry : Program UserContext Unit).exec u = (r, u')) :
    ∃ f', u'.Active config frames cpu id s f' ∧
      u.bed.kernel.machine.Untouched u'.bed.kernel.machine ∧
      ((∃ e, r = .error e) ∧ Renews id u.bed.kernel u'.bed.kernel ∨
        ∃ k₁, Renews id u.bed.kernel k₁ ∧ Renews id (k₁.modify (named id target) fun p =>
          { p with faultHandler := some entry }) u'.bed.kernel) := by
  cases r with
  | ok _ =>
    obtain ⟨k₁, v, k₂, hserved, hactive⟩ := h.request_ok rfl persists_setFaultHandler hexec
    obtain ⟨q, -, rfl⟩ := executed_setFaultHandler_ok hserved.executed
    exact ⟨_, hactive, hserved.saved.untouched.trans (.trans (.of_same rfl rfl rfl)
      hserved.answered.untouched), .inr ⟨k₁, .of_saved hserved.saved, .of_saved hserved.answered⟩⟩
  | error e =>
    obtain ⟨_, f', -, h', -, hrenews, huntouched⟩ := h.request_refused rfl
      persists_setFaultHandler (fun _ _ _ h => (acknowledge_ok h).2) hexec
    exact ⟨f', h', huntouched, .inl ⟨⟨e, rfl⟩, hrenews⟩⟩

/-- **A child that is made**, or is not, if the next number of an address space is free. -/
lemma exofork_attempt (h : u.Active config frames cpu id s f)
    (hnext : u.bed.kernel.machine.space? u.bed.kernel.machine.spaces.nextId.toNat = none)
    {r : Except LibError Fork}
    (hexec : (Program.exofork : Program UserContext Fork).exec u = (r, u')) :
    ∃ f', u'.Active config frames cpu id s f' ∧
      ((∃ e, r = .error e) ∧ Renews id u.bed.kernel u'.bed.kernel ∧
          u.bed.kernel.machine.Untouched u'.bed.kernel.machine ∨
        ∃ child s', Begets id child s' u.bed.kernel u'.bed.kernel ∧
          (∀ t page, u'.bed.kernel.machine.mapping? t page =
            u.bed.kernel.machine.mapping? t page) ∧
          u.bed.kernel.machine.Retains u'.bed.kernel.machine ∧
          ∀ other, r = .ok (.parent other) → other = child ∧ child.isSelf = false) := by
  obtain ⟨p, hp⟩ := h.live
  obtain ⟨k₁, result, k₂, u₁, hserved, htrap, hactive⟩ := h.trap rfl persists_exofork
  have hhost : (Host.trap .exofork u : Int32 × UserContext) = (encodeResult result, u₁) := htrap
  rw [exec_exofork, hhost, Prod.mk.injEq] at hexec
  obtain ⟨hresult, rfl⟩ := hexec
  refine ⟨_, hactive, ?_⟩
  cases result with
  | error e =>
    refine .inl ⟨?_, hserved.refused⟩
    rw [Fork.ofAnswer, decodeResult_encodeResult_error] at hresult
    exact ⟨_, hresult.symm⟩
  | ok w =>
    have hfork := executed_exofork hserved.executed
    have hspaces := hserved.saved.memory.2.1
    obtain ⟨s', hbegets⟩ := exofork_begets hserved.sound (hserved.saved.live? hp) hfork
    obtain ⟨-, -, hmap, hcont⟩ := exofork_effect hserved.sound hfork
    have hmap' : ∀ t page, u₁.bed.kernel.machine.mapping? t page =
        u.bed.kernel.machine.mapping? t page := fun t page => by
      rw [Machine.mapping?_of_spaces hserved.answered.memory.2.1, hmap,
        Machine.mapping?_of_spaces hspaces, hspaces]
      split
      · next heq =>
        rw [← heq, Machine.mapping?, hnext]
        rfl
      · rfl
    refine .inr ⟨⟨w⟩, s', hbegets.of_renews (.of_saved hserved.saved) hspaces
      (.of_saved hserved.answered), hmap', ?_, fun other hother => ?_⟩
    · refine .of_allocated h.sound.accounted (h.windows_eq hactive) hmap' fun n _ => ?_
      rw [hserved.answered.memory.1, hcont, hserved.saved.memory.1]
    · rw [hother, Fork.ofAnswer] at hresult
      cases hdecode : decodeResult (encodeResult (.ok w)) with
      | error e =>
        rw [hdecode] at hresult
        cases hresult
      | ok v =>
        rw [hdecode] at hresult
        dsimp only at hresult
        obtain rfl : w = v := Except.ok.inj (ok_of_decodeResult hdecode)
        split at hresult
        · cases hresult
        · next hw =>
          cases hresult
          exact ⟨rfl, decide_eq_false fun hself => hw (congrArg ProcessId.raw hself)⟩

/-! ### The parent -/

/-- The handler of a process that has an exception stack, and may have been given it since `k`. -/
lemma registerHandler_attempt (h : u.Active config frames cpu id s f) {k : Kernel}
    (hretunes : Retunes id k u.bed.kernel) (hequips : k.machine.Equips s u.bed.kernel.machine)
    (hstack : (u.bed.kernel.machine.mapping? s exceptionPage).isSome)
    (hexec : (Program.setFaultHandler .self (.ofNat Bench.handlerEntry) :
      Program UserContext Unit).exec u = (r, u')) :
    ∃ f', u'.Active config frames cpu id s f' ∧ Retunes id k u'.bed.kernel ∧
      k.machine.Equips s u'.bed.kernel.machine ∧
      (r = .ok () → (u'.bed.kernel.machine.mapping? s exceptionPage).isSome ∧
        ∃ p, u'.bed.kernel.live? id = some p ∧
          p.faultHandler = some (.ofNat Bench.handlerEntry)) := by
  obtain ⟨f', h', huntouched, hrecords⟩ := h.setFaultHandler_attempt hexec
  have hequips' := hequips.untouched h.sound.accounted huntouched
  rcases hrecords with ⟨⟨e, rfl⟩, hrenews⟩ | ⟨k₁, hbefore, hafter⟩
  · exact ⟨f', h', hretunes.trans (.of_renews hrenews), hequips', nofun⟩
  · obtain ⟨p, hp⟩ := h.live
    refine ⟨f', h', ?_, hequips', fun _ => ⟨?_, handler_of_modify hp hbefore hafter⟩⟩
    · exact ((hretunes.trans (.of_renews hbefore)).trans .of_modify).trans (.of_renews hafter)
    · rwa [Machine.mapping?_of_spaces huntouched.spaces]

/-- **The exception stack and the handler** of a process that is about to fork, as far as it
gets. -/
lemma installHandler_attempt (h : u.Active config frames cpu id s f)
    (hexec : (Program.installHandler : Program UserContext Unit).exec u = (r, u')) :
    ∃ f', u'.Active config frames cpu id s f' ∧ Retunes id u.bed.kernel u'.bed.kernel ∧
      u.bed.kernel.machine.Equips s u'.bed.kernel.machine ∧
      (r = .ok () → (u'.bed.kernel.machine.mapping? s exceptionPage).isSome ∧
        ∃ p, u'.bed.kernel.live? id = some p ∧
          p.faultHandler = some (.ofNat Bench.handlerEntry)) := by
  obtain ⟨hnone, hexec⟩ | ⟨hsome, hexec⟩ := exec_installHandler_cases hexec
  · rw [h.perm?_isNone, Option.isNone_iff_eq_none] at hnone
    obtain ⟨r₁, u₁, halloc, hcases⟩ := exec_bind_cases hexec
    obtain ⟨f₁, h₁, hrenews, hmemory⟩ := h.pageAlloc_attempt halloc
    have hgiven : ∀ {n t}, n ∉ u.bed.kernel.machine.shownFrames →
        u.bed.kernel.spaceOf? id = some t →
        u.bed.kernel.machine.Puts t exceptionPage ⟨n, .userWrite⟩ u₁.bed.kernel.machine →
        u.bed.kernel.machine.Equips s u₁.bed.kernel.machine ∧
          (u₁.bed.kernel.machine.mapping? s exceptionPage).isSome := by
      intro n t hfresh ht hput
      obtain rfl : s = t := Option.some.inj (h.space.symm.trans ht)
      refine ⟨.of_puts hput h.sound.accounted (h.windows_eq h₁) hnone hfresh, ?_⟩
      rw [hput.mapping, if_pos ⟨rfl, rfl⟩]
      rfl
    rcases hcases with ⟨e, -, rfl, rfl⟩ | ⟨_, rfl, hexec⟩
    · refine ⟨f₁, h₁, .of_renews hrenews, ?_, by rintro ⟨⟩⟩
      rcases hmemory with ⟨-, huntouched⟩ | ⟨n, t, hfresh, ht, hput⟩
      · exact huntouched.equips h.sound.accounted
      · exact (hgiven hfresh ht hput).1
    · rcases hmemory with ⟨⟨e, he⟩, -⟩ | ⟨n, t, hfresh, ht, hput⟩
      · cases he
      · obtain ⟨hequips, hstack⟩ := hgiven hfresh ht hput
        exact h₁.registerHandler_attempt (.of_renews hrenews) hequips hstack hexec
  · rw [h.perm?_isNone, Option.isNone_iff_eq_none] at hsome
    exact h.registerHandler_attempt (.of_renews (.of_table rfl))
      (.of_same (.refl _) fun _ _ => rfl) (Option.isSome_iff_ne_none.2 hsome) hexec

/-! ### The child -/

/-- A page of the process is shown in the child, with some permissions, or nothing happens. -/
lemma showChild_attempt (h : u.Active config frames cpu id s f) (hself : child.isSelf = false)
    (hchild : u.bed.kernel.spaceOf? child = some s') (hne : s ≠ s')
    (hnone : u.bed.kernel.machine.mapping? s' va.page = none) {given : Perm}
    (hexec : (Program.pageMap .self va child va given : Program UserContext Unit).exec u =
      (r, u')) :
    ∃ f', u'.Active config frames cpu id s f' ∧ Renews id u.bed.kernel u'.bed.kernel ∧
      u.bed.kernel.machine.Shares s (fun _ => False) s' (· = va.page) u'.bed.kernel.machine := by
  obtain ⟨f', h', hrenews, huntouched | ⟨e', t, -, ht, hput⟩⟩ := h.pageMap_attempt hexec
  · exact ⟨f', h', hrenews, huntouched.shares h.sound.accounted⟩
  · rw [named_of_not_self hself, hchild, Option.some.injEq] at ht
    subst ht
    exact ⟨f', h', hrenews, .of_puts hput h.sound.accounted (h.windows_eq h') hne hnone⟩

/-- **One page** of the process is shown in the child, or is about to be. -/
lemma duplicate_attempt (h : u.Active config frames cpu id s f) (hself : child.isSelf = false)
    (hchild : u.bed.kernel.spaceOf? child = some s') (hne : s ≠ s')
    (he : u.bed.kernel.machine.mapping? s va.page = some e)
    (hnone : u.bed.kernel.machine.mapping? s' va.page = none)
    (hexec : (Program.duplicate child va e.perm : Program UserContext Unit).exec u = (r, u')) :
    ∃ f', u'.Active config frames cpu id s f' ∧ Renews id u.bed.kernel u'.bed.kernel ∧
      u.bed.kernel.machine.Shares s (· = va.page) s' (· = va.page) u'.bed.kernel.machine := by
  have hperm := h.reachable.kernel.permitted s va.page e he
  have hone : ∀ {given : Perm},
      (Program.pageMap .self va child va given : Program UserContext Unit).exec u = (r, u') →
      ∃ f', u'.Active config frames cpu id s f' ∧ Renews id u.bed.kernel u'.bed.kernel ∧
        u.bed.kernel.machine.Shares s (· = va.page) s' (· = va.page) u'.bed.kernel.machine :=
    fun hexec => by
      obtain ⟨f', h', hrenews, hshares⟩ := h.showChild_attempt hself hchild hne hnone hexec
      exact ⟨f', h', hrenews, hshares.mono (fun _ => False.elim) fun _ hpage => hpage⟩
  rw [Program.duplicate, Perm.and_requestable hperm] at hexec
  split at hexec
  · exact hone hexec
  · next hshare =>
    split at hexec
    · next hmeets =>
      obtain ⟨r₁, u₁, hfirst, ⟨e', rfl, rfl, rfl⟩ | ⟨_, rfl, hexec⟩⟩ := exec_bind_cases hexec
      · exact hone hfirst
      obtain ⟨f₁, h₁, hrenews, hshares⟩ := h.showChild_attempt hself hchild hne hnone hfirst
      have he₁ : u₁.bed.kernel.machine.mapping? s va.page = some e :=
        ((hshares.parent va.page).resolve_right fun hforked => hforked.1).trans he
      have hforked : e.forked = ⟨e.frame, readOnlyCopy e.perm⟩ := by
        rw [Mapping.forked, if_neg hshare, if_pos hmeets]
      obtain ⟨f', h', hrenews', hmemory⟩ := h₁.pageMap_attempt hexec
      have hsecond : u₁.bed.kernel.machine.Shares s (· = va.page) s' (fun _ => False)
          u'.bed.kernel.machine := by
        rcases hmemory with huntouched | ⟨e', t, he', ht, hput⟩
        · exact huntouched.shares h₁.sound.accounted
        · have hs : s = t := Option.some.inj (h₁.space.symm.trans ht)
          rw [he₁, Option.some.injEq] at he'
          subst he' hs
          rw [Perm.or_present (Perm.isRequestable_readOnlyCopy hperm), ← hforked] at hput
          exact .of_puts_forked hput h₁.sound.accounted (h₁.windows_eq h') hne he₁
      exact ⟨f', h', hrenews.trans hrenews', (hshares.trans hsecond fun _ => False.elim).mono
        (fun _ hpage => hpage.resolve_left not_false) fun _ hpage => hpage.resolve_right not_false⟩
    · exact hone hexec

/-- **Pages, one after the other**, as far as the process gets. The exception stack is left out. -/
lemma duplicateAll_attempt (h : u.Active config frames cpu id s f) (hself : child.isSelf = false)
    (hchild : u.bed.kernel.spaceOf? child = some s') (hne : s ≠ s')
    (hapart : todo.Pairwise fun a b => a.1.page ≠ b.1.page)
    (hlisted : ∀ va perm, (va, perm) ∈ todo →
      (∃ e, u.bed.kernel.machine.mapping? s va.page = some e ∧ e.perm = perm) ∧
        u.bed.kernel.machine.mapping? s' va.page = none ∧ va = .ofNat (va.page * pageSize))
    (hexec : (Program.duplicateAll child todo : Program UserContext Unit).exec u = (r, u')) :
    ∃ f', u'.Active config frames cpu id s f' ∧ Renews id u.bed.kernel u'.bed.kernel ∧
      u.bed.kernel.machine.Shares s
        (fun page => page ≠ exceptionPage ∧ ∃ x ∈ todo, x.1.page = page) s'
        (· ≠ exceptionPage) u'.bed.kernel.machine := by
  induction todo generalizing u f with
  | nil =>
    cases hexec
    exact ⟨f, h, .of_table rfl, .of_same (.refl _) fun _ _ => rfl⟩
  | cons entry todo ih =>
    obtain ⟨va, perm⟩ := entry
    obtain ⟨hfirst, hrest⟩ := List.pairwise_cons.1 hapart
    obtain ⟨⟨e, he, rfl⟩, hnone, hva⟩ := hlisted va perm List.mem_cons_self
    have hlater := fun va perm hmem => hlisted va perm (List.mem_cons_of_mem _ hmem)
    have hmore : ∀ page, (page ≠ exceptionPage ∧ ∃ x ∈ todo, x.1.page = page) →
        page ≠ exceptionPage ∧ ∃ x ∈ (va, e.perm) :: todo, x.1.page = page :=
      fun page ⟨hpage, x, hx, heq⟩ => ⟨hpage, x, List.mem_cons_of_mem _ hx, heq⟩
    rw [Program.duplicateAll] at hexec
    by_cases hstack : va = exceptionStack
    · rw [if_neg (not_not_intro hstack)] at hexec
      obtain ⟨f', h', hrenews, hshares⟩ := ih h hchild hrest hlater hexec
      exact ⟨f', h', hrenews, hshares.mono hmore fun _ hpage => hpage⟩
    · rw [if_pos hstack] at hexec
      have hpage : va.page ≠ exceptionPage := fun heq => hstack (by rw [hva, heq]; rfl)
      obtain ⟨r₁, u₁, hone, hcases⟩ := exec_bind_cases hexec
      obtain ⟨f₁, h₁, hrenews, hshares⟩ := h.duplicate_attempt hself hchild hne he hnone hone
      rcases hcases with ⟨e', -, rfl, rfl⟩ | ⟨_, -, hexec⟩
      · refine ⟨f₁, h₁, hrenews, hshares.mono ?_ ?_⟩
        · rintro page rfl
          exact ⟨hpage, (va, e.perm), List.mem_cons_self, rfl⟩
        · rintro page rfl
          exact hpage
      · obtain ⟨p, hp⟩ := h.live
        obtain ⟨f', h', hrenews', hshares'⟩ := ih h₁ ((hrenews.spaceOf? hp child).trans hchild)
          hrest (fun va' perm' hmem => by
            have hother : va'.page ≠ va.page := (hfirst _ hmem).symm
            rw [(hshares.parent va'.page).resolve_right fun hforked => hother hforked.1,
              hshares.child va'.page hother]
            exact hlater va' perm' hmem) hexec
        refine ⟨f', h', hrenews.trans hrenews', (hshares.trans hshares' fun page heq hc => ?_).mono
          (fun page hc => ?_) fun page hc => ?_⟩
        · obtain ⟨-, x, hx, hxe⟩ := hc
          exact hfirst x hx (heq ▸ hxe).symm
        · rcases hc with rfl | hc
          · exact ⟨hpage, (va, e.perm), List.mem_cons_self, rfl⟩
          · exact hmore page hc
        · rcases hc with rfl | hc
          · exact hpage
          · exact hc

/-- **The exception stack of the child** is a fresh page, or there is none. -/
lemma childStack_attempt (h : u.Active config frames cpu id s f) (hself : child.isSelf = false)
    (hchild : u.bed.kernel.spaceOf? child = some s') (hne : s ≠ s')
    (hnone : u.bed.kernel.machine.mapping? s' exceptionPage = none)
    (hexec : (Program.pageAlloc child exceptionStack .userWrite : Program UserContext Unit).exec u =
      (r, u')) :
    ∃ f', u'.Active config frames cpu id s f' ∧ Renews id u.bed.kernel u'.bed.kernel ∧
      u.bed.kernel.machine.Shares s (fun _ => False) s' (· = exceptionPage)
        u'.bed.kernel.machine := by
  obtain ⟨f', h', hrenews, ⟨-, huntouched⟩ | ⟨n, t, -, ht, hput⟩⟩ := h.pageAlloc_attempt hexec
  · exact ⟨f', h', hrenews, huntouched.shares h.sound.accounted⟩
  · rw [named_of_not_self hself, hchild, Option.some.injEq] at ht
    subst ht
    exact ⟨f', h', hrenews, .of_puts hput h.sound.accounted (h.windows_eq h') hne hnone⟩

/-- **The handler of the child** is set, or is not, and nothing else changes but registers. -/
lemma childHandler_attempt (h : u.Active config frames cpu id s f) (hself : child.isSelf = false)
    (hslot : child.slot ≠ id.slot) {entry : VirtAddr}
    (hexec : (Program.setFaultHandler child entry : Program UserContext Unit).exec u = (r, u')) :
    ∃ f', u'.Active config frames cpu id s f' ∧ Attends id child u.bed.kernel u'.bed.kernel ∧
      u.bed.kernel.machine.Untouched u'.bed.kernel.machine := by
  obtain ⟨f', h', huntouched, hrecords⟩ := h.setFaultHandler_attempt hexec
  refine ⟨f', h', ?_, huntouched⟩
  rcases hrecords with ⟨-, hrenews⟩ | ⟨k₁, hbefore, hafter⟩
  · exact .of_renews hrenews hslot
  · rw [named_of_not_self hself] at hafter
    exact ((Attends.of_renews hbefore hslot).trans (.of_modify hslot)).trans
      (.of_renews hafter hslot)

/-- **A child that shows nothing yet is furnished**, as far as its parent gets. -/
lemma furnish_refused (h : u.Active config frames cpu id s f) {q : Process}
    (hself : child.isSelf = false) (hslot : child.slot ≠ id.slot)
    (hmade : u.bed.kernel.live? child = some q) (hspace : q.space = some s') (hne : s ≠ s')
    (hblank : ∀ page, u.bed.kernel.machine.mapping? s' page = none)
    (hexec : (do
      Program.duplicateAll child (← Program.pages)
      Program.pageAlloc child exceptionStack .userWrite
      Program.setFaultHandler child (← Program.handlerEntry)
      Program.setStatus child .runnable
      return Fork.parent child : Program UserContext Fork).exec u = (.error fault, u')) :
    ∃ f', u'.Active config frames cpu id s f' ∧ Attends id child u.bed.kernel u'.bed.kernel ∧
      u.bed.kernel.machine.Shares s (· ≠ exceptionPage) s' (fun _ => True)
        u'.bed.kernel.machine := by
  have hnamed : named id child = child := named_of_not_self hself
  have hchild : u.bed.kernel.spaceOf? child = some s' := spaceOf?_eq_some_iff.2 ⟨q, hmade, hspace⟩
  obtain ⟨p, hp⟩ := h.live
  -- the pages
  obtain ⟨todo, u₁, hpages, hexec⟩ := exec_bind_cases hexec
  cases hpages
  obtain ⟨e, he, -⟩ | ⟨_, he, hexec⟩ := hexec
  · cases he
  cases he
  obtain ⟨r₁, u₁, hall, hcases⟩ := exec_bind_cases hexec
  obtain ⟨f₁, h₁, hrenews₁, hshares₁⟩ := h.duplicateAll_attempt hself hchild hne
    h.placed.pages_apart (fun va perm hmem => by
      obtain ⟨he, hva⟩ := h.placed.mem_pages_iff.1 hmem
      exact ⟨he, hblank _, hva⟩) hall
  have hfirst : u.bed.kernel.machine.Shares s (· ≠ exceptionPage) s' (fun _ => True)
      u₁.bed.kernel.machine := hshares₁.mono (fun _ hc => hc.1) fun _ _ => trivial
  have hattends₁ : Attends id child u.bed.kernel u₁.bed.kernel := .of_renews hrenews₁ hslot
  rcases hcases with ⟨e, -, he, rfl⟩ | ⟨_, -, hexec⟩
  · exact ⟨f₁, h₁, hattends₁, hfirst⟩
  -- the exception stack of the child
  obtain ⟨r₂, u₂, halloc, hcases⟩ := exec_bind_cases hexec
  have hchild₁ : u₁.bed.kernel.spaceOf? child = some s' := (hrenews₁.spaceOf? hp child).trans hchild
  have hnone₁ : u₁.bed.kernel.machine.mapping? s' exceptionPage = none :=
    (hshares₁.child _ fun hc => hc rfl).trans (hblank _)
  obtain ⟨f₂, h₂, hrenews₂, hshares₂⟩ := h₁.childStack_attempt hself hchild₁ hne hnone₁ halloc
  have hsecond : u.bed.kernel.machine.Shares s (· ≠ exceptionPage) s' (fun _ => True)
      u₂.bed.kernel.machine := (hfirst.trans hshares₂ fun _ _ => not_false).mono
    (fun _ hc => hc.resolve_right not_false) fun _ _ => trivial
  have hattends₂ := hattends₁.trans (.of_renews hrenews₂ hslot)
  rcases hcases with ⟨e, -, he, rfl⟩ | ⟨_, -, hexec⟩
  · exact ⟨f₂, h₂, hattends₂, hsecond⟩
  -- its handler
  rw [exec_bind, exec_handlerEntry] at hexec
  obtain ⟨r₃, u₃, hhandler, hcases⟩ := exec_bind_cases hexec
  obtain ⟨f₃, h₃, hattended, huntouched₃⟩ := h₂.childHandler_attempt hself hslot hhandler
  have hattends₃ := hattends₂.trans hattended
  have hthird := hsecond.untouched h₂.sound.accounted huntouched₃
  rcases hcases with ⟨e, -, he, rfl⟩ | ⟨_, -, hexec⟩
  · exact ⟨f₃, h₃, hattends₃, hthird⟩
  -- its status: once that is set, the fork has succeeded
  obtain ⟨r₄, u₄, hstatus, ⟨e, rfl, -, rfl⟩ | ⟨_, -, hexec⟩⟩ := exec_bind_cases hexec
  · obtain ⟨_, f₄, -, h₄, -, hrenews₄, huntouched₄⟩ := h₃.request_refused rfl
      (persists_setStatus (hnamed.symm ▸ fun heq => hslot (congrArg ProcessId.slot heq)))
      (fun _ _ _ h => (acknowledge_ok h).2) hstatus
    exact ⟨f₄, h₄, hattends₃.trans (.of_renews hrenews₄ hslot),
      hthird.untouched h₃.sound.accounted huntouched₄⟩
  · cases hexec

end Active

end UserContext

end Exokernel
