/-
System calls that are answered at once.

* `tell_cases`, `acknowledge_cases`, `answer_ok`: what an answer says of the call;
* `Kernel.Answers`: a call after which the caller is as it was, apart from the answer;
* `pageAlloc_leavesTable`, `answers_exofork` and their like: the calls that are;
* `answered`: **a trap that makes such a call** carries it out, puts the answer into the registers
  of the caller, and lets the processor go on;
* `trap_unclaimed`, `trap_halted`, `call_gone`: so it is, unless the trap stops the processor or the
  caller is gone;
* `destroySelf_gone`, `destroySelf_vacates`: a process that destroys itself is gone, and its address
  space with it.
-/
import Exokernel.Proofs.Kernel.Drift
import Exokernel.Proofs.Kernel.Lives

namespace Exokernel.Kernel

variable {k k' : Kernel} {id target : ProcessId} {p q : Process} {cpu : Nat} {f : TrapFrame}
  {c : Syscall} {va : VirtAddr} {perm : Perm} {result : Except KernelError UInt32} {v : UInt32}

/-! ### What an answer says of the call -/

section

variable {α : Type} {word : α → UInt32} {r : Except KernelError α × Kernel}

lemma tell_cases (h : tell word r = (.answer result, k')) :
    (∃ e, r = (.error e, k') ∧ result = .error e) ∨
      ∃ a, r = (.ok a, k') ∧ result = .ok (word a) := by
  obtain ⟨_ | a, k₁⟩ := r <;> cases h
  · exact .inl ⟨_, rfl, rfl⟩
  · exact .inr ⟨a, rfl, rfl⟩

/-- Who tells a success has one. -/
lemma tell_ok (h : tell word r = (.answer (.ok v), k')) : ∃ a, r = (.ok a, k') ∧ v = word a := by
  obtain ⟨_, -, hv⟩ | ⟨a, hr, hv⟩ := tell_cases h <;> cases hv
  exact ⟨a, hr, rfl⟩

end

lemma acknowledge_cases {r : Except KernelError Kernel}
    (h : k.acknowledge r = (.answer result, k')) :
    (∃ e, r = .error e ∧ result = .error e ∧ k' = k) ∨ r = .ok k' ∧ result = .ok 0 := by
  cases r <;> cases h
  · exact .inl ⟨_, rfl, rfl, rfl⟩
  · exact .inr ⟨rfl, rfl⟩

/-- Who acknowledges a success has one. -/
lemma acknowledge_ok {r : Except KernelError Kernel}
    (h : k.acknowledge r = (.answer (.ok v), k')) : r = .ok k' ∧ v = 0 := by
  obtain ⟨_, -, hv, -⟩ | ⟨hr, hv⟩ := acknowledge_cases h <;> cases hv
  exact ⟨hr, rfl⟩

/-- Who answers with a value has it. -/
lemma answer_ok {r : Except KernelError (UInt32 × Kernel)}
    (h : k.answer r = (.answer (.ok v), k')) : r = .ok (v, k') := by
  cases r <;> cases h
  rfl

/-! ### Calls that are answered at once -/

/-- A call that is answered at once: its caller stays where it is. -/
def Answers (cpu : Nat) (id : ProcessId) (c : Syscall) : Prop :=
  ∀ (k : Kernel) (p : Process), k.Sound → k.live? id = some p → ∃ result k₂ p₂,
    k.execute cpu id c = (.answer result, k₂) ∧ k₂.live? id = some p₂ ∧
      p₂.frame = p.frame ∧ p₂.resident = p.resident

/-- A call that is answered at once and leaves the process table alone. -/
def LeavesTable (cpu : Nat) (id : ProcessId) (c : Syscall) : Prop :=
  ∀ k : Kernel, ∃ result k₂, k.execute cpu id c = (.answer result, k₂) ∧ k₂.table = k.table

lemma LeavesTable.answers (h : LeavesTable cpu id c) : Answers cpu id c := fun k p _ hp => by
  obtain ⟨result, k₂, hexec, htable⟩ := h k
  exact ⟨result, k₂, p, hexec, by rwa [live?, htable], rfl, rfl⟩

lemma table_pageAlloc : (k.pageAlloc id target va perm).2.table = k.table := by
  rw [pageAlloc]
  split <;> rfl

lemma table_pageMap {src dst : ProcessId} {srcVa : VirtAddr} :
    (k.pageMap id src srcVa dst va perm).2.table = k.table := by
  rw [pageMap]
  split
  · rfl
  · rw [holding]
    dsimp only
    split
    · rfl
    · next hkept =>
      obtain ⟨s, m, -, -, rfl⟩ := mapKept_ok hkept
      rfl

lemma pageAlloc_leavesTable : LeavesTable cpu id (.pageAlloc target va perm) :=
  fun _ => ⟨_, _, rfl, table_pageAlloc⟩

lemma pageMap_leavesTable {src dst : ProcessId} {srcVa : VirtAddr} :
    LeavesTable cpu id (.pageMap src srcVa dst va perm) :=
  fun _ => ⟨_, _, rfl, table_pageMap⟩

lemma pageUnmap_leavesTable : LeavesTable cpu id (.pageUnmap target va) := fun k => by
  rw [execute]
  cases hunmap : k.pageUnmap id target va with
  | error e => exact ⟨_, k, rfl, rfl⟩
  | ok k₁ =>
    obtain ⟨id, s, -, -, -, rfl⟩ := pageUnmap_cases hunmap
    exact ⟨_, _, rfl, rfl⟩

/-- A live process is found after a record was changed, as it was or changed like this. -/
lemma live?_modify_cases {other : ProcessId} {g : Process → Process} (hp : k.live? id = some p)
    (hid : (g p).id = p.id) (hlive : (g p).status.isLive) :
    ∃ p₂, (k.modify other g).live? id = some p₂ ∧ (p₂ = p ∨ p₂ = g p) := by
  obtain ⟨hrec, hpid, hplive⟩ := live?_eq_some_iff.1 hp
  by_cases hslot : other.slot = id.slot
  · refine ⟨g p, live?_eq_some_iff.2 ⟨?_, hid.trans hpid, hlive⟩, .inr rfl⟩
    rw [modify, ProcessTable.getElem?_modify, if_pos hslot, hrec]
    rfl
  · refine ⟨p, live?_eq_some_iff.2 ⟨?_, hpid, hplive⟩, .inl rfl⟩
    rw [modify, ProcessTable.getElem?_modify, if_neg hslot, hrec]

lemma answers_setStatus {status : ProcessStatus} : Answers cpu id (.setStatus target status) := by
  intro k p _ hp
  rw [execute]
  cases hset : k.setStatus id target status with
  | error e => exact ⟨_, k, p, rfl, hp, rfl, rfl⟩
  | ok k₁ =>
    obtain ⟨other, r, hs, -, -, rfl⟩ := setStatus_cases hset
    have hedit := edit_withStatus (live?_eq_some_iff.1 hp).2.2 hs
    have hframe : (withStatus p status).frame = p.frame := by
      rw [withStatus]
      split
      · rfl
      · split <;> rfl
    obtain ⟨p₂, hp₂, hcases⟩ := live?_modify_cases (g := (withStatus · status)) hp hedit.id
      hedit.live
    refine ⟨_, _, p₂, rfl, hp₂, ?_, ?_⟩
    · rcases hcases with rfl | rfl
      · rfl
      · exact hframe
    · rcases hcases with rfl | rfl
      · rfl
      · exact hedit.resident

lemma answers_setFaultHandler {entry : VirtAddr} :
    Answers cpu id (.setFaultHandler target entry) := by
  intro k p _ hp
  rw [execute]
  cases hset : k.setFaultHandler id target entry with
  | error e => exact ⟨_, k, p, rfl, hp, rfl, rfl⟩
  | ok k₁ =>
    obtain ⟨other, r, -, -, rfl⟩ := setFaultHandler_cases hset
    obtain ⟨p₂, hp₂, hcases⟩ := live?_modify_cases
      (g := fun p => { p with faultHandler := some entry }) hp rfl (live?_eq_some_iff.1 hp).2.2
    refine ⟨_, _, p₂, rfl, hp₂, ?_, ?_⟩
    · rcases hcases with rfl | rfl <;> rfl
    · rcases hcases with rfl | rfl <;> rfl

/-- An exofork makes a process in another slot. -/
lemma answers_exofork : Answers cpu id .exofork := by
  intro k p hk hp
  rw [execute]
  cases hfork : k.exofork id with
  | error e => exact ⟨_, k, p, rfl, hp, rfl, rfl⟩
  | ok r =>
    obtain ⟨answer, k₁⟩ := r
    have hmoves := exofork_moves (A := fun d => d = .quiet ∨
      d = .make (some id) k.machine.spaces.nextId ∨ ∃ (child : ProcessId) (q : Process),
        d = .edit child ∧ k.table.records[child.slot]? = some q ∧ q.status = .free) hk
      hfork (.inl rfl) (.inr (.inl rfl)) fun child q hq hs => .inr (.inr ⟨child, q, rfl, hq, hs⟩)
    obtain ⟨hrec, hid, hlive⟩ := live?_eq_some_iff.1 hp
    have hrec₁ := hmoves.record hk (fun d hd => ?_) hrec (ProcessStatus.ne_free_of_isLive hlive)
    · exact ⟨_, k₁, p, rfl, live?_eq_some_iff.2 ⟨hrec₁, hid, hlive⟩, rfl, rfl⟩
    · rcases hd with rfl | rfl | ⟨child, q, rfl, hq, hs⟩
      · trivial
      · trivial
      · intro hslot
        rw [hslot, hrec] at hq
        cases hq
        exact ProcessStatus.ne_free_of_isLive hlive hs

/-! ### Traps that make such calls -/

/-- The registers with which a process makes a call. -/
def callFrame (f : TrapFrame) (c : Syscall) : TrapFrame :=
  { f.withCall c.encode with trapno := TrapNumber.syscall }

/-- A call that was carried out by kernel `k₁`, with kernel `k₂` as its outcome, and answered. -/
structure Answered (k : Kernel) (cpu : Nat) (id : ProcessId) (f : TrapFrame) (c : Syscall)
    (k₁ : Kernel) (result : Except KernelError UInt32) (k₂ : Kernel) : Prop where
  saved : k.Saved id f k₁
  sound : k₁.Sound
  executed : k₁.execute cpu id c = (.answer result, k₂)
  drifts : k₂.Drifts (k.trap cpu f).2
  told : ∃ p, (k.trap cpu f).2.live? id = some p ∧
    p.frame = f.withResult (encodeResult result).toUInt32
  /-- A caller that runs goes on at once. -/
  resumed : ∀ p, k₂.live? id = some p → p.status = .running →
    (k.trap cpu f).1 = .user id (f.withResult (encodeResult result).toUInt32)

/-- A processor goes on with a process that runs there. -/
lemma leave_running (hp : k.live? id = some p) (hrun : p.status = .running)
    (hres : p.resident = some cpu) : k.leave cpu id .stay = (.user id p.frame, k) := by
  rw [leave, hp]
  dsimp only
  rw [if_pos ⟨hrun, hres⟩]

/-- **A trap that makes a call** that is answered at once. -/
lemma answered (hk : k.Sound) (hcur : k.current? cpu = some id) (hcalls : k.Calls id f c)
    (hanswers : Answers cpu id c) : ∃ k₁ result k₂, k.Answered cpu id f c k₁ result k₂ := by
  obtain ⟨k₁, p, request, hsaved, hp, hframe, hres, htrap⟩ := trap_call hk hcur hcalls
  obtain ⟨p₀, hp₀⟩ := Option.isSome_iff_exists.1 hcalls.2.1
  have hk₁ := hsaved.sound hk hp₀
  obtain ⟨result, k₂, p₂, hexec, hp₂, hframe₂, hres₂⟩ := hanswers k₁ p hk₁ hp
  have hmoves : Moves (k₁.CallDeed id c) k₁ k₂ := by
    have hall := (execute_moves (c := c) hk₁ hp hres).1
    rwa [hexec] at hall
  have hk₂ := hmoves.sound hk₁
  rw [hexec] at htrap
  -- the caller once it has its answer
  let k₃ := (k₂.setAnswer cpu id (encodeResult result)).audit id
    (.response request (some (encodeResult result)))
  have hlast : Moves (Deed.Own id) k₂ k₃ :=
    (setAnswer_moves _ .edit).trans (.quiet .quiet (quiet_audit _ _))
  have hp₃ : k₃.live? id =
      some { p₂ with frame := p₂.frame.withResult (encodeResult result).toUInt32 } :=
    live?_setAnswer _ hp₂ (hres₂.trans hres)
  have hk₃ := hlast.sound hk₂
  have hcur₃ : k₃.current? cpu = some id :=
    (live?_eq_some_iff.1 hp₂).2.1 ▸ hk₃.tables.claim_eq (live?_eq_some_iff.1 hp₃).1
      (hres₂.trans hres)
  change k.trap cpu f = k₃.leave cpu id .stay at htrap
  obtain ⟨k₄, p₄, hleave, hgoes, hp₄, hframe₄⟩ := leave_stay_cases hk₃ (fun _ hd => hd) hp₃
    (.inl hcur₃)
  refine ⟨k₁, result, k₂, hsaved, hk₁, hexec, ?_, ?_, fun p' hp' hrun => ?_⟩
  · rw [htrap]
    exact (hlast.drifts fun _ hd => hd.calm).trans
      ((hleave.drifts fun _ hd => hd.calm).trans hgoes.drifts)
  · obtain ⟨p₅, hp₅, hframe₅⟩ := hgoes.live? hp₄
    rw [htrap]
    refine ⟨p₅, hp₅, ?_⟩
    rw [hframe₅, hframe₄, hframe₂, hframe]
  · rw [hp₂] at hp'
    cases hp'
    rw [htrap, leave_running hp₃ hrun (hres₂.trans hres), hframe₂, hframe]

/-- A processor that runs user code, and claims nothing, stops by any trap. -/
lemma trap_unclaimed (huser : f.isUser) (hnone : k.current? cpu = none) :
    ∃ k₁ panic, k.Quiet k₁ ∧ k.trap cpu f = (.halt panic, k₁) := by
  rw [trap]
  cases hc : k.cpus[cpu]? with
  | none => exact ⟨k, _, .refl k, rfl⟩
  | some c =>
    have hclaim : c.current = none := by rwa [current?, hc] at hnone
    dsimp only
    rw [if_pos huser, hclaim]
    exact ⟨_, _, quiet_countTrap.trans (quiet_log _ _), rfl⟩

/-- A processor that claims nothing, or that takes the trap in the kernel, stops if that is no
interrupt. -/
lemma trap_halted (hcause : ¬ (TrapCause.ofNumber f.trapno).isInterrupt)
    (h : k.current? cpu = none ∨ f.isUser = false) :
    ∃ k₁ panic, k.Quiet k₁ ∧ k.trap cpu f = (.halt panic, k₁) := by
  by_cases huser : f.isUser
  · exact trap_unclaimed huser (h.resolve_right fun hnot => Bool.false_ne_true (hnot ▸ huser))
  · rw [trap]
    cases k.cpus[cpu]? with
    | none => exact ⟨k, _, .refl k, rfl⟩
    | some c =>
      dsimp only
      rw [if_neg huser, kernelTrap]
      dsimp only
      rw [if_neg hcause]
      exact ⟨_, _, quiet_countTrap.trans (quiet_log _ _), rfl⟩

/-- A call of a process that is gone changes no memory. -/
lemma call_gone (hk : k.Sound) (hcause : TrapCause.ofNumber f.trapno = .syscall)
    (hcur : k.current? cpu = some id) (hgone : k.live? id = none) :
    k.Drifts (k.trap cpu f).2 := by
  refine trap_drifts hk fun other hother d hd => ?_
  rw [hcur] at hother
  cases hother
  cases hd with
  | own hd => exact hd.calm
  | call huser hlive =>
    rw [hgone] at hlive
    cases hlive
  | fault hpf =>
    rw [hcause] at hpf
    cases hpf

/-- A call that is not about memory changes none. -/
lemma call_drifts (hk : k.Sound) (hcause : TrapCause.ofNumber f.trapno = .syscall)
    (hc : Syscall.decode f.call = .ok c)
    (hcalm : ∀ (k₁ : Kernel) (id : ProcessId) (d : Deed), k₁.CallDeed id c d → d.Calm) :
    k.Drifts (k.trap cpu f).2 := by
  refine trap_drifts hk fun id _ d hd => ?_
  cases hd with
  | own hd => exact hd.calm
  | call huser hlive hsys hsaved hc' hd =>
    rw [hc] at hc'
    cases hc'
    exact hcalm _ _ _ hd
  | fault hpf =>
    rw [hcause] at hpf
    cases hpf

lemma yield_calm (k₁ : Kernel) (id : ProcessId) (d : Deed) (h : k₁.CallDeed id .yield d) :
    d.Calm := by
  cases h with
  | own hd => exact hd.calm

lemma destroy_calm (k₁ : Kernel) (id : ProcessId) (d : Deed)
    (h : k₁.CallDeed id (.destroy target) d) : d.Calm := by
  cases h with
  | own hd => exact hd.calm
  | destroy | doom => trivial

/-- **A process that destroys itself** is gone. -/
lemma destroySelf_gone (hk : k.Sound) (hcur : k.current? cpu = some id)
    (hcalls : k.Calls id f (.destroy .self)) : (k.trap cpu f).2.spaceOf? id = none := by
  rw [spaceOf?, trap_destroy_gone hk hcur hcalls rfl]
  rfl

/-- Its address space goes with it. -/
lemma destroySelf_vacates {s : Nat} (hk : k.Sound) (hcur : k.current? cpu = some id)
    (hcalls : k.Calls id f (.destroy .self)) (hs : k.spaceOf? id = some s) :
    (k.trap cpu f).2.machine.space? s = none := by
  obtain ⟨k₁, p, k₂, hsaved, hk₁, hp, -, hres, hrest, hgoes⟩ := call_stages hk hcur hcalls
  obtain ⟨k₀, hk₀, heq⟩ := exit_eq cpu (show k₁.resolve id .self true = .ok id from rfl)
  rw [execute, heq] at hrest
  obtain ⟨p', hp', hspace⟩ := spaceOf?_eq_some_iff.1 (hsaved.spaceOf?_eq hs)
  rw [hp] at hp'
  cases hp'
  have hclears := destroyOn_clears (hk₀.sound hk₁) ((hk₀.live? id).trans hp) (.inr hres)
  have hdrifts := (hrest.drifts fun _ hd => hd.calm).trans hgoes.drifts
  -- nothing that comes after it makes an address space
  refine Option.not_isSome_iff_eq_none.1 fun hthere => ?_
  have hbefore := hdrifts.there s hthere
  rw [hclears.space?_none hspace] at hbefore
  cases hbefore

/-! ### Registers of a process that waits -/

/-- A deed that leaves the registers of process `id` alone. -/
def Deed.Passes (id : ProcessId) : Deed → Prop
  | .quiet | .unbind _ | .bind _ | .doom _ | .clear _ => True
  | .edit other | .await other => other ≠ id
  | .make _ _ | .remap _ | .work _ _ _ | .deliver _ => False

lemma frame_of_edit {other : ProcessId} {g : Process → Process} (hq : k.live? other = some q)
    (hg : q.Edit (g q)) (hne : other ≠ id) (hp : (k.modify other g).live? id = some p) :
    ∃ r, k.live? id = some r ∧ p.frame = r.frame := by
  obtain ⟨r, hr, hlike⟩ := ProcessTable.find?_of_modify
    (R := fun r r' => r.id = id → r'.frame = r.frame) hp (fun _ _ => rfl) fun r hr _ => by
      obtain ⟨hrec, hid, hlive⟩ := live?_eq_some_iff.1 hq
      rw [hrec] at hr
      cases hr
      exact ⟨hlive, hg.id, fun heq => absurd (hid.symm.trans heq) hne⟩
  exact ⟨r, hr, hlike (live?_eq_some_iff.1 hr).2.1⟩

lemma frame_of_unbind {other : ProcessId} (hq : k.live? other = some q)
    (hres : q.resident = some cpu) (hp : (k.unbind cpu other).live? id = some p) :
    ∃ r, k.live? id = some r ∧ p.frame = r.frame := by
  rw [unbind_eq hq hres] at hp
  have hfind : (k.table.modify other.slot fun p => { p with resident := none }).find? id =
    some p := hp
  exact ProcessTable.find?_of_modify (R := fun r r' => r'.frame = r.frame) hfind (fun _ => rfl)
    fun _ _ hlive => ⟨hlive, rfl, rfl⟩

lemma Move.frame {d : Deed} (h : k.Move d k') (hd : d.Passes id) (hp : k'.live? id = some p) :
    ∃ q, k.live? id = some q ∧ p.frame = q.frame := by
  cases h with
  | quiet h => exact ⟨p, (h.live? id).symm.trans hp, rfl⟩
  | edit hr hg hopen => exact frame_of_edit hr hg hd hp
  | await hr hg hres hrun =>
    obtain ⟨q, hq, hsame⟩ :=
      frame_of_unbind (live?_modify hr hg.id hg.live) (hg.resident.trans hres) hp
    rw [hsame]
    exact frame_of_edit hr hg hd hq
  | unbind hr hres hrun => exact frame_of_unbind hr hres hp
  | @bind cpu slot r hr hready hcpu hnone =>
    have hfind : (k.table.modify slot (dispatched cpu)).find? id = some p := hp
    refine ProcessTable.find?_of_modify (R := fun q q' => q'.frame = q.frame) hfind (fun _ => rfl)
      fun q hq _ => ?_
    rw [hr] at hq
    cases hq
    simp only [Process.dispatchable, Bool.and_eq_true, decide_eq_true_eq] at hready
    exact ⟨by rw [hready.1]; rfl, rfl, rfl⟩
  | doom hr hres =>
    exact ProcessTable.find?_of_modify (R := fun q q' => q'.frame = q.frame) hp (fun _ => rfl)
      fun _ _ hlive => by cases hlive
  | @clear _ other r hr hid hs h =>
    obtain ⟨hrec, hpid, hlive⟩ := live?_eq_some_iff.1 hp
    rw [h.records, ProcessTable.getElem?_modify] at hrec
    split at hrec
    · obtain ⟨q, -, rfl⟩ := Option.map_eq_some_iff.1 hrec
      cases hlive
    · exact ⟨p, live?_eq_some_iff.2 ⟨hrec, hpid, hlive⟩, rfl⟩
  | make | remap | work | deliver => cases hd

lemma Moves.frame {A : Deed → Prop} (h : Moves A k k') (hA : ∀ d, A d → d.Passes id) :
    ∀ p, k'.live? id = some p → ∃ q, k.live? id = some q ∧ p.frame = q.frame := by
  refine h.induct (P := fun k₁ => ∀ p, k₁.live? id = some p →
    ∃ q, k.live? id = some q ∧ p.frame = q.frame) (fun p hp => ⟨p, hp, rfl⟩) ?_
  intro k₁ d k₂ hk₁ hd hmove p hp
  obtain ⟨q, hq, hsame⟩ := hmove.frame (hA d hd) hp
  obtain ⟨r, hr, hsame'⟩ := hk₁ q hq
  exact ⟨r, hr, hsame.trans hsame'⟩

/-- An interrupt on a processor that does not claim a process leaves its registers alone. -/
lemma trap_frame (hk : k.Sound) (hcur : k.current? cpu ≠ some id)
    (hcause : TrapCause.ofNumber f.trapno = .timer) (hp : (k.trap cpu f).2.live? id = some p) :
    ∃ q, k.live? id = some q ∧ p.frame = q.frame := by
  have hschedule : ∀ {k₁ : Kernel}, k₁.current? cpu = none →
      Moves (Deed.Passes id) k₁ (k₁.schedule cpu).2 := fun hnone =>
    schedule_moves hnone trivial fun _ => trivial
  refine Moves.frame (A := Deed.Passes id) ?_ (fun _ hd => hd) p hp
  cases hnow : k.current? cpu with
  | none =>
    rcases trap_idle (f := f) hnow with ⟨k₁, hk₁, heq⟩ | ⟨k₁, panic, hk₁, heq⟩
    · rw [heq]
      exact (Moves.quiet trivial hk₁).trans (hschedule ((hk₁.current cpu).trans hnow))
    · rw [heq]
      exact .quiet trivial hk₁
  | some other =>
    obtain ⟨k₁, hmoves, hgoes⟩ := trap_cases (f := f) hk hnow
    have hpasses : Moves (Deed.Passes id) k k₁ := hmoves.mono fun d hd => by
      have hne : other ≠ id := fun heq => hcur (heq ▸ hnow)
      cases hd with
      | own hd =>
        cases hd with
        | edit => exact hne
        | _ => trivial
      | call huser hlive hsys =>
        rw [hcause] at hsys
        cases hsys
      | fault hpf =>
        rw [hcause] at hpf
        cases hpf
    rcases hgoes with hgoes | ⟨panic, heq⟩
    · cases hgoes with
      | resume hp hrun hres heq =>
        rw [heq]
        exact hpasses
      | schedule hnone heq =>
        rw [heq]
        exact hpasses.trans (hschedule hnone)
    · rw [heq]
      exact hpasses

/-- A processor that schedules and is given nothing to run claims nothing. -/
lemma schedule_stops (hcur : k.current? cpu = none)
    (hnone : ∀ id f', (k.schedule cpu).1 ≠ .user id f') :
    (k.schedule cpu).2.current? cpu = none := by
  rcases schedule_cases hcur with ⟨slot, p, k₂, -, -, -, -, -, hres, -⟩ | ⟨hk₂, -⟩
  · exact absurd hres (hnone p.id p.frame)
  · exact (hk₂.current cpu).trans hcur

lemma GoesOn.stops {r : Resume × Kernel} (h : GoesOn cpu id k r)
    (hnone : ∀ id f', r.1 ≠ .user id f') : r.2.current? cpu = none := by
  cases h with
  | resume hp hrun hres heq => exact absurd (congrArg Prod.fst heq) (hnone id _)
  | schedule hcur heq =>
    rw [heq] at hnone ⊢
    exact schedule_stops hcur hnone

/-- What a processor claims that was given nothing to run: what it did, or nothing. -/
lemma trap_stops (hk : k.Sound) (hnone : ∀ id f', (k.trap cpu f).1 ≠ .user id f') :
    (k.trap cpu f).2.current? cpu = k.current? cpu ∨ (k.trap cpu f).2.current? cpu = none := by
  cases hcur : k.current? cpu with
  | none =>
    rcases trap_idle (f := f) hcur with ⟨k₁, hk₁, heq⟩ | ⟨k₁, panic, hk₁, heq⟩
    · rw [heq] at hnone ⊢
      exact .inr (schedule_stops ((hk₁.current cpu).trans hcur) hnone)
    · rw [heq]
      exact .inr ((hk₁.current cpu).trans hcur)
  | some id =>
    obtain ⟨k₁, hmoves, hgoes | ⟨panic, heq⟩⟩ := trap_cases (f := f) hk hcur
    · exact .inr (hgoes.stops hnone)
    · rw [heq]
      exact hcur ▸ hmoves.current TrapDeed.not_bind cpu

/-- A processor that is given nothing to run after a trap out of user code claims nothing. -/
lemma trap_user_stops (hk : k.Sound) (hcur : k.current? cpu = some id) (huser : f.isUser)
    (hnone : ∀ id f', (k.trap cpu f).1 ≠ .user id f') : (k.trap cpu f).2.current? cpu = none := by
  obtain ⟨k₁, -, hgoes⟩ := trap_user_cases (f := f) hk hcur huser
  exact hgoes.stops hnone

end Exokernel.Kernel
