/-
What a previous owner left in memory.

* `Answer`, `Operation.answer`: what an operation tells whoever asked for it;
* `Kernel.SameFace`: kernels that look the same from outside, down to the bytes that user code
  reads;
* `Kernel.Twins`: kernels that are the same but for what free frames and page tables hold;
* `Operation.alike`, `History.follow`: **the same operations come to the same on both**;
* `residue_unobservable`: **nobody sees what was left in a frame**.
-/
import Mathlib.Data.List.Forall2
import Exokernel.Proofs.Histories
import Exokernel.Proofs.Kernel.Residue

namespace Exokernel

variable {config : Config} {frames : Nat} {k k' k₁ : Kernel} {es : List Transition}

/-! ### What can be observed -/

/-- What an operation tells whoever asked for it. -/
inductive Answer where
  | made (result : Except KernelError ProcessId)
  /-- Whether the processor was running what was destroyed. -/
  | destroyed (result : Except KernelError Bool)
  /-- What the processor does next, and with which registers. -/
  | resumed (next : Resume)
  | latched
  | stored (result : Except MmuFault Unit)

/-- What an operation tells in a state. -/
def Operation.answer (k : Kernel) : Operation → Answer
  | .spawn image => .made (k.spawn image).1
  | .allocate parent => .made ((k.allocate parent).map Prod.fst)
  | .destroy cpu id => .destroyed ((k.destroy cpu id).map Prod.fst)
  | .trap cpu f => .resumed (k.trap cpu f).1
  | .schedule cpu => .resumed (k.schedule cpu).1
  | .latch _ _ => .latched
  | .store s va data => .stored (k.machine.userWrite s va data).1

/-- What a transition tells. -/
def Transition.answer (e : Transition) : Answer := e.op.answer e.before

/-- **Kernels that look the same**: in their tables, on the console, in the audit log, and in all
that user code reads, in whichever address space, or is refused. -/
structure Kernel.SameFace (k k' : Kernel) : Prop where
  snapshot : k'.snapshot = k.snapshot
  spaces : k'.spaces = k.spaces
  console : k'.machine.console = k.machine.console
  auditLog : k'.auditLog = k.auditLog
  reads : ∀ s va len absent,
    k'.machine.userRead s va len absent = k.machine.userRead s va len absent

/-- Transitions in which the same is done to kernels that look the same, and is answered the
same. -/
structure Transition.Matches (e e' : Transition) : Prop where
  op : e'.op = e.op
  before : e.before.SameFace e'.before
  answer : e'.answer = e.answer

/-- The frames of page directories and page tables. -/
def Machine.pagingFrames (m : Machine) : List Nat :=
  m.spaces.spaces.values.flatMap AddressSpace.owned

/-- **Kernels that are the same** but for what is in frames that are free, or that page directories
and page tables take. -/
inductive Kernel.Twins (k : Kernel) : Kernel → Prop where
  | mk {m : Machine} (h : k.machine.Like (fun n =>
      (k.machine.frames.allocated? n).isSome ∧ n ∉ k.machine.pagingFrames) m) :
      Twins k { k with machine := m }

/-! ### The same on both -/

/-- A frame that can be looked at is in use, and no page table. -/
lemma Machine.Accounted.of_shows {m : Machine} {kept loose : List Nat} {n : Nat}
    (h : m.Accounted kept loose) (hn : m.Shows n) :
    (m.frames.allocated? n).isSome ∧ n ∉ m.pagingFrames := by
  rcases hn with ⟨page, e, he, rfl⟩ | ⟨s, page, e, he, rfl⟩
  · have hwindow : e.frame ∈ m.windows.values.map (·.frame) :=
      List.mem_map_of_mem (SortedMap.mem_values_iff.2 ⟨page, he⟩)
    refine ⟨h.ledger.backs.isSome_of_mem ?_, fun hpaging => ?_⟩
    · exact List.mem_append_left _ (List.mem_append_left _ (List.mem_append_left _ hwindow))
    · exact (List.nodup_append.1 h.ledger.nodup).2.2 _ hwindow _ hpaging rfl
  · exact ⟨h.isSome_of_mapping? he, fun hpaging =>
      h.notMem_tableFrames he (List.mem_append_right _ hpaging)⟩

/-- Twins agree in what they show. -/
lemma Kernel.Twins.alike (h : k.Twins k') (hk : Reachable config frames k) : k.Alike k' := by
  obtain ⟨h⟩ := h
  exact ⟨h.mono fun _ hn => hk.sound.accounted.of_shows hn⟩

lemma Kernel.Alike.sameFace (h : k.Alike k') : k.SameFace k' where
  snapshot := by rw [snapshot, snapshot, h.table_eq, h.cpus_eq]
  spaces := by
    rw [spaces, spaces, h.table_eq]
    simp only [h.spaceOf?_eq]
  console := by
    obtain ⟨⟨h⟩⟩ := h
    rfl
  auditLog := h.auditLog_eq
  reads := h.machine.userRead_eq

/-- **An operation comes to the same on both**, and leaves both alike. -/
lemma Operation.alike (op : Operation) (h : k.Alike k') :
    op.answer k' = op.answer k ∧ (op.apply k).Alike (op.apply k') := by
  cases op with
  | spawn image =>
    have hspawn := h.spawn image
    exact ⟨congrArg Answer.made hspawn.fst_eq, hspawn.snd⟩
  | allocate parent =>
    rw [answer, answer, apply, apply]
    refine (h.allocate parent).elim (fun e => ⟨rfl, h⟩) fun _ _ hmade => ?_
    exact ⟨congrArg (fun id => Answer.made (.ok id)) hmade.fst_eq, hmade.snd⟩
  | destroy cpu id =>
    rw [answer, answer, apply, apply]
    refine (h.destroy cpu id).elim (fun e => ⟨rfl, h⟩) fun _ _ hgone => ?_
    exact ⟨congrArg (fun switch => Answer.destroyed (.ok switch)) hgone.fst_eq, hgone.snd⟩
  | trap cpu f =>
    have htrap := h.trap cpu f
    exact ⟨congrArg Answer.resumed htrap.fst_eq, htrap.snd⟩
  | schedule cpu =>
    have hschedule := h.schedule cpu
    exact ⟨congrArg Answer.resumed hschedule.fst_eq, hschedule.snd⟩
  | latch cpu va => exact ⟨rfl, h.modifyProcessor cpu _⟩
  | store s va data =>
    have hstore := h.machine.userWrite s va data
    exact ⟨congrArg Answer.stored hstore.fst_eq, h.withMemory hstore.snd⟩

/-- What may be asked of one may be asked of the other. -/
lemma Operation.Legal.of_alike {op : Operation} (h : k.Alike k') (hlegal : op.Legal k) :
    op.Legal k' := by
  cases op with
  | schedule cpu =>
    have hcurrent : k'.current? cpu = k.current? cpu := by
      rw [Kernel.current?, Kernel.current?, h.cpus_eq]
    exact hcurrent.trans hlegal
  | _ => trivial

/-- **The same operations come to the same on both.** -/
lemma History.follow (h : History k es k₁) (halike : k.Alike k') :
    ∃ es' k₁', History k' es' k₁' ∧ List.Forall₂ Transition.Matches es es' ∧ k₁.Alike k₁' := by
  induction h with
  | nil => exact ⟨[], k', .nil, .nil, halike⟩
  | @snoc es k₂ _ op hlegal ih =>
    obtain ⟨es', k₂', hfollow, hmatch, halike₂⟩ := ih
    obtain ⟨hanswer, hafter⟩ := op.alike halike₂
    refine ⟨_, _, hfollow.snoc op (hlegal.of_alike halike₂), ?_, hafter⟩
    exact List.rel_append hmatch (.cons ⟨rfl, halike₂.sameFace, hanswer⟩ .nil)

/-- **Nobody sees what was left in a frame.** Of two kernels that are the same but for what is in
free frames and in those of page directories and page tables, whatever is done to one may be done to
the other, and it makes no difference: every operation is answered the same, processors are told to
run the same with the same registers, and before every operation and at the end the kernels look the
same, down to the bytes that user code reads. -/
theorem residue_unobservable (hk : Reachable config frames k) (htwins : k.Twins k')
    (h : History k es k₁) :
    ∃ es' k₁', History k' es' k₁' ∧ List.Forall₂ Transition.Matches es es' ∧
      k₁.SameFace k₁' := by
  obtain ⟨es', k₁', hfollow, hmatch, halike⟩ := h.follow (htwins.alike hk)
  exact ⟨es', k₁', hfollow, hmatch, halike.sameFace⟩

/-- The kernel with something else left in a frame. -/
def Kernel.soil (k : Kernel) (n : Nat) (page : Page) : Kernel :=
  { k with machine := { k.machine with frames := k.machine.frames.soil n page } }

lemma Kernel.twins_soil {n : Nat} (page : Page)
    (hfree : (k.machine.frames.allocated? n).isSome = false) : k.Twins (k.soil n page) :=
  ⟨⟨FramePool.like_soil page fun hn => absurd hn.1 (hfree ▸ Bool.false_ne_true)⟩⟩

/-- Frame 3 of a fresh kernel is free, and its twin has something else left there. A program gets
this frame for its data, and reads in both what it was loaded with, and then zeros. -/
theorem residue_unobservable_soiled : ∃ (k k₁ : Kernel) (es : List Transition),
    Reachable { maxProcesses := 2 } 16 k ∧ k.Twins (k.soil 3 (.filled 0xff)) ∧
    History k es k₁ ∧ (k₁.machine.mapping? 1 0x800).map (·.frame) = some 3 ∧
    ∃ es' k₁', History (k.soil 3 (.filled 0xff)) es' k₁' ∧
      List.Forall₂ Transition.Matches es es' ∧ k₁.SameFace k₁' ∧
      k₁'.machine.userRead 1 ⟨0x800000⟩ 2 0xff = .ok [7, 0] := by
  have hreach : Reachable { maxProcesses := 2 } 16 _ := .boot rfl (.refl _) rfl
  let image : Image := ⟨⟨0x800000⟩, [.readWrite ⟨0x800000⟩ [7] 2]⟩
  have hbegin : ∀ {k : Kernel}, Reachable { maxProcesses := 2 } 16 k → History k [] k :=
    fun _ => .nil
  have hsoil : ∀ {k : Kernel}, Reachable { maxProcesses := 2 } 16 k →
      (k.machine.frames.allocated? 3).isSome = false → k.Twins (k.soil 3 (.filled 0xff)) :=
    fun _ hfree => Kernel.twins_soil _ hfree
  have htwins := hsoil hreach (by decide +kernel)
  have hspawn := (hbegin hreach).snoc (.spawn image) trivial
  obtain ⟨es', k₁', hfollow, hmatch, hface⟩ := residue_unobservable hreach htwins hspawn
  refine ⟨_, _, _, hreach, htwins, hspawn, by decide +kernel, es', k₁', hfollow, hmatch, hface, ?_⟩
  rw [hface.reads]
  decide +kernel

end Exokernel
