/-
Who may write what.

* `Move.passes`: but for work on memory, a move gives pages only what other pages allow;
* `Operation.permitted`, `Reachable.permitted`: every page allows what a call may ask for;
* `trap_seals`, `spawn_seals`, `Operation.seals`: **no operation unseals a frame** that is in use;
* `write_authority`: **the authority to write is never created**: a frame that nobody may write
  stays so until it is no longer in use.
-/
import Exokernel.Proofs.Kernel.Lives
import Exokernel.Proofs.Memory.Allowances
import Exokernel.Proofs.Runs

namespace Exokernel

namespace Kernel

variable {k k' : Kernel} {id : ProcessId} {cpu n : Nat} {f : TrapFrame} {d : Deed} {A : Deed → Prop}

/-! ### Moves -/

lemma Shows.passes {s : Option Nat} {dst : Option VirtAddr} {m m' : Machine}
    (h : Shows s dst m m') : m.Passes m' := by
  cases h with
  | nothing => exact .of_mapping? fun _ _ _ h => h
  | kept hf => exact (Machine.Remap.kept (s := 0) hf).passes
  | page hs hva hf h => exact (Machine.Remap.mapKept hf h).passes

/-- **A move gives pages only what other pages allow**, unless it is work on memory. -/
lemma Move.passes (h : k.Move d k') (hd : ∀ id before after, d ≠ .work id before after) :
    k.machine.Passes k'.machine := by
  cases h with
  | quiet h =>
    refine .of_mapping? fun s page e he => ?_
    rwa [h.mapping?] at he
  | await hp hf hres hrun =>
    rw [modify_unbind_eq hp hf hres]
    exact .of_mapping? fun _ _ _ h => h
  | unbind hp hres hrun =>
    rw [unbind_eq hp hres]
    exact .of_mapping? fun _ _ _ h => h
  | @clear _ id p hp hid hs h =>
    refine .of_mapping? fun s page e he => ?_
    rw [Machine.mapping?, Machine.space?, h.spaces] at he
    change (vacated k.machine p.space).mapping? s page = some e at he
    cases hspace : p.space with
    | none => rwa [hspace] at he
    | some s' =>
      rw [hspace, vacated, Machine.mapping?_dismantle] at he
      split at he
      · cases he
      · exact he
  | make hcaller hs h =>
    obtain ⟨slot, rest, s, machine, -, hcreate, -, rfl⟩ := allocateAs_cases h
    refine .of_mapping? fun s' page e he => ?_
    rw [Machine.mapping?_createSpace hcreate] at he
    split at he
    · cases he
    · exact he
  | remap hs h => exact h.passes
  | work hs h => exact absurd rfl (hd _ _ _)
  | deliver hp hopen hmail h => exact h.passes
  | edit | bind | doom => exact .of_mapping? fun _ _ _ h => h

/-- A move lets no page allow what calls may not ask for. -/
lemma Move.permitted (h : k.Move d k') (hm : k.machine.Permitted) : k'.machine.Permitted := by
  by_cases hd : ∃ id before after, d = .work id before after
  · obtain ⟨id, before, after, rfl⟩ := hd
    cases h with
    | work hs h => exact Machine.Works.permitted h hm
  · exact (h.passes fun id before after heq => hd ⟨id, before, after, heq⟩).permitted hm

/-- **A row of moves unseals no frame** if no work on memory does. -/
lemma Moves.seals (h : Moves A k k') (hk : k.Sound)
    (hA : ∀ id before after, A (.work id before after) → before.Sealed n → after.Sealed n)
    (hm : k.machine.Sealed n) : k'.machine.Sealed n := by
  refine (h.induct (P := fun k₁ => k₁.Sound ∧ k₁.machine.Sealed n) ⟨hk, hm⟩ ?_).2
  rintro k₁ d k₂ ⟨hk₁, hm₁⟩ hd hmove
  refine ⟨hmove.sound hk₁, ?_⟩
  by_cases hwork : ∃ id before after, d = .work id before after
  · obtain ⟨id, before, after, rfl⟩ := hwork
    obtain ⟨rfl, s, -, rfl⟩ := hmove.work_inv
    exact hA id _ _ hd hm₁
  · exact (hmove.passes fun id before after heq => hwork ⟨id, before, after, heq⟩).sealed hm₁

/-! ### Operations -/

/-- A fresh page that a process asks for is none that is in use, and a fault frame goes to a page
that is there. -/
lemma TrapDeed.seals {other : ProcessId} {before after : Machine} (hk : k.Sound)
    (hin : (k.machine.frames.allocated? n).isSome)
    (h : k.TrapDeed id f (.work other before after)) (hm : before.Sealed n) : after.Sealed n := by
  cases h with
  | own hd => cases hd
  | call huser hlive hcause hsaved hc hd =>
    obtain ⟨hframes, hspaces, hwindows⟩ := hsaved.memory
    cases hd with
    | own hd => cases hd
    | pageAlloc s hid =>
      exact hm.mapZeroed (hk.accounted.congr hframes hspaces hwindows) (hframes ▸ hin)
  | fault hcause hsaved hwrite =>
    cases hwrite with
    | mk hs hplan hlen => exact hm

/-- **A trap unseals no frame** that is in use. -/
lemma trap_seals (hk : k.Sound) (hin : (k.machine.frames.allocated? n).isSome)
    (hm : k.machine.Sealed n) : (k.trap cpu f).2.machine.Sealed n := by
  have hdispatch : ∀ {k₁ k₂ : Kernel}, k₁.Sound → Moves Deed.Dispatch k₁ k₂ →
      k₁.machine.Sealed n → k₂.machine.Sealed n := fun hk₁ hmoves hm₁ =>
    hmoves.seals hk₁ (fun _ _ _ hd => nomatch hd) hm₁
  cases hcur : k.current? cpu with
  | none =>
    rcases trap_idle (f := f) hcur with ⟨k₁, hk₁, heq⟩ | ⟨k₁, panic, hk₁, heq⟩
    · rw [heq]
      exact hdispatch hk ((Moves.quiet .quiet hk₁).trans
        (schedule_moves ((hk₁.current cpu).trans hcur) .quiet .bind)) hm
    · rw [heq]
      exact hdispatch hk (.quiet .quiet hk₁) hm
  | some id =>
    obtain ⟨k₁, hmoves, hend⟩ := trap_cases (f := f) hk hcur
    have hm₁ := hmoves.seals hk (fun _ _ _ hd => hd.seals hk hin) hm
    rcases hend with hgoes | ⟨panic, heq⟩
    · exact hdispatch (hmoves.sound hk) hgoes.moves hm₁
    · rwa [heq]

/-- A process that is made has memory that shows nothing, and a frame in use stays so. -/
lemma make_hides (hk : k.Sound) {parent : ProcessId} {status : ProcessStatus}
    (hmade : k.allocateAs parent status = .ok (id, k')) {s : Nat} (hspace : k'.spaceOf? id = some s)
    (hin : (k.machine.frames.allocated? n).isSome) :
    (k'.machine.frames.allocated? n).isSome ∧ k'.machine.Hides s n := by
  obtain ⟨hnone, hspaces, hmap, -⟩ := allocateAs_effect hk hmade
  refine ⟨?_, fun page e he => ?_⟩
  · obtain ⟨slot, rest, s', machine, -, hcreate, -, rfl⟩ := allocateAs_cases hmade
    obtain ⟨directory, frames, hall, -, rfl⟩ := Machine.createSpace_cases hcreate
    exact Machine.isSome_allocOwned? hall hin
  · rcases hspaces id s hspace with ⟨-, rfl⟩ | hold
    · rw [hmap, if_pos rfl] at he
      cases he
    · rw [spaceOf?, hnone] at hold
      cases hold

/-- **Spawning unseals no frame** that is in use. -/
lemma spawn_seals (hk : k.Sound) (image : Image) (hin : (k.machine.frames.allocated? n).isSome)
    (hm : k.machine.Sealed n) : (k.spawn image).2.machine.Sealed n := by
  rcases spawn_stages hk image with heq | ⟨id, k₁, s, m, hmade, hspace, hworks, hrest⟩
  · rwa [heq]
  · have hmake : k.Move (.make none k.machine.spaces.nextId) k₁ := .make nofun (.inr rfl) hmade
    have hk₁ := hmake.sound hk
    have hload : k₁.Move (.work id k₁.machine m) { k₁ with machine := m } := .work hspace hworks
    obtain ⟨hin₁, hhides⟩ := make_hides hk hmade hspace hin
    have hm₁ := (hmake.passes fun _ _ _ => nofun).sealed hm
    exact hrest.seals (hload.sound hk₁) (fun _ _ _ hd => nomatch hd)
      (Machine.Works.sealed hworks hk₁.accounted hin₁ hhides hm₁)

end Kernel

namespace Operation

variable {k : Kernel} {op : Operation} {n : Nat}

/-- **An operation lets no page allow** what calls may not ask for. -/
lemma permitted (hk : k.Sound) (hlegal : op.Legal k) (hm : k.machine.Permitted) :
    (op.apply k).machine.Permitted :=
  op.induct (P := fun k₁ => k₁.machine.Permitted) hk hlegal hm
    (fun _ _ _ _ _ hm₁ hmove => hmove.permitted hm₁) (fun _ _ => hm) fun _ _ _ => hm

/-- **No operation unseals a frame** that is in use. -/
lemma seals (hk : k.Sound) (hlegal : op.Legal k) (hin : (k.machine.frames.allocated? n).isSome)
    (hm : k.machine.Sealed n) : (op.apply k).machine.Sealed n := by
  cases op with
  | spawn image => exact Kernel.spawn_seals hk image hin hm
  | allocate parent =>
    exact (allocate_moves (A := fun d => d = .quiet ∨ d = .make none k.machine.spaces.nextId)
      (.inl rfl) (.inr rfl) parent).seals hk (fun _ _ _ hd => nomatch hd) hm
  | destroy cpu id => exact (destroy_moves hk cpu id).seals hk (fun _ _ _ hd => nomatch hd) hm
  | trap cpu f => exact Kernel.trap_seals hk hin hm
  | schedule cpu =>
    exact (Kernel.schedule_moves (A := Kernel.Deed.Dispatch) hlegal .quiet .bind).seals hk
      (fun _ _ _ hd => nomatch hd) hm
  | latch cpu va => exact hm
  | store s va data => exact hm

end Operation

/-- **Every page of a reachable state** allows what a call may ask for, and nothing else. -/
lemma Reachable.permitted {config : Config} {frames : Nat} {k : Kernel}
    (h : Reachable config frames k) : k.machine.Permitted := by
  induction h with
  | boot hcreate _ hboot =>
    intro s page e he
    rw [Kernel.mapping?_start hcreate hboot] at he
    cases he
  | step hreach op hlegal ih => exact op.permitted hreach.sound hlegal ih

/-- **A run unseals no frame** that stays in use. -/
lemma Run.seals {config : Config} {frames n : Nat} {k k' : Kernel} (hk : Reachable config frames k)
    (hin : (k.machine.frames.allocated? n).isSome) (hm : k.machine.Sealed n)
    (h : Run (fun k op => 0 < (op.apply k).machine.frames.refs n) k k') :
    (k'.machine.frames.allocated? n).isSome ∧ k'.machine.Sealed n := by
  induction h with
  | refl => exact ⟨hin, hm⟩
  | @step k' hrun op hlegal hrefs ih =>
    refine ⟨?_, op.seals (hrun.reachable hk).sound hlegal ih.1 ih.2⟩
    rw [Option.isSome_iff_ne_none]
    intro hnone
    rw [FramePool.refs_eq_zero hnone] at hrefs
    exact Nat.lt_irrefl 0 hrefs

/-- **The authority to write is never created.** In every reachable state, a page for user code lies
below the limit of user memory, and allows what a call may ask for: user code may use the page, it
is there, and no bit is set that is not for calls. And a frame that is shown somewhere, but through
no page that may be written, stays so whatever the kernel does, as long as there are references to
it. -/
theorem write_authority {config : Config} {frames : Nat} {k : Kernel}
    (h : Reachable config frames k) :
    (∀ s page e, k.machine.mapping? s page = some e → page * Layout.pageSize < Layout.userTop ∧
      e.perm.contains .user = true ∧ e.perm.contains .present = true ∧
      Perm.requestable.contains e.perm = true) ∧
    ∀ n, (∃ s page e, k.machine.mapping? s page = some e ∧ e.frame = n) → k.machine.Sealed n →
      ∀ k', Run (fun k op => 0 < (op.apply k).machine.frames.refs n) k k' →
        k'.machine.Sealed n := by
  refine ⟨fun s page e he => ?_, fun n hshown hm k' hrun => ?_⟩
  · obtain ⟨huser, hin⟩ := Perm.isRequestable_iff.1 (h.permitted s page e he)
    exact ⟨h.sound.accounted.below s page e he, Perm.contains_trans huser rfl,
      Perm.contains_trans huser rfl, hin⟩
  · obtain ⟨s, page, e, he, rfl⟩ := hshown
    exact (hrun.seals h (h.sound.accounted.isSome_of_mapping? he) hm).2

/-- A program that maps its text elsewhere to read it, may not write it there either. -/
theorem write_authority_text : ∃ k k' : Kernel, Reachable { maxProcesses := 2 } 16 k ∧
    Run (fun k op => 0 < (op.apply k).machine.frames.refs 3) k k' ∧
    k.machine.frames.refs 3 = 1 ∧ k'.machine.frames.refs 3 = 2 ∧ k'.machine.Sealed 3 := by
  have hboot : Reachable { maxProcesses := 2 } 16 _ := .boot rfl (.refl _) rfl
  have hspawn := hboot.step
    (.spawn ⟨.ofNat Layout.textBase, [.readOnly (.ofNat Layout.textBase) [7]]⟩) trivial
  have hrun := hspawn.step (.schedule 0) rfl
  obtain ⟨-, hkeeps⟩ := write_authority hrun
  exact ⟨_, _, hrun, .step .refl (.trap 0 { (TrapFrame.initial 0).withCall (Syscall.pageMap .self
      (.ofNat Layout.textBase) .self ⟨0x10000⟩ .userRead).encode with
      trapno := TrapNumber.syscall }) trivial (by decide +kernel), by decide +kernel,
    by decide +kernel,
    hkeeps 3 (Machine.mem_shownFrames_iff.1 (by decide +kernel)) (by decide +kernel) _
      (.step .refl _ trivial (by decide +kernel))⟩

end Exokernel
