/-
What comes of it when the numbers of address spaces come round.

As long as no number is given out that is in use, address spaces are kept apart. But nobody looks
whether it is.

* `Kernel.Roomy`: there is a slot and a frame for one more process;
* `Kernel.Spends`, `Separate.spends`: **a process that is made and destroyed at once** spends a
  number, and the others stay as they are;
* `Kernel.Collided`, `Early.collides`: so **two processes come to share an address space**, sooner
  or later.
-/
import Exokernel.Proofs.Alterations
import Exokernel.Proofs.Endings
import Exokernel.Proofs.Spawning

namespace Exokernel

namespace Kernel

variable {k : Kernel} {slot d : Nat} {p : Process}

/-- There is a slot and a frame for one more process. -/
structure Roomy (k : Kernel) : Prop where
  slot : k.table.free ≠ []
  frame : k.machine.frames.free ≠ []

lemma Roomy.allocateAs (h : k.Roomy) : ∃ id k', k.allocateAs .self .runnable = .ok (id, k') := by
  obtain ⟨slot, rest, hslots⟩ := List.exists_cons_of_ne_nil h.slot
  obtain ⟨frame, more, hframes⟩ := List.exists_cons_of_ne_nil h.frame
  have hissue : k.issue? .self .runnable = some (slot, (k.table.lastId slot).next slot) := by
    rw [issue?_eq, FramePool.allocOwned?, FramePool.alloc?, hframes, hslots]
    rfl
  obtain ⟨⟨k', hmade⟩, -⟩ := allocateAs_of_issue? hissue
  exact ⟨_, k', hmade⟩

/-- **A process that is made** takes a slot that was free, and its address space the next number. -/
lemma Roomy.makes (h : k.Roomy) (hk : k.Sound) : ∃ (id : ProcessId) (k₁ : Kernel),
    k.machine.createSpace = .ok (k.machine.spaces.nextId.toNat, k₁.machine) ∧
    k₁.table.records[id.slot]? =
      some (embryo id .self .runnable k.machine.spaces.nextId.toNat) ∧
    (∀ (slot : Nat) (p : Process), k.table.records[slot]? = some p → p.status ≠ .free →
      id.slot ≠ slot ∧ k₁.table.records[slot]? = some p) ∧
    k₁.Quiet (Operation.apply k (.allocate .self)) := by
  obtain ⟨id, k₁, hmade⟩ := h.allocateAs
  obtain ⟨q, s, -, hq, hqs, -, hrecords, hcreate, -⟩ := allocateAs_places hk hmade
  have hlog : k₁.Quiet (Operation.apply k (.allocate .self)) := by
    rw [Operation.apply, allocate, hmade]
    exact quiet_log _ _
  obtain ⟨-, -, -, rfl, -⟩ := Machine.createSpace_cases hcreate
  refine ⟨id, k₁, hcreate, ?_, fun slot p hp hused => ?_, hlog⟩
  · rw [hrecords, ProcessTable.getElem?_modify, if_pos rfl, hq]
    rfl
  · have hne : id.slot ≠ slot := fun heq => by
      rw [← heq, hq] at hp
      cases hp
      exact hused hqs
    exact ⟨hne, by rw [hrecords, ProcessTable.getElem?_modify, if_neg hne, hp]⟩

/-- **A number is spent**: processes that are there stay as they are, and there is room for another
one. -/
structure Spends (k k' : Kernel) : Prop where
  number : k'.machine.spaces.nextId = k.machine.spaces.nextId + 1
  separate : k'.Separate k.machine.spaces.nextId
  roomy : k'.Roomy
  records : ∀ (slot : Nat) (p : Process), k.table.records[slot]? = some p → p.status ≠ .free →
    k'.table.records[slot]? = some p

/-- **A process that is made and destroyed at once** spends a number. -/
lemma Separate.spends (hs : k.Separate k.machine.spaces.nextId) (hk : k.Sound) (hroom : k.Roomy) :
    ∃ es k', History k es k' ∧ k.Spends k' := by
  obtain ⟨id, k₁, hcreate, hmade, hkept, hquiet⟩ := hroom.makes hk
  have hhist : History k [⟨k, .allocate .self⟩] (Operation.apply k (.allocate .self)) :=
    .snoc .nil (.allocate .self) trivial
  have hk₂ := (Operation.allocate .self).sound hk trivial
  have hs₂ := (Operation.allocate .self).separate hk trivial hs
  generalize Operation.apply k (.allocate .self) = k₂ at hquiet hhist hk₂ hs₂
  have hp : k₂.live? id = some (embryo id .self .runnable k.machine.spaces.nextId.toNat) :=
    live?_eq_some_iff.2 ⟨hquiet.records ▸ hmade, rfl, rfl⟩
  have hclears : k₂.Clears id (embryo id .self .runnable k.machine.spaces.nextId.toNat)
      (k₂.destroyOn 0 id).2 := destroyOn_clears hk₂ hp (.inl rfl)
  have hdestroy : Operation.apply k₂ (.destroy 0 id) = (k₂.destroyOn 0 id).2 := by
    rw [Operation.apply, destroy, hp]
  have hs₃ : (k₂.destroyOn 0 id).2.Separate k.machine.spaces.nextId :=
    hdestroy ▸ (Operation.destroy_moves hk₂ 0 id).separate hk₂ (fun _ hd => hd.numbered) hs₂
  -- the frames are those that were free before
  have hperm : (k₂.destroyOn 0 id).2.machine.frames.free.Perm k.machine.frames.free := by
    rw [hclears.frames, (vacated_congr hquiet.frames hquiet.spaces _).1]
    exact (hs.accounted.restored_works hcreate (hs.free rfl) .refl fun _ _ => rfl).free
  refine ⟨_, _, hhist.snoc (.destroy 0 id) trivial, ?_⟩
  rw [hdestroy]
  refine ⟨?_, hs₃, ⟨?_, fun hnone => hroom.frame ?_⟩, fun slot p hp hused => ?_⟩
  · obtain ⟨directory, pool, -, -, hmachine⟩ := Machine.createSpace_cases hcreate
    rw [hclears.spaces, nextId_vacated, hquiet.spaces, hmachine]
  · rw [hclears.free]
    exact List.cons_ne_nil _ _
  · exact List.nil_perm.1 (hnone ▸ hperm)
  · obtain ⟨hne, hsame⟩ := hkept slot p hp hused
    rw [hclears.records, ProcessTable.getElem?_modify, if_neg hne, hquiet.records, hsame]

/-- **Two processes share an address space.** -/
def Collided (k : Kernel) : Prop :=
  ∃ (slot slot' : Nat) (p p' : Process) (s : Nat), slot ≠ slot' ∧
    k.table.records[slot]? = some p ∧ k.table.records[slot']? = some p' ∧
    p.space = some s ∧ p'.space = some s

lemma Collided.not_separate (h : k.Collided) (n : UInt32) : ¬ k.Separate n := fun hs => by
  obtain ⟨slot, slot', p, p', s, hne, hp, hp', hspace, hspace'⟩ := h
  exact hne (hs.housed.unique slot slot' p p' s hp hp' hspace hspace')

/-- **A number that is given out while it is in use** makes two processes share an address space. -/
lemma Roomy.collided (hroom : k.Roomy) (hk : k.Sound) (hhoused : k.table.Housed k.machine)
    (hused : (k.machine.space? k.machine.spaces.nextId.toNat).isSome) :
    (Operation.apply k (.allocate .self)).Collided := by
  obtain ⟨slot, p, hp, hspace⟩ := hhoused.held _ hused
  obtain ⟨id, k₁, -, hmade, hkept, hquiet⟩ := hroom.makes hk
  obtain ⟨hne, hsame⟩ := hkept slot p hp
    ((hk.tables.sound slot p hp).space_iff.1 (by rw [hspace]; rfl))
  exact ⟨id.slot, slot, _, p, _, hne, hquiet.records ▸ hmade, hquiet.records ▸ hsame, rfl, hspace⟩

/-- One number after the other is spent, until one is in use. -/
lemma Separate.collides {config : Config} {frames s : Nat} {n : UInt32} (hs : k.Separate n)
    (hreach : Reachable config frames k) (hroom : k.Roomy)
    (hp : k.table.records[slot]? = some p) (hspace : p.space = some s)
    (hd : (k.machine.spaces.nextId.toNat + d) % UInt32.size = s) :
    ∃ es k', History k es k' ∧ k'.Collided := by
  induction d generalizing k n with
  | zero =>
    rw [Nat.add_zero, Nat.mod_eq_of_lt (UInt32.toNat_lt_size _)] at hd
    subst hd
    exact ⟨_, _, .snoc .nil (.allocate .self) trivial,
      hroom.collided hreach.sound hs.housed (hs.housed.exist slot p _ hp hspace)⟩
  | succ d ih =>
    cases hused : k.machine.space? k.machine.spaces.nextId.toNat with
    | some a =>
      exact ⟨_, _, .snoc .nil (.allocate .self) trivial,
        hroom.collided hreach.sound hs.housed (by rw [hused]; rfl)⟩
    | none =>
      have hfree : k.Separate k.machine.spaces.nextId := ⟨hs.housed, hs.accounted, fun _ => hused⟩
      obtain ⟨es, k₁, hhist, hspends⟩ := hfree.spends hreach.sound hroom
      have hd' : (k₁.machine.spaces.nextId.toNat + d) % UInt32.size = s := by
        rw [hspends.number, UInt32.toNat_add, UInt32.toNat_one, Nat.mod_add_mod, Nat.add_right_comm]
        exact hd
      have hnot : p.status ≠ .free :=
        (hreach.sound.tables.sound slot p hp).space_iff.1 (by rw [hspace]; rfl)
      obtain ⟨es', k', hrest, hcollided⟩ := ih hspends.separate (hhist.reachable hreach)
        hspends.roomy (hspends.records slot p hp hnot) hd'
      exact ⟨_, _, hhist.append hrest, hcollided⟩

end Kernel

/-- **The numbers of address spaces do come round.** Where a process has an address space, and there
is room for another process, so many can be made and destroyed again that in the end two of them
share an address space. -/
theorem Early.collides {config : Config} {frames : Nat} {k : Kernel} {id : ProcessId}
    {p : Process} (h : Early config frames k) (hroom : k.Roomy) (hp : k.live? id = some p) :
    ∃ es k', History k es k' ∧ k'.Collided := by
  have hreach := h.reachable
  obtain ⟨s, hs⟩ := Kernel.spaceOf?_of_live? hreach.sound hp
  obtain ⟨k₀, es, hk₀, hhist, hfew⟩ := h
  obtain ⟨hmade, hseparate⟩ := hhist.made hk₀ hfew
  obtain ⟨p, hp, hspace⟩ := Kernel.spaceOf?_eq_some_iff.1 hs
  obtain ⟨hrec, -, -⟩ := Kernel.live?_eq_some_iff.1 hp
  have hold : s < k.machine.spaces.nextId.toNat := by
    rw [hmade.next]
    exact Nat.lt_succ_of_le (hmade.used s (hseparate.isSome_space? hs))
  have hlast := UInt32.toNat_lt_size k.machine.spaces.nextId
  -- all numbers from the next one to the last, and from the first one to that of the process
  refine hseparate.collides (d := UInt32.size - k.machine.spaces.nextId.toNat + s) hreach hroom
    hrec hspace ?_
  rw [← Nat.add_assoc, Nat.add_sub_cancel' hlast.le, Nat.add_mod_left]
  exact Nat.mod_eq_of_lt (hold.trans hlast)

/-- So not every state is reached before the numbers come round: two slots are enough, and a program
in one of them. -/
theorem exists_not_early : ∃ k : Kernel, Reachable { maxProcesses := 2 } 16 k ∧ k.Collided ∧
    ¬ Early { maxProcesses := 2 } 16 k := by
  have hboot : Booted { maxProcesses := 2 } 16 _ := ⟨_, [0], rfl, .refl _, rfl⟩
  have hspawn := hboot.history.snoc (.spawn ⟨⟨0⟩, []⟩) trivial
  obtain ⟨k, hearly, hroom, hlive⟩ : ∃ k : Kernel, Early { maxProcesses := 2 } 16 k ∧
      k.Roomy ∧ (k.live? (ProcessId.self.next 0)).isSome :=
    ⟨_, hspawn.early hboot (by decide), ⟨by decide, by decide⟩, by decide⟩
  obtain ⟨p, hp⟩ := Option.isSome_iff_exists.1 hlive
  obtain ⟨es, k', hhist, hcollided⟩ := hearly.collides hroom hp
  exact ⟨k', hhist.reachable hearly.reachable, hcollided, fun h =>
    hcollided.not_separate _ h.separate⟩

end Exokernel
