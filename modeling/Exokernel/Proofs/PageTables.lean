/-
Page tables are there.

* `Machine.HasTable`, `Machine.Tabled`: a page has a page table, and **every page that shows
  something** has one;
* `Tabled.map`, `Tabled.dismantle`, `Work.tabled`: what is done to memory leaves it so;
* `Move.tabled`, `Operation.tabled`, `Reachable.tabled`: and so is every state that the kernel
  reaches.
-/
import Exokernel.Proofs.Runs

namespace Exokernel

open Layout

namespace Machine

variable {m m' : Machine} {s t n frame page : Nat} {va : VirtAddr} {perm : Perm}
  {a b : AddressSpace}

/-- A page of an address space has a page table. -/
def HasTable (m : Machine) (s page : Nat) : Prop :=
  ∃ a, m.space? s = some a ∧ (a.tables.find? (page * pageSize / tableSpan)).isSome

/-- **Every page that shows something** has a page table. -/
def Tabled (m : Machine) : Prop :=
  ∀ s page e, m.mapping? s page = some e → m.HasTable s page

/-- The page table of an address is that of its page. -/
lemma tablePlace_page (va : VirtAddr) : va.page * pageSize / tableSpan = va.toNat / tableSpan := by
  have hpage : pageSize = 4096 := rfl
  have hspan : tableSpan = 4194304 := rfl
  rw [VirtAddr.page, hpage, hspan]
  omega

namespace HasTable

/-- Page tables belong to the address spaces. -/
lemma congr (h : m.HasTable s page) (hspaces : m'.spaces = m.spaces) : m'.HasTable s page := by
  obtain ⟨a, ha, htable⟩ := h
  refine ⟨a, ?_, htable⟩
  rwa [space?, hspaces]

/-- An address space that is replaced keeps its page tables. -/
lemma setSpace (h : m.HasTable t page) (ha : m.space? s = some a)
    (htables : ∀ place, (a.tables.find? place).isSome → (b.tables.find? place).isSome) :
    (m.setSpace s b).HasTable t page := by
  obtain ⟨a', ha', htable⟩ := h
  by_cases hs : s = t
  · subst hs
    rw [ha, Option.some.injEq] at ha'
    subst ha'
    exact ⟨b, by rw [space?_setSpace, if_pos rfl], htables _ htable⟩
  · exact ⟨a', by rw [space?_setSpace, if_neg hs, ha'], htable⟩

lemma ensureTable (h : m.HasTable t page) (hens : m.ensureTable s va = .ok m') :
    m'.HasTable t page := by
  obtain ⟨a, ha, rfl | ⟨table, frames, -, -, rfl⟩⟩ := ensureTable_cases hens
  · exact h
  · have hframes : { m with frames }.HasTable t page := h.congr rfl
    refine hframes.setSpace ha fun place hplace => ?_
    rw [SortedMap.find?_insert]
    split
    · rfl
    · exact hplace

lemma setPage (h : m.HasTable t page) : (m.setPage s frame va perm).HasTable t page := by
  cases ha : m.space? s with
  | none =>
    rw [Machine.setPage, ha]
    exact h
  | some a =>
    rw [setPage_eq ha]
    have hset := h.setSpace (b := { a with
      pages := a.pages.insert va.page ⟨frame, perm ||| .present⟩ }) ha fun _ h => h
    exact hset.congr rfl

lemma map (h : m.HasTable t page) (hm : m.map s frame va perm = .ok m') :
    m'.HasTable t page := by
  obtain ⟨-, m₁, hens, rfl⟩ := map_cases hm
  exact (h.ensureTable hens).setPage

lemma unmap (h : m.HasTable t page) : (m.unmap s va).HasTable t page := by
  rw [Machine.unmap]
  split
  · exact h
  · next a ha =>
    split
    · exact h
    · have hset := h.setSpace (b := { a with pages := a.pages.erase va.page }) ha fun _ h => h
      exact hset.congr rfl

end HasTable

/-- Once it was made sure of, a page table is there. -/
lemma hasTable_ensureTable (hens : m.ensureTable s va = .ok m') : m'.HasTable s va.page := by
  rw [HasTable, tablePlace_page]
  rw [ensureTable] at hens
  split at hens
  · cases hens
  · next a ha =>
    dsimp only at hens
    split at hens
    · next table htable =>
      cases hens
      exact ⟨a, ha, by rw [htable]; rfl⟩
    · next hnone =>
      split at hens
      · cases hens
      · cases hens
        refine ⟨_, by rw [space?_setSpace, if_pos rfl], ?_⟩
        rw [SortedMap.find?_insert, if_pos rfl]
        rfl

/-- A page that is shown has a page table. -/
lemma hasTable_map (hm : m.map s frame va perm = .ok m') : m'.HasTable s va.page := by
  obtain ⟨-, m₁, hens, rfl⟩ := map_cases hm
  exact (hasTable_ensureTable hens).setPage

/-! ### What is done to memory -/

namespace Tabled

lemma congr (h : m.Tabled) (hspaces : m'.spaces = m.spaces) : m'.Tabled := fun s page e he => by
  rw [mapping?, space?, hspaces] at he
  exact (h s page e he).congr hspaces

lemma map (h : m.Tabled) (hm : m.map s frame va perm = .ok m') : m'.Tabled := fun t page e he => by
  rw [mapping?_map hm] at he
  split at he
  · next hc =>
    obtain ⟨rfl, rfl⟩ := hc
    exact hasTable_map hm
  · exact (h t page e he).map hm

lemma unmap (h : m.Tabled) : (m.unmap s va).Tabled := fun t page e he => by
  rw [mapping?_unmap] at he
  split at he
  · cases he
  · exact (h t page e he).unmap

/-- An address space that is dismantled shows nothing any more. -/
lemma dismantle (h : m.Tabled) : (m.dismantle s).Tabled := by
  have hhidden : ((m.userPages s).foldl (fun m r => m.unmap s r.1) m).Tabled :=
    unmapAll_induct _ h fun _ _ hm => hm.unmap
  intro t page e he
  rw [Machine.dismantle, mapping?, space?_destroySpace] at he
  by_cases hs : s = t
  · rw [if_pos hs] at he
    cases he
  · rw [if_neg hs] at he
    obtain ⟨a, ha, htable⟩ := hhidden t page e he
    exact ⟨a, by rw [Machine.dismantle, space?_destroySpace, if_neg hs, ha], htable⟩

/-- A new address space shows nothing yet. -/
lemma createSpace (h : m.Tabled) (hc : m.createSpace = .ok (s, m')) : m'.Tabled := by
  obtain ⟨directory, frames, -, rfl, rfl⟩ := createSpace_cases hc
  have hspace : ∀ t, space? { m with frames, spaces :=
      ⟨m.spaces.spaces.insert m.spaces.nextId.toNat ⟨directory, .empty, .empty⟩,
        m.spaces.nextId + 1⟩ } t =
        if m.spaces.nextId.toNat = t then some ⟨directory, .empty, .empty⟩ else m.space? t :=
    fun t => SortedMap.find?_insert ..
  intro t page e he
  rw [mapping?, hspace] at he
  split at he
  · cases he
  · next hs =>
    obtain ⟨a, ha, htable⟩ := h t page e he
    exact ⟨a, by rw [hspace, if_neg hs, ha], htable⟩

lemma mapZeroed (h : m.Tabled) : (m.mapZeroed s va perm).2.Tabled := by
  rw [Machine.mapZeroed]
  split
  · exact h
  · next frame m₁ ha =>
    obtain ⟨frames, -, rfl⟩ := allocFrame_cases ha
    dsimp only
    split
    · exact h.congr rfl
    · next m₂ hm =>
      have hcleared : { m with frames := frames.clear frame }.Tabled := h.congr rfl
      exact hcleared.map hm

end Tabled

lemma Remap.tabled (h : Remap s m m') (hm : m.Tabled) : m'.Tabled := by
  cases h with
  | @mapKept m₁ frame va perm hf h =>
    have hretained : (m.retain frame).Tabled := hm.congr rfl
    exact (hretained.map h).congr rfl
  | kept hf => exact hm.congr rfl
  | unmap va => exact hm.unmap

lemma Work.tabled (h : Work s m m') (hm : m.Tabled) : m'.Tabled := by
  cases h with
  | widen he hperm h => exact hm.map h
  | fill va hperm => exact hm.mapZeroed
  | write va data => exact hm.congr rfl

lemma Works.tabled (h : Works s m m') (hm : m.Tabled) : m'.Tabled := by
  induction h with
  | refl => exact hm
  | tail _ h ih => exact h.tabled ih

end Machine

/-! ### What the kernel does -/

namespace Kernel

variable {k k' : Kernel} {d : Deed}

lemma Shows.tabled {s : Option Nat} {dst : Option VirtAddr} {m m' : Machine} (h : Shows s dst m m')
    (hm : m.Tabled) : m'.Tabled := by
  cases h with
  | nothing => exact hm
  | kept hf => exact hm.congr rfl
  | page hs hva hf h => exact (Machine.Remap.mapKept hf h).tabled hm

/-- **A move leaves a page table** for every page that shows something. -/
lemma Move.tabled (h : k.Move d k') (hm : k.machine.Tabled) : k'.machine.Tabled := by
  cases h with
  | quiet h => exact hm.congr h.spaces
  | await hp hf hres hrun =>
    rw [modify_unbind_eq hp hf hres]
    exact hm.congr rfl
  | unbind hp hres hrun =>
    rw [unbind_eq hp hres]
    exact hm.congr rfl
  | @clear _ id p hp hid hs h =>
    have hvacated : (vacated k.machine p.space).Tabled := by
      cases p.space with
      | none => exact hm
      | some s => exact hm.dismantle
    exact hvacated.congr h.spaces
  | make hcaller hs h =>
    obtain ⟨slot, rest, s, machine, -, hcreate, -, rfl⟩ := allocateAs_cases h
    exact hm.createSpace hcreate
  | remap hs h => exact h.tabled hm
  | work hs h => exact h.tabled hm
  | deliver hp hopen hmail h => exact h.tabled hm
  | edit | bind | doom => exact hm.congr rfl

end Kernel

/-- An operation leaves a page table for every page that shows something. -/
lemma Operation.tabled {k : Kernel} {op : Operation} (hk : k.Sound) (hlegal : op.Legal k)
    (hm : k.machine.Tabled) : (op.apply k).machine.Tabled :=
  op.induct (P := fun k₁ => k₁.machine.Tabled) hk hlegal hm
    (fun _ _ _ _ _ hm₁ hmove => hmove.tabled hm₁) (fun _ _ => hm.congr rfl)
    fun _ _ _ => hm.congr rfl

/-- **Every page of a reachable state** that shows something has a page table. -/
lemma Reachable.tabled {config : Config} {frames : Nat} {k : Kernel}
    (h : Reachable config frames k) : k.machine.Tabled := by
  induction h with
  | boot hcreate _ hboot =>
    intro s page e he
    rw [Kernel.mapping?_start hcreate hboot] at he
    cases he
  | step hreach op hlegal ih => exact op.tabled hreach.sound hlegal ih

end Exokernel
