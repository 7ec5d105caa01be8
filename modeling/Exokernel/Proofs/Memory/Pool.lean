/-
What the operations of physical memory do to every frame.

* `FramePool.contents?`: what a frame holds, in use or not. Nothing but a write and a clearing
  changes it (`contents?_alloc?`, `contents?_release` and their like);
* `allocated?_alloc?`, `reclaim_of_isSome`: which frames are in use after a frame was given out or
  taken back;
* `isSome_alloc?`, `isSome_modify`: what was in use stays in use.
-/
import Exokernel.Machine.Frames
import Exokernel.Proofs.SortedMap

namespace Exokernel.FramePool

variable {pool pool' : FramePool} {n k : Nat}

/-! ### Single operations, frame by frame -/

/-- What a frame holds, whether it is in use or not. -/
def contents? (pool : FramePool) (n : Nat) : Option Page := pool.slots[n]?.map (·.page)

lemma page?_of_allocated? {slot : FrameSlot} (h : pool.allocated? n = some slot) :
    pool.page? n = pool.contents? n := by
  obtain ⟨hslot, -⟩ := Option.filter_eq_some_iff.1 h
  rw [page?, h, contents?, hslot]

/-- A change of slots that leaves pages alone leaves contents alone. -/
lemma contents?_mk_modify (f : FrameSlot → FrameSlot) (free : List Nat)
    (hf : ∀ slot, (f slot).page = slot.page) :
    contents? ⟨pool.slots.modify n f, free⟩ k = pool.contents? k := by
  simp only [contents?, Array.getElem?_modify]
  split
  · simp [Function.comp_def, hf]
  · rfl

lemma refs_eq_zero (h : pool.allocated? n = none) : pool.refs n = 0 := by
  rw [refs, h]

/-- Handing out a frame takes the first of the free ones. -/
lemma free_of_alloc? (h : pool.alloc? = some (n, pool')) : pool.free = n :: pool'.free := by
  rw [alloc?] at h
  split at h
  · cases h
  · next first rest hfree =>
    cases h
    exact hfree

lemma contents?_alloc? (h : pool.alloc? = some (n, pool')) :
    pool'.contents? k = pool.contents? k := by
  rw [alloc?] at h
  split at h
  · cases h
  · cases h
    exact contents?_mk_modify _ _ fun _ => rfl

/-- A frame that was handed out is in use without references, and no other frame changes. -/
lemma allocated?_alloc? (h : pool.alloc? = some (n, pool')) :
    pool'.allocated? k =
      if n = k then pool.slots[k]?.map (fun slot => { slot with allocated := true, refs := 0 })
      else pool.allocated? k := by
  rw [alloc?] at h
  split at h
  · cases h
  · cases h
    simp only [allocated?, Array.getElem?_modify]
    split
    · cases pool.slots[k]? <;> rfl
    · rfl

/-- What was in use stays in use, and what is given out was not. -/
lemma isSome_alloc? (h : pool.alloc? = some (n, pool')) (hk : (pool.allocated? k).isSome) :
    (pool'.allocated? k).isSome := by
  rw [allocated?_alloc? h]
  split
  · obtain ⟨slot, hslot⟩ := Option.isSome_iff_exists.1 hk
    rw [(Option.filter_eq_some_iff.1 hslot).1]
    rfl
  · exact hk

lemma size_alloc? (h : pool.alloc? = some (n, pool')) : pool'.slots.size = pool.slots.size := by
  rw [alloc?] at h
  split at h
  · cases h
  · cases h
    exact Array.size_modify

lemma size_modify {f : FrameSlot → FrameSlot} :
    (pool.modify n f).slots.size = pool.slots.size :=
  Array.size_modify

@[simp] lemma free_retain : (pool.retain n).free = pool.free := rfl

@[simp] lemma size_retain : (pool.retain n).slots.size = pool.slots.size := Array.size_modify

/-- So does a change of frames in use that leaves their pages alone. -/
lemma contents?_modify_of_page {f : FrameSlot → FrameSlot}
    (hf : ∀ slot, (f slot).page = slot.page) :
    (pool.modify n f).contents? k = pool.contents? k :=
  contents?_mk_modify (fun slot => if slot.allocated then f slot else slot) _ fun slot => by
    split
    · exact hf slot
    · rfl

@[simp] lemma contents?_retain : (pool.retain n).contents? k = pool.contents? k :=
  contents?_modify_of_page fun _ => rfl

/-- A change of a frame that leaves it in use. -/
lemma isSome_modify {f : FrameSlot → FrameSlot}
    (hf : ∀ slot, slot.allocated = true → (f slot).allocated = true) :
    ((pool.modify n f).allocated? k).isSome = (pool.allocated? k).isSome := by
  rw [allocated?_modify pool n f hf]
  split <;> simp

lemma isSome_allocated?_retain :
    ((pool.retain n).allocated? k).isSome = (pool.allocated? k).isSome :=
  isSome_modify fun _ h => h

lemma isSome_allocated?_clear :
    ((pool.clear n).allocated? k).isSome = (pool.allocated? k).isSome :=
  isSome_modify fun _ h => h

lemma isSome_allocated?_write (start : Nat) (data : List UInt8) :
    ((pool.write n start data).allocated? k).isSome = (pool.allocated? k).isSome :=
  isSome_modify fun _ h => h

/-- Taking a frame back that is in use puts it in front of the free ones. -/
lemma reclaim_of_isSome (h : (pool.allocated? n).isSome) :
    (pool.reclaim n).free = n :: pool.free ∧
      ∀ k, (pool.reclaim n).allocated? k = if n = k then none else pool.allocated? k := by
  obtain ⟨slot, hslot⟩ := Option.isSome_iff_exists.1 h
  rw [reclaim, hslot]
  refine ⟨rfl, fun k => ?_⟩
  simp only [allocated?, Array.getElem?_modify]
  split
  · cases pool.slots[k]? <;> rfl
  · rfl

lemma reclaim_of_none (h : pool.allocated? n = none) : pool.reclaim n = pool := by
  rw [reclaim, h]

/-- A frame that is given up leaves all others in use. -/
lemma isSome_discard_of_ne (hne : n ≠ k) (hk : (pool.allocated? k).isSome) :
    ((pool.discard n).allocated? k).isSome := by
  rw [discard]
  split
  · cases hn : pool.allocated? n with
    | none => rwa [reclaim_of_none hn]
    | some slot => rwa [(reclaim_of_isSome (by rw [hn]; rfl)).2, if_neg hne]
  · exact hk

lemma isSome_release_of_ne (hne : n ≠ k) (hk : (pool.allocated? k).isSome) :
    ((pool.release n).allocated? k).isSome := by
  have hless :
      ((pool.modify n fun slot => { slot with refs := slot.refs - 1 }).allocated? k).isSome =
        (pool.allocated? k).isSome := isSome_modify fun _ h => h
  rw [release]
  exact isSome_discard_of_ne hne (hless.trans hk)

@[simp] lemma size_reclaim : (pool.reclaim n).slots.size = pool.slots.size := by
  rw [reclaim]
  split
  · rfl
  · exact Array.size_modify

@[simp] lemma contents?_reclaim : (pool.reclaim n).contents? k = pool.contents? k := by
  rw [reclaim]
  split
  · rfl
  · exact contents?_mk_modify _ _ fun _ => rfl

@[simp] lemma size_discard : (pool.discard n).slots.size = pool.slots.size := by
  rw [discard]
  split
  · exact size_reclaim
  · rfl

@[simp] lemma contents?_discard : (pool.discard n).contents? k = pool.contents? k := by
  rw [discard]
  split
  · exact contents?_reclaim
  · rfl

@[simp] lemma size_release : (pool.release n).slots.size = pool.slots.size :=
  size_discard.trans Array.size_modify

@[simp] lemma contents?_release : (pool.release n).contents? k = pool.contents? k :=
  contents?_discard.trans (contents?_modify_of_page fun _ => rfl)

@[simp] lemma contents?_releaseAll (ns : List Nat) :
    (pool.releaseAll ns).contents? k = pool.contents? k := by
  induction ns generalizing pool with
  | nil => rfl
  | cons n ns ih => exact (@ih (pool.release n)).trans contents?_release

@[simp] lemma size_releaseAll (ns : List Nat) :
    (pool.releaseAll ns).slots.size = pool.slots.size := by
  induction ns generalizing pool with
  | nil => rfl
  | cons n ns ih => exact (@ih (pool.release n)).trans size_release

lemma contents?_modify (f : FrameSlot → FrameSlot) :
    (pool.modify n f).contents? k =
      if n = k then
        pool.slots[k]?.map (fun slot => if slot.allocated then (f slot).page else slot.page)
      else pool.contents? k := by
  simp only [contents?, modify, Array.getElem?_modify]
  split
  · cases pool.slots[k]? with
    | none => rfl
    | some slot => simp only [Option.map_some]; split <;> rfl
  · rfl

/-- A write changes no other frame. -/
lemma contents?_write_of_ne (start : Nat) (data : List UInt8) (h : n ≠ k) :
    (pool.write n start data).contents? k = pool.contents? k := by
  rw [write, contents?_modify, if_neg h]

/-- A clearing changes no other frame. -/
lemma contents?_clear_of_ne (h : n ≠ k) : (pool.clear n).contents? k = pool.contents? k := by
  rw [clear, contents?_modify, if_neg h]

end Exokernel.FramePool
