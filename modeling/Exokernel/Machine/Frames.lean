/-
Physical memory: a pool of page frames with their contents and reference counts.

* `FrameSlot`, `FramePool`: the frames, and the free ones in the order in which they are given out;
* `FramePool.alloc?`: gives out a frame that nobody refers to. Its contents are what they were when
  it was last in use;
* `FramePool.retain`, `FramePool.release`: count a reference up and down; a frame whose last
  reference goes is free again;
* `FramePool.write`, `FramePool.read`: the contents of a frame that is in use. A frame that is not
  in use holds nothing and takes nothing;
* `FramePool.refs_retain`, `FramePool.refs_write`: what these do to the references.
-/
import Exokernel.Machine.Page

namespace Exokernel

open Layout

/-- One frame of physical memory. -/
structure FrameSlot where
  /-- The frame is in use. -/
  allocated : Bool := false
  /-- How many references there are to it. -/
  refs : Nat := 0
  /-- What it holds. -/
  page : Page := .zero
  deriving Inhabited

/-- Physical memory. -/
structure FramePool where
  slots : Array FrameSlot
  /-- The numbers of the free frames, the next to be given out first. -/
  free : List Nat

namespace FramePool

/-- A pool of `count` free frames, to be given out from number zero up. -/
def ofCount (count : Nat) : FramePool :=
  ⟨Array.replicate count {}, List.range count⟩

/-- The frame with number `n`, if it is in use. -/
def allocated? (pool : FramePool) (n : Nat) : Option FrameSlot :=
  pool.slots[n]?.filter (·.allocated)

/-- Changes the frame with number `n` if it is in use. -/
def modify (pool : FramePool) (n : Nat) (f : FrameSlot → FrameSlot) : FramePool :=
  { pool with slots := pool.slots.modify n fun slot => if slot.allocated then f slot else slot }

/-- What a change of one frame does to every frame, if it leaves the frame in use. -/
theorem allocated?_modify (pool : FramePool) (n : Nat) (f : FrameSlot → FrameSlot)
    (hf : ∀ slot, slot.allocated = true → (f slot).allocated = true) (k : Nat) :
    (pool.modify n f).allocated? k =
      if n = k then (pool.allocated? k).map f else pool.allocated? k := by
  simp only [allocated?, modify, Array.getElem?_modify]
  split
  · cases pool.slots[k]? with
    | none => rfl
    | some slot =>
      by_cases h : slot.allocated = true
      · simp [Option.filter, h, hf slot h]
      · simp [Option.filter, h]
  · rfl

/-! ### Giving out and taking back -/

/-- Gives out the next free frame, without references. -/
def alloc? (pool : FramePool) : Option (Nat × FramePool) :=
  match pool.free with
  | [] => none
  | n :: rest =>
    some (n, { slots := pool.slots.modify n fun slot => { slot with allocated := true, refs := 0 }
               free := rest })

/-- Takes a frame back that is in use, whatever refers to it. -/
def reclaim (pool : FramePool) (n : Nat) : FramePool :=
  match pool.allocated? n with
  | none => pool
  | some _ =>
    { slots := pool.slots.modify n fun slot => { slot with allocated := false, refs := 0 }
      free := n :: pool.free }

/-- The number of references to a frame; a frame that is not in use has none. -/
def refs (pool : FramePool) (n : Nat) : Nat :=
  match pool.allocated? n with
  | none => 0
  | some slot => slot.refs

/-- Takes a frame back if nothing refers to it. -/
def discard (pool : FramePool) (n : Nat) : FramePool :=
  if pool.refs n = 0 then pool.reclaim n else pool

/-- Counts a reference to a frame that is in use. -/
def retain (pool : FramePool) (n : Nat) : FramePool :=
  pool.modify n fun slot => { slot with refs := slot.refs + 1 }

theorem allocated?_retain (pool : FramePool) (n k : Nat) :
    (pool.retain n).allocated? k =
      if n = k then (pool.allocated? k).map (fun slot => { slot with refs := slot.refs + 1 })
      else pool.allocated? k := by
  rw [retain, allocated?_modify]
  exact fun _ h => h

theorem refs_retain (pool : FramePool) (n k : Nat) :
    (pool.retain n).refs k =
      if n = k ∧ (pool.allocated? k).isSome then pool.refs k + 1 else pool.refs k := by
  simp only [refs, allocated?_retain]
  by_cases h : n = k <;> cases pool.allocated? k <;> simp [h]

/-- Counts a reference less, and takes the frame back if there is none left. -/
def release (pool : FramePool) (n : Nat) : FramePool :=
  let pool := pool.modify n fun slot => { slot with refs := slot.refs - 1 }
  pool.discard n

/-- Takes back one reference to each of the frames, one after the other. -/
def releaseAll (pool : FramePool) (ns : List Nat) : FramePool :=
  ns.foldl release pool

/-- Gives out a frame with one reference. -/
def allocOwned? (pool : FramePool) : Option (Nat × FramePool) :=
  pool.alloc?.map fun (n, pool) => (n, pool.retain n)

/-! ### Contents -/

/-- What a frame in use holds. -/
def page? (pool : FramePool) (n : Nat) : Option Page :=
  (pool.allocated? n).map (·.page)

/-- Replaces the bytes of a frame from place `start` on, as far as the frame reaches. -/
def write (pool : FramePool) (n start : Nat) (data : List UInt8) : FramePool :=
  pool.modify n fun slot => { slot with page := slot.page.write start data }

/-- Fills a frame with zeros. -/
def clear (pool : FramePool) (n : Nat) : FramePool :=
  pool.modify n fun slot => { slot with page := .zero }

theorem allocated?_write (pool : FramePool) (n start : Nat) (data : List UInt8) (k : Nat) :
    (pool.write n start data).allocated? k =
      if n = k then
        (pool.allocated? k).map (fun slot => { slot with page := slot.page.write start data })
      else pool.allocated? k := by
  rw [write, allocated?_modify]
  exact fun _ h => h

theorem allocated?_clear (pool : FramePool) (n k : Nat) :
    (pool.clear n).allocated? k =
      if n = k then (pool.allocated? k).map (fun slot => { slot with page := .zero })
      else pool.allocated? k := by
  rw [clear, allocated?_modify]
  exact fun _ h => h

/-- Contents do not matter to the counting of references. -/
theorem refs_write (pool : FramePool) (n start : Nat) (data : List UInt8) (k : Nat) :
    (pool.write n start data).refs k = pool.refs k := by
  simp only [refs, allocated?_write]
  by_cases h : n = k <;> cases pool.allocated? k <;> simp [h]

/-- `len` bytes of a frame from place `start` on. What the frame does not hold reads as
`absent`. -/
def read (pool : FramePool) (n start len : Nat) (absent : UInt8) : List UInt8 :=
  match pool.page? n with
  | none => List.replicate len absent
  | some page => (List.range len).map fun i => (page.byte? (start + i)).getD absent

end FramePool

end Exokernel
