/-
When there are frames enough.

* `Machine.freeFrames_release`, `Machine.freeFrames_setPage`: pages that are shown and hidden take
  no free frame;
* `Machine.Provided`: frames for so many pages, and for a page table if there is none;
* `Provided.ensureTable`, `Provided.mapZeroed`: **what is provided for succeeds**;
* `Machine.map_of_hasTable`: so does what needs no frame.
-/
import Exokernel.Proofs.PageTables

namespace Exokernel

open Layout

namespace FramePool

variable {pool pool' : FramePool} {n : Nat}

/-- A frame that is given up is no free frame less. -/
lemma length_free_release : pool.free.length ≤ (pool.release n).free.length := by
  rw [release, discard]
  split
  · rw [reclaim]
    split
    · exact Nat.le_refl _
    · exact Nat.le_succ _
  · exact Nat.le_refl _

/-- A free frame can be given out, and is one less. -/
lemma alloc?_of_pos (h : 0 < pool.free.length) : ∃ n pool', pool.alloc? = some (n, pool') ∧
    pool.free.length = pool'.free.length + 1 := by
  obtain ⟨n, rest, hfree⟩ := List.exists_cons_of_length_pos h
  refine ⟨n, _, by rw [alloc?, hfree], ?_⟩
  rw [hfree]
  rfl

end FramePool

/-- Writing through the pages takes no free frame. -/
lemma free_writePieces {ε : Type} (frameOf : Nat → Except ε Nat) (ps : List Piece)
    (data : List UInt8) (pool : FramePool) :
    (writePieces frameOf ps data pool).2.free = pool.free := by
  induction ps generalizing data pool with
  | nil => rfl
  | cons p ps ih =>
    rw [writePieces]
    split
    · rfl
    · exact ih _ _

/-- Neither does it refer to a frame. -/
lemma refs_writePieces {ε : Type} (frameOf : Nat → Except ε Nat) (ps : List Piece)
    (data : List UInt8) (pool : FramePool) (n : Nat) :
    (writePieces frameOf ps data pool).2.refs n = pool.refs n := by
  induction ps generalizing data pool with
  | nil => rfl
  | cons p ps ih =>
    rw [writePieces]
    split
    · rfl
    · exact (ih _ _).trans (FramePool.refs_write ..)

namespace Machine

variable {m m' : Machine} {s n k page : Nat} {va : VirtAddr} {perm : Perm}

lemma freeFrames_release : m.freeFrames ≤ (m.release n).freeFrames :=
  FramePool.length_free_release

/-- Neither user code nor the kernel takes a frame by writing. -/
lemma freeFrames_userWrite {data : List UInt8} :
    (m.userWrite s va data).2.freeFrames = m.freeFrames :=
  congrArg List.length (free_writePieces (m.userFrame s true va) _ data m.frames)

lemma freeFrames_copyOut {data : List UInt8} :
    (m.copyOut s va data).2.freeFrames = m.freeFrames :=
  congrArg List.length (free_writePieces (m.mappedFrame s va) _ data m.frames)

/-- A page that is shown takes no frame. -/
lemma freeFrames_setPage : m.freeFrames ≤ (m.setPage s n va perm).freeFrames := by
  cases ha : m.space? s with
  | none => exact Nat.le_of_eq (by rw [setPage, ha])
  | some a =>
    have hexchange : ∀ old : Option Mapping,
        m.frames.free.length ≤ (exchange m.frames n old).free.length := fun old => by
      cases old with
      | none => exact Nat.le_refl _
      | some old =>
        have hrelease : (m.frames.retain n).free.length ≤
            ((m.frames.retain n).release old.frame).free.length := FramePool.length_free_release
        exact hrelease
    rw [setPage_eq ha]
    exact hexchange _

/-- Nor does one that is hidden. -/
lemma freeFrames_unmap : m.freeFrames ≤ (m.unmap s va).freeFrames := by
  rw [unmap]
  split
  · exact Nat.le_refl _
  · split
    · exact Nat.le_refl _
    · exact FramePool.length_free_release

/-- A page with a page table can be shown. -/
lemma map_of_hasTable (h : m.HasTable s va.page) (hlt : va.toNat < userTop) :
    m.map s n va perm = .ok (m.setPage s n va perm) := by
  obtain ⟨a, ha, htable⟩ := h
  rw [tablePlace_page] at htable
  obtain ⟨table, htable⟩ := Option.isSome_iff_exists.1 htable
  rw [map, if_neg (Nat.not_le.2 hlt), ensureTable, ha]
  dsimp only
  rw [htable]

/-- Page tables stay, and no free frame is taken. -/
structure Spares (m m' : Machine) : Prop where
  tables : ∀ s page, m.HasTable s page → m'.HasTable s page
  free : m.freeFrames ≤ m'.freeFrames

namespace Spares

lemma trans {m'' : Machine} (h : m.Spares m') (h' : m'.Spares m'') : m.Spares m'' :=
  ⟨fun s page htable => h'.tables s page (h.tables s page htable), Nat.le_trans h.free h'.free⟩

lemma of_same (hspaces : m'.spaces = m.spaces) (hfree : m.freeFrames ≤ m'.freeFrames) :
    m.Spares m' :=
  ⟨fun _ _ htable => htable.congr hspaces, hfree⟩

/-- A page that is shown at another page as well takes nothing. -/
lemma share : m.Spares (((m.retain n).setPage s n va perm).release n) := by
  have hfree : m.freeFrames ≤ ((m.retain n).setPage s n va perm).freeFrames :=
    freeFrames_setPage (m := m.retain n)
  refine ⟨fun t page htable => ?_, Nat.le_trans hfree freeFrames_release⟩
  have hretained : (m.retain n).HasTable t page := htable.congr rfl
  exact hretained.setPage.congr rfl

lemma unmap : m.Spares (m.unmap s va) := ⟨fun _ _ htable => htable.unmap, freeFrames_unmap⟩

end Spares

/-- **Frames for `k` pages**, and for the page table of `page` if there is none. -/
def Provided (m : Machine) (s page k : Nat) : Prop :=
  m.HasTable s page ∧ k ≤ m.freeFrames ∨ (m.space? s).isSome ∧ k + 1 ≤ m.freeFrames

namespace Provided

lemma le_freeFrames (h : m.Provided s page k) : k ≤ m.freeFrames := by
  rcases h with ⟨-, hfree⟩ | ⟨-, hfree⟩
  · exact hfree
  · exact Nat.le_of_succ_le hfree

/-- What is provided for is so with more frames as well. -/
lemma mono (h : m.Provided s page k) (hspaces : m'.spaces = m.spaces)
    (hfree : m.freeFrames ≤ m'.freeFrames) : m'.Provided s page k := by
  rcases h with ⟨htable, hk⟩ | ⟨hspace, hk⟩
  · exact .inl ⟨htable.congr hspaces, Nat.le_trans hk hfree⟩
  · refine .inr ⟨?_, Nat.le_trans hk hfree⟩
    rwa [space?, hspaces]

/-- Frames for more pages are frames for fewer. -/
lemma anti {j : Nat} (h : m.Provided s page k) (hle : j ≤ k) : m.Provided s page j := by
  rcases h with ⟨htable, hk⟩ | ⟨hspace, hk⟩
  · exact .inl ⟨htable, Nat.le_trans hle hk⟩
  · exact .inr ⟨hspace, Nat.le_trans (Nat.succ_le_succ hle) hk⟩

/-- **A page table can be made sure of**, and the frames for the pages are still there. -/
lemma ensureTable (h : m.Provided s va.page k) :
    ∃ m', m.ensureTable s va = .ok m' ∧ k ≤ m'.freeFrames := by
  obtain ⟨a, ha⟩ : ∃ a, m.space? s = some a := by
    rcases h with ⟨⟨a, ha, -⟩, -⟩ | ⟨hspace, -⟩
    · exact ⟨a, ha⟩
    · exact Option.isSome_iff_exists.1 hspace
  rw [Machine.ensureTable, ha]
  dsimp only
  cases htable : a.tables.find? (va.toNat / tableSpan) with
  | some table => exact ⟨m, rfl, h.le_freeFrames⟩
  | none =>
    have hfree : k + 1 ≤ m.freeFrames := by
      rcases h with ⟨⟨a', ha', hsome⟩, -⟩ | ⟨-, hfree⟩
      · rw [ha, Option.some.injEq] at ha'
        rw [← ha', tablePlace_page, htable] at hsome
        cases hsome
      · exact hfree
    obtain ⟨n, pool, hall, hlength⟩ := FramePool.alloc?_of_pos (Nat.lt_of_lt_of_le
      (Nat.succ_pos k) hfree)
    have howned : m.frames.allocOwned? = some (n, pool.retain n) := by
      rw [FramePool.allocOwned?, hall]
      rfl
    refine ⟨_, by rw [allocOwned, howned], ?_⟩
    change k ≤ pool.free.length
    rw [freeFrames, hlength] at hfree
    exact Nat.le_of_succ_le_succ hfree

/-- **A fresh page that is provided for** succeeds, and the frames for the other pages are still
there. -/
lemma mapZeroed (h : m.Provided s va.page (k + 1)) (hlt : va.toNat < userTop) :
    (m.mapZeroed s va perm).1 = .ok () ∧ k ≤ (m.mapZeroed s va perm).2.freeFrames := by
  obtain ⟨n, pool, hall, hlength⟩ := FramePool.alloc?_of_pos (Nat.lt_of_lt_of_le
    (Nat.succ_pos k) h.le_freeFrames)
  have hprovided : ({ m with frames := pool.clear n } : Machine).Provided s va.page k := by
    have hfree : m.freeFrames = ({ m with frames := pool.clear n } : Machine).freeFrames + 1 :=
      hlength
    rcases h with ⟨htable, hk⟩ | ⟨hspace, hk⟩
    · exact .inl ⟨htable.congr rfl, by omega⟩
    · exact .inr ⟨hspace, by omega⟩
  obtain ⟨m', hens, hk⟩ := hprovided.ensureTable
  have hmap : Machine.map (Machine.clear { m with frames := pool } n) s n va perm =
      .ok (m'.setPage s n va perm) := by
    have hens' : Machine.ensureTable (Machine.clear { m with frames := pool } n) s va = .ok m' :=
      hens
    rw [Machine.map, if_neg (Nat.not_le.2 hlt), hens']
  rw [Machine.mapZeroed, allocFrame, hall]
  dsimp only
  rw [hmap]
  exact ⟨rfl, Nat.le_trans hk freeFrames_setPage⟩

end Provided

end Machine

end Exokernel
