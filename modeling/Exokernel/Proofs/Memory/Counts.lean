/-
What showing a page does to the counts of references.

* `FramePool.refs_release`, `FramePool.release_retain`: a reference that is counted and given back
  leaves no trace;
* `Accounted.refs_map`: a frame that is shown is counted once more, and one that it replaces once
  less;
* `Machine.Hands`, `Accounted.hands`: **a frame that is handed over** is shown at one page more, and
  nothing else changes but that a page table may be taken for it.
-/
import Exokernel.Proofs.Memory.Allowances

namespace Exokernel

open Layout

namespace FramePool

variable {pool pool' : FramePool} {n k : Nat}

lemma refs_alloc?_of_ne (h : pool.alloc? = some (n, pool')) (hne : n ≠ k) :
    pool'.refs k = pool.refs k := by
  rw [refs, refs, allocated?_alloc? h, if_neg hne]

/-- A frame without references that is taken back had none before. -/
lemma refs_discard : (pool.discard n).refs k = pool.refs k := by
  rw [discard]
  split
  · next hzero =>
    rcases hall : pool.allocated? n with _ | slot
    · rw [reclaim_of_none hall]
    · obtain ⟨-, heach⟩ := reclaim_of_isSome (n := n) (by rw [hall]; rfl)
      by_cases hk : n = k
      · rw [← hk, hzero, refs, heach, if_pos rfl]
      · rw [refs, heach, if_neg hk, refs]
  · rfl

/-- A reference that is given back is one less. -/
lemma refs_release : (pool.release n).refs k = if n = k then pool.refs k - 1 else pool.refs k := by
  have heach := allocated?_modify pool n (fun slot => { slot with refs := slot.refs - 1 })
    (fun _ h => h) k
  rw [release, refs_discard, refs, heach, refs]
  by_cases hk : n = k
  · rw [if_pos hk, if_pos hk]
    cases pool.allocated? k <;> rfl
  · rw [if_neg hk, if_neg hk]

/-- **A reference that is counted and given back** leaves no trace. -/
lemma release_retain (h : 0 < pool.refs n) : (pool.retain n).release n = pool := by
  have hslots :
      (pool.retain n).modify n (fun slot => { slot with refs := slot.refs - 1 }) = pool := by
    obtain ⟨slots, free⟩ := pool
    rw [retain, modify, modify, mk.injEq]
    refine ⟨Array.ext_getElem? fun i => ?_, rfl⟩
    rw [Array.getElem?_modify, Array.getElem?_modify]
    split
    · cases slots[i]? with
      | none => rfl
      | some slot =>
        obtain ⟨allocated, refs, page⟩ := slot
        cases allocated <;> rfl
    · rfl
  rw [release, hslots, discard, if_neg (Nat.ne_of_gt h)]

end FramePool

namespace Machine

variable {m m' : Machine} {s n frame : Nat} {va : VirtAddr} {perm : Perm} {kept loose : List Nat}

/-- A frame that some page shows has a reference. -/
lemma Accounted.refs_pos (h : m.Accounted kept loose) (hn : n ∈ m.shownFrames) :
    0 < m.frames.refs n := by
  rw [h.ledger.backs.refs_eq]
  exact List.count_pos_iff.2 (List.mem_append_left _ (List.mem_append_right _ hn))

/-- A frame that was kept and let go again. -/
lemma Accounted.release_retain (h : m.Accounted kept loose) (hn : n ∈ m.shownFrames) :
    (m.retain n).release n = m := by
  rw [Machine.retain, Machine.release]
  dsimp only
  rw [FramePool.release_retain (h.refs_pos hn)]

/-- A page table is taken for no frame that was in use. -/
lemma Accounted.refs_ensureTable (h : m.Accounted kept loose) (hens : m.ensureTable s va = .ok m')
    (hin : (m.frames.allocated? n).isSome) : m'.frames.refs n = m.frames.refs n := by
  obtain ⟨a, ha, rfl | ⟨t, frames, -, hall, rfl⟩⟩ := ensureTable_cases hens
  · rfl
  · obtain ⟨pool, hone, rfl⟩ := allocOwned?_cases hall
    have hne : t ≠ n := by
      rintro rfl
      exact h.ledger.backs.not_mem_free hin (FramePool.free_of_alloc? hone ▸ List.mem_cons_self)
    refine Eq.trans ?_ (FramePool.refs_alloc?_of_ne hone hne)
    exact (FramePool.refs_retain ..).trans (if_neg fun hc => hne hc.1)

/-- How often one page shows a frame. -/
def showing (e : Option Mapping) (n : Nat) : Nat := if e.any (·.frame = n) then 1 else 0

/-- **A frame that is shown** is counted once more, and one that it replaces once less. -/
lemma Accounted.refs_map (h : m.Accounted kept loose) (hm : m.map s frame va perm = .ok m')
    (hin : (m.frames.allocated? n).isSome) :
    m'.frames.refs n + showing (m.mapping? s va.page) n =
      m.frames.refs n + if frame = n then 1 else 0 := by
  obtain ⟨-, m₁, hens, rfl⟩ := map_cases hm
  obtain ⟨a, ha⟩ := space?_ensureTable hens
  have hin₁ := isSome_ensureTable hens hin
  have hpos : ∀ e, m.mapping? s va.page = some e → 0 < m.frames.refs e.frame := fun e he =>
    h.refs_pos (mem_shownFrames_iff.2 ⟨s, _, e, he, rfl⟩)
  have hold : a.pages.find? va.page = m.mapping? s va.page :=
    (mapping?_of_space? ha _).symm.trans (mapping?_ensureTable hens s _)
  rw [setPage_eq ha, ← h.refs_ensureTable hens hin, hold]
  change (Machine.exchange m₁.frames frame (m.mapping? s va.page)).refs n + _ = _
  have hretain : (m₁.frames.retain frame).refs n =
      m₁.frames.refs n + if frame = n then 1 else 0 := by
    rw [FramePool.refs_retain]
    simp only [hin₁, and_true]
    split <;> rfl
  cases he : m.mapping? s va.page with
  | none => exact hretain
  | some e =>
    rw [Machine.exchange, FramePool.refs_release, hretain, showing, Option.any_some]
    simp only [decide_eq_true_eq]
    split
    · next heq =>
      subst heq
      have hcount := hpos e he
      rw [← h.refs_ensureTable hens hin] at hcount
      omega
    · rfl

/-- **A frame is handed over**: what address space `s` shows at the page of `src`, comes to be shown
by address space `t` at the page of `dst` with permissions `perm`. That counts as a reference, and
the one of the page that was there before is gone. Nothing else changes, but that a page table may
be taken. -/
structure Hands (m : Machine) (s : Nat) (src : VirtAddr) (t : Nat) (dst : VirtAddr) (perm : Perm)
    (m' : Machine) : Prop where
  mapping : ∃ e, m.mapping? s src.page = some e ∧ ∀ s' page, m'.mapping? s' page =
    if t = s' ∧ dst.page = page then some ⟨e.frame, perm⟩ else m.mapping? s' page
  refs : ∀ n, (m.frames.allocated? n).isSome →
    m'.frames.refs n + showing (m.mapping? t dst.page) n =
      m.frames.refs n + showing (m.mapping? s src.page) n
  /-- A frame that was not in use is a page table now, if it is in use. -/
  fresh : ∀ n, m.frames.allocated? n = none →
    m'.frames.refs n = if n ∈ m'.tableFrames then 1 else 0
  contents : ∀ n, m'.frames.contents? n = m.frames.contents? n

/-- Nothing matters but frames, address spaces and windows. -/
lemma Hands.congr {m'' : Machine} {src dst : VirtAddr} {t : Nat} (h : m.Hands s src t dst perm m')
    (hf : m''.frames = m'.frames) (hs : m''.spaces = m'.spaces) (hw : m''.windows = m'.windows) :
    m.Hands s src t dst perm m'' := by
  obtain ⟨frames, spaces, windows, _, _, _, _⟩ := m'
  obtain ⟨frames'', spaces'', windows'', _, _, _, _⟩ := m''
  obtain rfl : frames'' = frames := hf
  obtain rfl : spaces'' = spaces := hs
  obtain rfl : windows'' = windows := hw
  exact ⟨h.mapping, h.refs, h.fresh, h.contents⟩

/-- **A frame that is kept while it is shown elsewhere** is handed over. -/
lemma Accounted.hands (h : m.Accounted kept []) {t : Nat} {src dst : VirtAddr} {e : Mapping}
    (he : m.mapping? s src.page = some e) (hf : m.Offers e.frame perm)
    (hm : (m.retain e.frame).map t e.frame dst perm = .ok m') :
    m.Hands s src t dst perm (m'.release e.frame) := by
  have hmapping : ∀ s' page, (m'.release e.frame).mapping? s' page =
      if t = s' ∧ dst.page = page then some ⟨e.frame, perm⟩ else m.mapping? s' page :=
    fun s' page => by
      rw [← Perm.or_present hf.requestable]
      exact mapping?_map hm s' page
  have hin := h.isSome_of_mapping? he
  have hremap : Remap t m (m'.release e.frame) := .mapKept hf hm
  refine ⟨⟨e, he, hmapping⟩, fun n hn => ?_, fun n hn => ?_, hremap.contents?⟩
  · -- the reference that keeps the frame comes and goes
    have hcount := (h.retain hin).refs_map hm (FramePool.isSome_allocated?_retain.trans hn)
    have hkept : (m.retain e.frame).frames.refs n =
        m.frames.refs n + if e.frame = n then 1 else 0 := by
      refine (FramePool.refs_retain ..).trans ?_
      simp only [hn, and_true]
      split <;> rfl
    have hlet : (m'.release e.frame).frames.refs n =
        if e.frame = n then m'.frames.refs n - 1 else m'.frames.refs n := FramePool.refs_release
    have hsource : showing (m.mapping? s src.page) n = if e.frame = n then 1 else 0 := by
      rw [he, showing, Option.any_some]
      simp only [decide_eq_true_eq]
    have htarget : showing ((m.retain e.frame).mapping? t dst.page) n =
        showing (m.mapping? t dst.page) n := rfl
    have hle : showing (m.mapping? t dst.page) n ≤ 1 := by
      rw [showing]
      split <;> omega
    rw [hkept, htarget] at hcount
    rw [hlet, hsource]
    by_cases heq : e.frame = n
    · simp only [if_pos heq] at hcount ⊢
      omega
    · simp only [if_neg heq] at hcount ⊢
      omega
  · have hm' := hremap.accounted h
    have hnot : n ∉ (m'.release e.frame).shownFrames := fun hmem => by
      obtain ⟨s', page, e', he', rfl⟩ := mem_shownFrames_iff.1 hmem
      have hused : (m.frames.allocated? e'.frame).isSome := by
        rw [hmapping] at he'
        split at he'
        · cases he'
          exact hin
        · exact h.isSome_of_mapping? he'
      rw [hn] at hused
      cases hused
    -- what is kept was in use before
    have hkept : n ∉ kept := fun hmem => by
      have hused := h.ledger.backs.isSome_of_mem (List.mem_append_right _ hmem)
      rw [hn] at hused
      cases hused
    rw [hm'.ledger.backs.refs_eq, List.count_append, List.count_append,
      List.count_eq_zero.2 hnot, List.count_eq_zero.2 hkept, Nat.add_zero,
      hm'.ledger.nodup.count]

end Machine

end Exokernel
