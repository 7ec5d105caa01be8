/-
When the frames of a pool are accounted for.

* `FramePool.Backs`: the frames of a pool are accounted for by a list of references. A frame is in
  use exactly if it is referred to, or if it is one of the loose frames that somebody has in hand,
  its count is the number of references, and all others are free, each of them once;
* `FramePool.Ledger`: references told apart by what makes them. Frames that the kernel takes for its
  own tables are referred to once and shown nowhere, the others are shown at pages, and some are
  kept, for the while that they change hands or because nobody is left to give them back;
* `Ledger.take`, `Ledger.exhibit`, `Ledger.withdraw`, `Ledger.keep`, `Ledger.discard`,
  `Ledger.lose`: how the ledger changes with the operations.
-/
import Exokernel.Proofs.Memory.Pool

namespace Exokernel.FramePool

variable {pool pool' : FramePool} {n k : Nat}

/-! ### What a pool backs -/

/-- **A pool backs references** if the frames in use are the ones that are referred to and the ones
that are loose, counts are numbers of references, and every other frame is free once. -/
structure Backs (pool : FramePool) (refs loose : List Nat) : Prop where
  free_nodup : pool.free.Nodup
  mem_free_iff : ∀ n, n ∈ pool.free ↔ n < pool.slots.size ∧ pool.allocated? n = none
  refs_eq : ∀ n, pool.refs n = refs.count n
  used : ∀ n, (pool.allocated? n).isSome → n ∈ refs ∨ n ∈ loose

namespace Backs

variable {refs refs' loose : List Nat}

/-- The order of the references does not matter. -/
lemma perm (h : pool.Backs refs loose) (hp : refs.Perm refs') : pool.Backs refs' loose where
  free_nodup := h.free_nodup
  mem_free_iff := h.mem_free_iff
  refs_eq n := (h.refs_eq n).trans (hp.count_eq n)
  used n hn := (h.used n hn).imp_left hp.mem_iff.1

/-- What is referred to is in use. -/
lemma isSome_of_mem (h : pool.Backs refs loose) (hn : n ∈ refs) : (pool.allocated? n).isSome := by
  rcases hall : pool.allocated? n with _ | slot
  · have hzero := h.refs_eq n
    rw [refs_eq_zero hall] at hzero
    exact absurd (List.count_pos_iff.2 hn) (by omega)
  · rfl

/-- A frame that is in use is not free. -/
lemma not_mem_free (h : pool.Backs refs loose) (hn : (pool.allocated? n).isSome) :
    n ∉ pool.free := fun hmem => by
  rw [((h.mem_free_iff n).1 hmem).2] at hn
  cases hn

/-- A loose frame that is referred to need not be kept in mind. -/
lemma drop_loose (h : pool.Backs refs (n :: loose)) (hn : n ∈ refs) : pool.Backs refs loose where
  free_nodup := h.free_nodup
  mem_free_iff := h.mem_free_iff
  refs_eq := h.refs_eq
  used k hk := by
    rcases h.used k hk with hk | hk
    · exact .inl hk
    · rcases List.mem_cons.1 hk with rfl | hk
      · exact .inl hn
      · exact .inr hk

/-- A frame that is handed out is loose: nothing refers to it yet. -/
lemma alloc? (h : pool.Backs refs loose) (ha : pool.alloc? = some (n, pool')) :
    pool'.Backs refs (n :: loose) ∧ n ∉ refs ∧ (pool'.allocated? n).isSome := by
  have hfree := free_of_alloc? ha
  have hn : n < pool.slots.size ∧ pool.allocated? n = none :=
    (h.mem_free_iff n).1 (hfree ▸ List.mem_cons_self)
  have hslot : pool.slots[n]? = some pool.slots[n] := Array.getElem?_eq_getElem hn.1
  have hnodup := h.free_nodup
  rw [hfree, List.nodup_cons] at hnodup
  have hself : pool'.allocated? n = some { pool.slots[n] with allocated := true, refs := 0 } := by
    rw [allocated?_alloc? ha, if_pos rfl, hslot]
    rfl
  have hne : ∀ k, n ≠ k → pool'.allocated? k = pool.allocated? k := fun k hk => by
    rw [allocated?_alloc? ha, if_neg hk]
  have hzero : refs.count n = 0 := by rw [← h.refs_eq n, refs_eq_zero hn.2]
  refine ⟨⟨hnodup.2, fun k => ?_, fun k => ?_, fun k hk => ?_⟩, List.count_eq_zero.1 hzero, by
    rw [hself]; rfl⟩
  · by_cases hk : n = k
    · subst hk
      rw [hself]
      exact ⟨fun hmem => absurd hmem hnodup.1, fun hmem => (nomatch hmem.2)⟩
    · rw [hne k hk, size_alloc? ha, ← h.mem_free_iff k, hfree, List.mem_cons]
      exact ⟨.inr, fun hmem => hmem.resolve_left (Ne.symm hk)⟩
  · by_cases hk : n = k
    · subst hk
      rw [FramePool.refs, hself, hzero]
    · rw [FramePool.refs, hne k hk]
      exact h.refs_eq k
  · by_cases hk' : n = k
    · exact .inr (hk' ▸ List.mem_cons_self)
    · rw [hne k hk'] at hk
      exact (h.used k hk).imp_right (List.mem_cons_of_mem _)

/-- A reference that is counted is a reference more. -/
lemma retain (h : pool.Backs refs loose) (hn : (pool.allocated? n).isSome) :
    (pool.retain n).Backs (n :: refs) loose where
  free_nodup := h.free_nodup
  mem_free_iff k := by
    rw [free_retain, size_retain, ← Option.isNone_iff_eq_none, ← Option.not_isSome,
      isSome_allocated?_retain, Option.not_isSome, Option.isNone_iff_eq_none]
    exact h.mem_free_iff k
  refs_eq k := by
    rw [refs_retain, h.refs_eq k]
    by_cases hk : n = k
    · subst hk
      simp [hn]
    · rw [if_neg fun hc => hk hc.1, List.count_cons_of_ne hk]
  used k hk := by
    rw [isSome_allocated?_retain] at hk
    exact (h.used k hk).imp_left (List.mem_cons_of_mem _)

/-- A frame that is handed out with a reference. -/
lemma allocOwned? (h : pool.Backs refs loose) (ha : pool.allocOwned? = some (n, pool')) :
    pool'.Backs (n :: refs) loose ∧ n ∉ refs := by
  obtain ⟨⟨n', pool₁⟩, ha₁, heq⟩ := Option.map_eq_some_iff.1 ha
  cases heq
  obtain ⟨hback, hnot, hin⟩ := h.alloc? ha₁
  exact ⟨(hback.retain hin).drop_loose List.mem_cons_self, hnot⟩

/-- Taking back a frame that nothing refers to. -/
lemma reclaim (h : pool.Backs refs (n :: loose)) (hn : n ∉ refs) :
    (pool.reclaim n).Backs refs loose := by
  rcases hall : pool.allocated? n with _ | slot
  · rw [reclaim_of_none hall]
    refine ⟨h.free_nodup, h.mem_free_iff, h.refs_eq, fun k hk => ?_⟩
    have hne : k ≠ n := fun hkn => by rw [hkn, hall] at hk; cases hk
    exact (h.used k hk).imp_right fun hmem => (List.mem_cons.1 hmem).resolve_left hne
  · have hin : (pool.allocated? n).isSome := by rw [hall]; rfl
    obtain ⟨hfree, heach⟩ := reclaim_of_isSome hin
    obtain ⟨hslot, -⟩ := Option.filter_eq_some_iff.1 hall
    have hlt : n < pool.slots.size := (Array.getElem?_eq_some_iff.1 hslot).1
    refine ⟨?_, fun k => ?_, fun k => ?_, fun k hk => ?_⟩
    · rw [hfree]
      exact List.nodup_cons.2 ⟨h.not_mem_free hin, h.free_nodup⟩
    · rw [hfree, heach, size_reclaim, List.mem_cons]
      by_cases hk : n = k
      · subst hk
        simp [hlt]
      · rw [if_neg hk, ← h.mem_free_iff k]
        exact ⟨fun hmem => hmem.resolve_left (Ne.symm hk), .inr⟩
    · rw [FramePool.refs, heach]
      by_cases hk : n = k
      · subst hk
        rw [if_pos rfl, List.count_eq_zero.2 hn]
      · rw [if_neg hk]
        exact h.refs_eq k
    · rw [heach] at hk
      split at hk
      · cases hk
      · next hne =>
        exact (h.used k hk).imp_right fun hmem => (List.mem_cons.1 hmem).resolve_left (Ne.symm hne)

/-- A loose frame that is handed back if nothing refers to it. -/
lemma discard (h : pool.Backs refs (n :: loose)) : (pool.discard n).Backs refs loose := by
  rw [FramePool.discard]
  split
  · next hzero =>
    rw [h.refs_eq n] at hzero
    exact h.reclaim (List.count_eq_zero.1 hzero)
  · next hpos =>
    rw [h.refs_eq n] at hpos
    exact h.drop_loose (List.count_pos_iff.1 (Nat.pos_of_ne_zero hpos))

/-- A reference that is given back is a reference less. -/
lemma release (h : pool.Backs (n :: refs) loose) : (pool.release n).Backs refs loose := by
  have hin := h.isSome_of_mem List.mem_cons_self
  have heach : ∀ k, (pool.modify n fun slot => { slot with refs := slot.refs - 1 }).allocated? k =
      if n = k then (pool.allocated? k).map (fun slot => { slot with refs := slot.refs - 1 })
      else pool.allocated? k :=
    fun k => allocated?_modify pool n (fun slot => { slot with refs := slot.refs - 1 })
      (fun _ h => h) k
  have hsome : ∀ k, ((pool.modify n fun slot => { slot with refs := slot.refs - 1 }).allocated?
      k).isSome = (pool.allocated? k).isSome := fun k => isSome_modify fun _ h => h
  -- while the frame is being given back it is loose: it may have no reference left
  refine discard ⟨h.free_nodup, fun k => ?_, fun k => ?_, fun k hk => ?_⟩
  · rw [← Option.isNone_iff_eq_none, ← Option.not_isSome, hsome, Option.not_isSome,
      Option.isNone_iff_eq_none]
    exact (h.mem_free_iff k).trans (by rw [FramePool.modify, Array.size_modify])
  · have hk := h.refs_eq k
    rw [FramePool.refs] at hk ⊢
    rw [heach]
    by_cases hne : n = k
    · subst hne
      rw [if_pos rfl]
      obtain ⟨slot, hslot⟩ := Option.isSome_iff_exists.1 hin
      simp only [hslot, Option.map_some, List.count_cons_self] at hk ⊢
      omega
    · rw [if_neg hne, ← List.count_cons_of_ne hne]
      exact hk
  · rw [hsome] at hk
    rcases h.used k hk with hk | hk
    · rcases List.mem_cons.1 hk with rfl | hk
      · exact .inr List.mem_cons_self
      · exact .inl hk
    · exact .inr (List.mem_cons_of_mem _ hk)

/-- References that are given back one after the other. -/
lemma releaseAll {ns : List Nat} (h : pool.Backs (ns ++ refs) loose) :
    (pool.releaseAll ns).Backs refs loose := by
  induction ns generalizing pool with
  | nil => exact h
  | cons n ns ih => exact ih (release h)

/-- A change of contents is none to the accounts. -/
lemma modify {f : FrameSlot → FrameSlot} (h : pool.Backs refs loose)
    (hin : ∀ slot, slot.allocated = true → (f slot).allocated = true)
    (hrefs : ∀ slot, (f slot).refs = slot.refs) : (pool.modify n f).Backs refs loose := by
  have heach := allocated?_modify pool n f hin
  have hsome : ∀ k, ((pool.modify n f).allocated? k).isSome = (pool.allocated? k).isSome :=
    fun k => isSome_modify hin
  refine ⟨h.free_nodup, fun k => ?_, fun k => ?_, fun k hk => h.used k (hsome k ▸ hk)⟩
  · rw [← Option.isNone_iff_eq_none, ← Option.not_isSome, hsome, Option.not_isSome,
      Option.isNone_iff_eq_none]
    exact (h.mem_free_iff k).trans (by rw [FramePool.modify, Array.size_modify])
  · rw [← h.refs_eq k, FramePool.refs, FramePool.refs, heach]
    by_cases hk : n = k
    · rw [if_pos hk]
      cases pool.allocated? k <;> simp [hrefs]
    · rw [if_neg hk]

lemma write (start : Nat) (data : List UInt8) (h : pool.Backs refs loose) :
    (pool.write n start data).Backs refs loose :=
  h.modify (fun _ h => h) fun _ => rfl

lemma clear (h : pool.Backs refs loose) : (pool.clear n).Backs refs loose :=
  h.modify (fun _ h => h) fun _ => rfl

end Backs

/-- A fresh pool backs nothing. -/
lemma backs_ofCount (count : Nat) : (ofCount count).Backs [] [] := by
  have hnone : ∀ n, (ofCount count).allocated? n = none := fun n => by
    simp only [ofCount, allocated?, Array.getElem?_replicate]
    split <;> rfl
  refine ⟨List.nodup_range, fun n => ?_, fun n => ?_, fun n hn => ?_⟩
  · rw [hnone, ofCount, List.mem_range, Array.size_replicate]
    exact ⟨fun hn => ⟨hn, rfl⟩, And.left⟩
  · rw [refs_eq_zero (hnone n), List.count_nil]
  · rw [hnone n] at hn
    cases hn

/-! ### What refers to frames -/

/-- **A ledger of the frames in use**: the frames that the kernel keeps its tables in, each of them
once and none of them shown anywhere, the frames that pages show, as often as they do, the frames
that are kept, and the loose ones. -/
structure Ledger (pool : FramePool) (tables shown kept loose : List Nat) : Prop where
  backs : pool.Backs (tables ++ shown ++ kept) loose
  nodup : tables.Nodup
  apart : ∀ n ∈ tables, n ∉ shown

namespace Ledger

variable {tables tables' shown shown' kept loose : List Nat}

lemma perm (h : pool.Ledger tables shown kept loose) (ht : tables.Perm tables')
    (hs : shown.Perm shown') : pool.Ledger tables' shown' kept loose where
  backs := h.backs.perm ((ht.append hs).append_right kept)
  nodup := ht.nodup_iff.1 h.nodup
  apart n hn hmem := h.apart n (ht.mem_iff.2 hn) (hs.mem_iff.2 hmem)

/-- What a page shows is in use. -/
lemma isSome_of_shown (h : pool.Ledger tables shown kept loose) (hn : n ∈ shown) :
    (pool.allocated? n).isSome :=
  h.backs.isSome_of_mem (List.mem_append_left _ (List.mem_append_right _ hn))

/-- A frame for a table of the kernel. -/
lemma take (h : pool.Ledger tables shown kept loose) (ha : pool.allocOwned? = some (n, pool')) :
    pool'.Ledger (n :: tables) shown kept loose := by
  obtain ⟨hback, hnot⟩ := h.backs.allocOwned? ha
  have hnotT : n ∉ tables := fun hn => hnot (List.mem_append_left _ (List.mem_append_left _ hn))
  have hnotS : n ∉ shown := fun hn => hnot (List.mem_append_left _ (List.mem_append_right _ hn))
  refine ⟨hback, List.nodup_cons.2 ⟨hnotT, h.nodup⟩, fun k hk hmem => ?_⟩
  rcases List.mem_cons.1 hk with rfl | hk
  · exact hnotS hmem
  · exact h.apart k hk hmem

/-- A frame that was handed out is loose, and no table is kept in it. -/
lemma alloc? (h : pool.Ledger tables shown kept loose) (ha : pool.alloc? = some (n, pool')) :
    pool'.Ledger tables shown kept (n :: loose) ∧ n ∉ tables ∧ (pool'.allocated? n).isSome := by
  obtain ⟨hback, hnot, hin⟩ := h.backs.alloc? ha
  exact ⟨⟨hback, h.nodup, h.apart⟩,
    fun hn => hnot (List.mem_append_left _ (List.mem_append_left _ hn)), hin⟩

/-- A page more shows a frame. -/
lemma exhibit (h : pool.Ledger tables shown kept loose) (hin : (pool.allocated? n).isSome)
    (hn : n ∉ tables) : (pool.retain n).Ledger tables (n :: shown) kept loose where
  backs := (h.backs.retain hin).perm (by
    rw [List.append_assoc, List.append_assoc]
    exact List.perm_middle.symm)
  nodup := h.nodup
  apart k hk hmem := by
    rcases List.mem_cons.1 hmem with rfl | hmem
    · exact hn hk
    · exact h.apart k hk hmem

/-- A loose frame that a page shows need not be kept in mind. -/
lemma settle (h : pool.Ledger tables shown kept (n :: loose)) (hn : n ∈ shown) :
    pool.Ledger tables shown kept loose :=
  ⟨h.backs.drop_loose (List.mem_append_left _ (List.mem_append_right _ hn)), h.nodup, h.apart⟩

/-- A page less shows a frame. -/
lemma withdraw (h : pool.Ledger tables (n :: shown) kept loose) :
    (pool.release n).Ledger tables shown kept loose where
  backs := (h.backs.perm (by
    rw [List.append_assoc, List.append_assoc]
    exact List.perm_middle)).release
  nodup := h.nodup
  apart k hk hmem := h.apart k hk (List.mem_cons_of_mem _ hmem)

/-- A frame is kept while it changes hands. -/
lemma keep (h : pool.Ledger tables shown kept loose) (hin : (pool.allocated? n).isSome) :
    (pool.retain n).Ledger tables shown (n :: kept) loose :=
  ⟨(h.backs.retain hin).perm List.perm_middle.symm, h.nodup, h.apart⟩

/-- A frame is kept no longer. -/
lemma letGo (h : pool.Ledger tables shown (n :: kept) loose) :
    (pool.release n).Ledger tables shown kept loose :=
  ⟨(h.backs.perm List.perm_middle).release, h.nodup, h.apart⟩

/-- The order of the references that are kept does not matter. -/
lemma perm_kept {kept' : List Nat} (h : pool.Ledger tables shown kept loose)
    (hp : kept.Perm kept') : pool.Ledger tables shown kept' loose :=
  ⟨h.backs.perm (hp.append_left _), h.nodup, h.apart⟩

/-- What some pages show and some tables take is lost: it stays counted, and nobody holds it. -/
lemma lose {ts ss : List Nat} (h : pool.Ledger (ts ++ tables) (ss ++ shown) kept loose) :
    pool.Ledger tables shown (ts ++ ss ++ kept) loose where
  backs := h.backs.perm (by
    rw [List.perm_iff_count]
    intro k
    simp only [List.count_append]
    omega)
  nodup := (List.nodup_append.1 h.nodup).2.1
  apart k hk hmem := h.apart k (List.mem_append_right _ hk) (List.mem_append_right _ hmem)

/-- Everything that some pages show and some tables take is given back. -/
lemma giveBack {ts ss : List Nat} (h : pool.Ledger (ts ++ tables) (ss ++ shown) kept loose) :
    (pool.releaseAll (ss ++ ts)).Ledger tables shown kept loose where
  backs := (h.backs.perm (by
    rw [List.perm_iff_count]
    intro k
    simp only [List.count_append]
    omega)).releaseAll
  nodup := (List.nodup_append.1 h.nodup).2.1
  apart k hk hmem := h.apart k (List.mem_append_right _ hk) (List.mem_append_right _ hmem)

/-- A loose frame is handed back unless somebody refers to it. -/
lemma discard (h : pool.Ledger tables shown kept (n :: loose)) :
    (pool.discard n).Ledger tables shown kept loose :=
  ⟨h.backs.discard, h.nodup, h.apart⟩

/-- Contents do not matter. -/
lemma write (start : Nat) (data : List UInt8) (h : pool.Ledger tables shown kept loose) :
    (pool.write n start data).Ledger tables shown kept loose :=
  ⟨h.backs.write start data, h.nodup, h.apart⟩

lemma clear (h : pool.Ledger tables shown kept loose) :
    (pool.clear n).Ledger tables shown kept loose :=
  ⟨h.backs.clear, h.nodup, h.apart⟩

end Ledger

end Exokernel.FramePool
