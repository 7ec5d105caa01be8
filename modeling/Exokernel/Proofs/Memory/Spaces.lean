/-
What the operations of the machine do to address spaces.

* `Machine.mapping?`: what a page of an address space shows;
* `Machine.SameShape`: the same address spaces, windows and processors, whatever the pages show;
* `Machine.mapping?_map`, `Machine.mapping?_unmap`: a change of one page changes no other;
* `Machine.mapping?_dismantle`: an address space that is dismantled leaves the others alone;
* `Machine.contents?_map`, `Machine.contents?_dismantle`: none of this changes what a frame holds.
-/
import Exokernel.Machine
import Exokernel.Proofs.Memory.Pool

namespace Exokernel

open Layout

namespace Machine

variable {m m' : Machine} {s n frame : Nat} {va : VirtAddr} {perm : Perm} {a : AddressSpace}

/-- What page `page` of address space `s` shows. -/
def mapping? (m : Machine) (s page : Nat) : Option Mapping :=
  (m.space? s).bind (·.pages.find? page)

lemma lookup?_of_lt (h : va.toNat < userTop) : m.lookup? s va = m.mapping? s va.page := by
  rw [lookup?, if_neg (Nat.not_le.2 h)]
  rfl

/-- What is shown at an address that is given by its number. -/
lemma lookup?_ofNat {address : Nat} (h : address < userTop) :
    m.lookup? s (.ofNat address) = m.mapping? s (address / pageSize) := by
  have hcount : address < addressCount := Nat.lt_trans h (by decide)
  rw [lookup?_of_lt (by rwa [VirtAddr.toNat_ofNat_of_lt hcount]),
    VirtAddr.page_ofNat_of_lt hcount]

/-- What is shown at the beginning of a page. -/
lemma lookup?_ofNat_mul {page : Nat} (h : page * pageSize < userTop) :
    m.lookup? s (.ofNat (page * pageSize)) = m.mapping? s page := by
  rw [lookup?_ofNat h, Nat.mul_div_cancel _ (by decide)]

lemma lookup?_pageBase (h : va.toNat < userTop) :
    m.lookup? s va.pageBase = m.mapping? s va.page := by
  have hbase : va.pageBase.toNat < userTop := by
    rw [VirtAddr.toNat_pageBase]
    exact Nat.lt_of_le_of_lt (Nat.div_mul_le_self ..) h
  rw [lookup?_of_lt hbase, VirtAddr.page_pageBase]

/-- What shows something is there. -/
lemma isSome_space?_of_mapping? {page : Nat} {e : Mapping} (he : m.mapping? s page = some e) :
    (m.space? s).isSome := by
  obtain ⟨a, ha, -⟩ := Option.bind_eq_some_iff.1 he
  rw [ha]
  rfl

/-- What pages show depends on the address spaces only. -/
lemma mapping?_of_spaces {m' : Machine} (h : m'.spaces = m.spaces) (s page : Nat) :
    m'.mapping? s page = m.mapping? s page := by
  rw [mapping?, mapping?, space?, space?, h]

/-- What is shown anywhere, on the windows as well. -/
lemma lookup?_of_spaces {m' : Machine} (h : m'.spaces = m.spaces)
    (hwindows : m'.windows = m.windows) (s : Nat) (va : VirtAddr) :
    m'.lookup? s va = m.lookup? s va := by
  rw [lookup?, lookup?, space?, space?, h, hwindows]

/-! ### Address spaces that come and go -/

/-- The same frames, address spaces, windows and processors, whatever the pages show. -/
structure SameShape (m m' : Machine) : Prop where
  size : m'.frames.slots.size = m.frames.slots.size
  windows : m'.windows = m.windows
  processors : m'.processors = m.processors
  nextId : m'.spaces.nextId = m.spaces.nextId
  spaces : ∀ s, (m'.space? s).isSome = (m.space? s).isSome

namespace SameShape

lemma refl (m : Machine) : m.SameShape m := ⟨rfl, rfl, rfl, rfl, fun _ => rfl⟩

lemma trans {m'' : Machine} (h : m.SameShape m') (h' : m'.SameShape m'') : m.SameShape m'' :=
  ⟨h'.size.trans h.size, h'.windows.trans h.windows, h'.processors.trans h.processors,
    h'.nextId.trans h.nextId, fun s => (h'.spaces s).trans (h.spaces s)⟩

/-- Other frames, as many as there were. -/
lemma withFrames (h : m.SameShape m') {frames : FramePool}
    (hsize : frames.slots.size = m.frames.slots.size) : m.SameShape { m' with frames } :=
  ⟨hsize, h.windows, h.processors, h.nextId, h.spaces⟩

end SameShape

lemma space?_setSpace (s' : Nat) :
    (m.setSpace s a).space? s' = if s = s' then some a else m.space? s' :=
  SortedMap.find?_insert ..

lemma mapping?_setSpace (s' page : Nat) :
    (m.setSpace s a).mapping? s' page =
      if s = s' then a.pages.find? page else m.mapping? s' page := by
  rw [mapping?, space?_setSpace]
  split <;> rfl

lemma mapping?_of_space? (h : m.space? s = some a) (page : Nat) :
    m.mapping? s page = a.pages.find? page := by
  rw [mapping?, h]
  rfl

lemma sameShape_setSpace {b : AddressSpace} (h : m.space? s = some b) :
    m.SameShape (m.setSpace s a) := by
  refine ⟨rfl, rfl, rfl, rfl, fun s' => ?_⟩
  rw [space?_setSpace]
  split
  · next hs => rw [← hs, h]; rfl
  · rfl

/-! ### Page tables -/

/-- A page table that is there already costs nothing, and one that is not takes a frame. -/
lemma ensureTable_cases (h : m.ensureTable s va = .ok m') :
    ∃ a, m.space? s = some a ∧ (m' = m ∨ ∃ t frames,
      a.tables.find? (va.toNat / tableSpan) = none ∧ m.frames.allocOwned? = some (t, frames) ∧
      m' = { m with frames }.setSpace s
        { a with tables := a.tables.insert (va.toNat / tableSpan) t }) := by
  rw [ensureTable] at h
  split at h
  · cases h
  · next a ha =>
    refine ⟨a, ha, ?_⟩
    dsimp only at h
    split at h
    · cases h
      exact .inl rfl
    · next hnone =>
      rw [allocOwned] at h
      cases hall : m.frames.allocOwned? with
      | none =>
        rw [hall] at h
        cases h
      | some r =>
        rw [hall] at h
        cases h
        exact .inr ⟨r.1, r.2, hnone, rfl, rfl⟩

lemma allocOwned?_cases {pool pool' : FramePool} (h : pool.allocOwned? = some (n, pool')) :
    ∃ pool₁, pool.alloc? = some (n, pool₁) ∧ pool' = pool₁.retain n := by
  obtain ⟨⟨n', pool₁⟩, ha, heq⟩ := Option.map_eq_some_iff.1 h
  cases heq
  exact ⟨pool₁, ha, rfl⟩

section

variable {pool pool' : FramePool}

lemma size_allocOwned? (h : pool.allocOwned? = some (n, pool')) :
    pool'.slots.size = pool.slots.size := by
  obtain ⟨pool₁, hone, rfl⟩ := allocOwned?_cases h
  exact FramePool.size_retain.trans (FramePool.size_alloc? hone)

lemma contents?_allocOwned? (h : pool.allocOwned? = some (frame, pool')) :
    pool'.contents? n = pool.contents? n := by
  obtain ⟨pool₁, hone, rfl⟩ := allocOwned?_cases h
  exact FramePool.contents?_retain.trans (FramePool.contents?_alloc? hone)

/-- What was in use stays in use. -/
lemma isSome_allocOwned? (h : pool.allocOwned? = some (frame, pool'))
    (hn : (pool.allocated? n).isSome) : (pool'.allocated? n).isSome := by
  obtain ⟨pool₁, hone, rfl⟩ := allocOwned?_cases h
  exact FramePool.isSome_allocated?_retain.trans (FramePool.isSome_alloc? hone hn)

end

lemma mapping?_ensureTable (h : m.ensureTable s va = .ok m') (s' page : Nat) :
    m'.mapping? s' page = m.mapping? s' page := by
  obtain ⟨a, ha, rfl | ⟨t, frames, -, -, rfl⟩⟩ := ensureTable_cases h
  · rfl
  · rw [mapping?_setSpace]
    split
    · next hs => rw [← hs, mapping?_of_space? ha]
    · rfl

lemma sameShape_ensureTable (h : m.ensureTable s va = .ok m') : m.SameShape m' := by
  obtain ⟨a, ha, rfl | ⟨t, frames, -, hall, rfl⟩⟩ := ensureTable_cases h
  · exact .refl _
  · have hset : m.SameShape (m.setSpace s
        { a with tables := a.tables.insert (va.toNat / tableSpan) t }) := sameShape_setSpace ha
    exact hset.withFrames (size_allocOwned? hall)

lemma contents?_ensureTable (h : m.ensureTable s va = .ok m') (n : Nat) :
    m'.frames.contents? n = m.frames.contents? n := by
  obtain ⟨a, ha, rfl | ⟨t, frames, -, hall, rfl⟩⟩ := ensureTable_cases h
  · rfl
  · exact contents?_allocOwned? hall

/-- What was in use stays in use. -/
lemma isSome_ensureTable (h : m.ensureTable s va = .ok m') (hn : (m.frames.allocated? n).isSome) :
    (m'.frames.allocated? n).isSome := by
  obtain ⟨a, ha, rfl | ⟨t, frames, -, hall, rfl⟩⟩ := ensureTable_cases h
  · exact hn
  · exact isSome_allocOwned? hall hn

/-! ### Showing and hiding a page -/

/-- Showing a page needs an address below `Layout.userTop` and a page table. -/
lemma map_cases (h : m.map s frame va perm = .ok m') :
    va.toNat < userTop ∧ ∃ m₁, m.ensureTable s va = .ok m₁ ∧ m' = m₁.setPage s frame va perm := by
  rw [map] at h
  split at h
  · cases h
  · next hlt =>
    cases hens : m.ensureTable s va with
    | error e =>
      rw [hens] at h
      cases h
    | ok m₁ =>
      rw [hens] at h
      cases h
      exact ⟨Nat.not_le.1 hlt, m₁, rfl, rfl⟩

/-- The frames after a page was shown. -/
def exchange (pool : FramePool) (frame : Nat) : Option Mapping → FramePool
  | none => pool.retain frame
  | some old => (pool.retain frame).release old.frame

lemma setPage_eq (ha : m.space? s = some a) :
    m.setPage s frame va perm =
      { m.setSpace s { a with pages := a.pages.insert va.page ⟨frame, perm ||| .present⟩ } with
        frames := exchange m.frames frame (a.pages.find? va.page) } := by
  rw [setPage, ha]
  dsimp only
  cases a.pages.find? va.page <;> rfl

lemma space?_ensureTable (h : m.ensureTable s va = .ok m') : ∃ a, m'.space? s = some a := by
  obtain ⟨a, ha, -⟩ := ensureTable_cases h
  refine Option.isSome_iff_exists.1 ?_
  rw [(sameShape_ensureTable h).spaces, ha]
  rfl

lemma contents?_exchange (old : Option Mapping) (pool : FramePool) :
    (exchange pool frame old).contents? n = pool.contents? n := by
  cases old with
  | none => exact FramePool.contents?_retain
  | some old => exact FramePool.contents?_release.trans FramePool.contents?_retain

lemma size_exchange (old : Option Mapping) (pool : FramePool) :
    (exchange pool frame old).slots.size = pool.slots.size := by
  cases old with
  | none => exact FramePool.size_retain
  | some old => exact FramePool.size_release.trans FramePool.size_retain

/-- **A page that is shown** shows the frame, and every other page what it showed. -/
lemma mapping?_map (h : m.map s frame va perm = .ok m') (s' page : Nat) :
    m'.mapping? s' page =
      if s = s' ∧ va.page = page then some ⟨frame, perm ||| .present⟩ else m.mapping? s' page := by
  obtain ⟨-, m₁, hens, rfl⟩ := map_cases h
  obtain ⟨a, ha⟩ := space?_ensureTable hens
  rw [setPage_eq ha, ← mapping?_ensureTable hens]
  refine (mapping?_setSpace (m := m₁) s' page).trans ?_
  by_cases hs : s = s'
  · subst hs
    rw [if_pos rfl, mapping?_of_space? ha, SortedMap.find?_insert]
    simp only [true_and]
  · rw [if_neg hs, if_neg fun hc => hs hc.1]

lemma sameShape_map (h : m.map s frame va perm = .ok m') : m.SameShape m' := by
  obtain ⟨-, m₁, hens, rfl⟩ := map_cases h
  obtain ⟨a, ha⟩ := space?_ensureTable hens
  rw [setPage_eq ha]
  have hset : m₁.SameShape (m₁.setSpace s
    { a with pages := a.pages.insert va.page ⟨frame, perm ||| .present⟩ }) := sameShape_setSpace ha
  exact (sameShape_ensureTable hens).trans (hset.withFrames (size_exchange ..))

/-- Showing a page changes no contents. -/
lemma contents?_map (h : m.map s frame va perm = .ok m') (n : Nat) :
    m'.frames.contents? n = m.frames.contents? n := by
  obtain ⟨-, m₁, hens, rfl⟩ := map_cases h
  obtain ⟨a, ha⟩ := space?_ensureTable hens
  rw [setPage_eq ha, ← contents?_ensureTable hens]
  exact contents?_exchange ..

/-- **A page that is hidden** shows nothing, and every other page what it showed. -/
lemma mapping?_unmap (s' page : Nat) :
    (m.unmap s va).mapping? s' page =
      if s = s' ∧ va.page = page then none else m.mapping? s' page := by
  have hnone : m.mapping? s va.page = none → m.mapping? s' page =
      if s = s' ∧ va.page = page then none else m.mapping? s' page := fun h => by
    split
    · next hc => rw [← hc.1, ← hc.2, h]
    · rfl
  rw [unmap]
  split
  · next ha => exact hnone (by rw [mapping?, ha]; rfl)
  · next a ha =>
    split
    · next hp => exact hnone ((mapping?_of_space? ha _).trans hp)
    · refine (mapping?_setSpace (m := m) s' page).trans ?_
      by_cases hs : s = s'
      · subst hs
        rw [if_pos rfl, mapping?_of_space? ha, SortedMap.find?_erase]
        simp only [true_and]
      · rw [if_neg hs, if_neg fun hc => hs hc.1]

lemma sameShape_unmap : m.SameShape (m.unmap s va) := by
  rw [unmap]
  split
  · exact .refl _
  · next a ha =>
    split
    · exact .refl _
    · have h : m.SameShape (m.setSpace s { a with pages := a.pages.erase va.page }) :=
        sameShape_setSpace ha
      exact h.withFrames FramePool.size_release

lemma contents?_unmap (n : Nat) : (m.unmap s va).frames.contents? n = m.frames.contents? n := by
  rw [unmap]
  split
  · rfl
  · split
    · rfl
    · exact FramePool.contents?_release

/-! ### Address spaces as a whole -/

/-- A new address space takes a frame and the next number. -/
lemma createSpace_cases (h : m.createSpace = .ok (s, m')) :
    ∃ directory frames, m.frames.allocOwned? = some (directory, frames) ∧
      s = m.spaces.nextId.toNat ∧ m' = { m with
        frames
        spaces :=
          ⟨m.spaces.spaces.insert s ⟨directory, .empty, .empty⟩, m.spaces.nextId + 1⟩ } := by
  rw [createSpace, allocOwned] at h
  cases hall : m.frames.allocOwned? with
  | none =>
    rw [hall] at h
    cases h
  | some r =>
    rw [hall] at h
    cases h
    exact ⟨r.1, r.2, rfl, rfl, rfl⟩

/-- A new address space takes its place, whoever had it before. -/
lemma space?_createSpace (h : m.createSpace = .ok (s, m')) (s' : Nat) :
    (m'.space? s').isSome = if s = s' then true else (m.space? s').isSome := by
  obtain ⟨directory, frames, -, rfl, rfl⟩ := createSpace_cases h
  rw [space?, SortedMap.find?_insert]
  split <;> rfl

/-- It shows nothing, and no other page has changed. -/
lemma mapping?_createSpace (h : m.createSpace = .ok (s, m')) (s' page : Nat) :
    m'.mapping? s' page = if s = s' then none else m.mapping? s' page := by
  obtain ⟨directory, frames, -, rfl, rfl⟩ := createSpace_cases h
  rw [mapping?, space?, SortedMap.find?_insert]
  split <;> rfl

lemma space?_destroySpace (s' : Nat) :
    (m.destroySpace s).space? s' = if s = s' then none else m.space? s' := by
  rw [destroySpace]
  split
  · next ha =>
    split
    · next hs => rw [← hs, ha]
    · rfl
  · exact SortedMap.find?_erase ..

lemma contents?_destroySpace (n : Nat) :
    (m.destroySpace s).frames.contents? n = m.frames.contents? n := by
  rw [destroySpace]
  split
  · rfl
  · exact FramePool.contents?_releaseAll _

/-- What holds of a machine however often pages of one address space are hidden. -/
lemma unmapAll_induct {P : Machine → Prop} (pages : List (VirtAddr × Mapping)) (h : P m)
    (hstep : ∀ m va, P m → P (m.unmap s va)) :
    P (pages.foldl (fun m (va, _) => m.unmap s va) m) := by
  induction pages generalizing m with
  | nil => exact h
  | cons page pages ih => exact ih (hstep m page.1 h)

/-- **An address space that is dismantled** is gone, and no other has changed. -/
lemma space?_dismantle (s' : Nat) :
    ((m.dismantle s).space? s').isSome = if s = s' then false else (m.space? s').isSome := by
  have h : m.SameShape ((m.userPages s).foldl (fun m (va, _) => m.unmap s va) m) :=
    unmapAll_induct _ (.refl m) fun m₁ va h₁ => h₁.trans sameShape_unmap
  rw [dismantle, space?_destroySpace]
  split
  · rfl
  · exact h.spaces s'

lemma mapping?_dismantle (s' page : Nat) :
    (m.dismantle s).mapping? s' page = if s = s' then none else m.mapping? s' page := by
  have h : ∀ s', s ≠ s' → ((m.userPages s).foldl (fun m (va, _) => m.unmap s va) m).mapping? s'
      page = m.mapping? s' page := fun s' hs => by
    refine unmapAll_induct (P := fun m₁ => m₁.mapping? s' page = m.mapping? s' page) _ rfl
      fun m₁ va h₁ => ?_
    rw [mapping?_unmap, if_neg fun hc => hs hc.1, h₁]
  rw [dismantle, mapping?, space?_destroySpace]
  split
  · rfl
  · next hs => exact h s' hs

lemma size_dismantle : (m.dismantle s).frames.slots.size = m.frames.slots.size := by
  have h : m.SameShape ((m.userPages s).foldl (fun m (va, _) => m.unmap s va) m) :=
    unmapAll_induct _ (.refl m) fun m₁ va h₁ => h₁.trans sameShape_unmap
  rw [dismantle, destroySpace]
  split
  · exact h.size
  · exact (FramePool.size_releaseAll _).trans h.size

lemma nextId_dismantle : (m.dismantle s).spaces.nextId = m.spaces.nextId := by
  have h : m.SameShape ((m.userPages s).foldl (fun m (va, _) => m.unmap s va) m) :=
    unmapAll_induct _ (.refl m) fun m₁ va h₁ => h₁.trans sameShape_unmap
  rw [dismantle, destroySpace]
  split <;> exact h.nextId

lemma contents?_dismantle (n : Nat) :
    (m.dismantle s).frames.contents? n = m.frames.contents? n := by
  rw [dismantle, contents?_destroySpace]
  exact unmapAll_induct (P := fun m₁ => m₁.frames.contents? n = m.frames.contents? n) _ rfl
    fun m₁ va h₁ => (contents?_unmap n).trans h₁

/-- Nothing but memory matters to an address space that is dismantled, and nothing else changes. -/
lemma dismantle_withMemory (r m : Machine) :
    { r with frames := m.frames, spaces := m.spaces }.dismantle s =
      { r with frames := (m.dismantle s).frames, spaces := (m.dismantle s).spaces } := by
  have hunmap : ∀ (m : Machine) (va : VirtAddr),
      { r with frames := m.frames, spaces := m.spaces }.unmap s va =
        { r with
          frames := (m.unmap s va).frames
          spaces := (m.unmap s va).spaces } := fun m va => by
    simp only [unmap, space?]
    split
    · rfl
    · split <;> rfl
  have hfold : ∀ (pages : List (VirtAddr × Mapping)) (m : Machine),
      pages.foldl (fun m (va, _) => m.unmap s va)
          { r with frames := m.frames, spaces := m.spaces } =
        { r with
          frames := (pages.foldl (fun m (va, _) => m.unmap s va) m).frames
          spaces := (pages.foldl (fun m (va, _) => m.unmap s va) m).spaces } := fun pages => by
    induction pages with
    | nil => exact fun _ => rfl
    | cons page pages ih =>
      intro m
      simp only [List.foldl_cons, hunmap, ih]
  have hdestroy : ∀ m : Machine, { r with frames := m.frames, spaces := m.spaces }.destroySpace s =
      { r with frames := (m.destroySpace s).frames, spaces := (m.destroySpace s).spaces } :=
    fun m => by
      simp only [destroySpace, space?]
      split <;> rfl
  rw [dismantle, dismantle]
  change Machine.destroySpace
    ((m.userPages s).foldl _ { r with frames := m.frames, spaces := m.spaces }) s = _
  rw [hfold, hdestroy]

lemma windows_dismantle : (m.dismantle s).windows = m.windows :=
  congrArg (·.windows) (dismantle_withMemory (s := s) m m)

/-- The processors have loaded what they had. -/
lemma processors_dismantle : (m.dismantle s).processors = m.processors :=
  congrArg (·.processors) (dismantle_withMemory (s := s) m m)

end Machine

end Exokernel
