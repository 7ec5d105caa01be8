/-
The accounts of the machine: which frames are in use, and by what.

* `Machine.tableFrames`, `Machine.shownFrames`: the frames that the kernel keeps its tables in, and
  the frames that pages show, as often as they do;
* `Machine.Accounted`: the ledger of these frames is in order, and pages lie below
  `Layout.userTop`;
* `Accounted.map`, `Accounted.unmap`, `Accounted.createSpace`, `Accounted.dismantle`: every
  operation keeps the accounts in order;
* `Machine.lost`, `Accounted.settled`: the references that nobody will give back, because the
  address space that held them was replaced;
* `Machine.accounted_ofSize`: the accounts of a fresh machine are in order, and nothing is lost.
-/
import Mathlib.Data.List.Count
import Exokernel.Proofs.Memory.Ledger
import Exokernel.Proofs.Memory.Spaces
import Exokernel.Proofs.SortedMap

namespace Exokernel

open Layout

/-- The frames that the tables of an address space take. -/
def AddressSpace.owned (a : AddressSpace) : List Nat := a.tables.values ++ [a.directory]

namespace AddressSpace

variable {a : AddressSpace} {page frame : Nat} {perm : Perm}

/-- The frames that the pages of an address space show. -/
def shown (a : AddressSpace) : List Nat := a.pages.values.map (·.frame)

/-- The references that an address space holds. -/
def held (a : AddressSpace) : List Nat := a.owned ++ a.shown

/-- The frames that all pages but one show. -/
def shownOff (a : AddressSpace) (page : Nat) : List Nat :=
  (a.pages.erase page).values.map (·.frame)

lemma shown_perm_of_find? {e : Mapping} (h : a.pages.find? page = some e) :
    a.shown.Perm (e.frame :: a.shownOff page) :=
  (SortedMap.values_perm_of_find? h).map Mapping.frame

lemma shown_of_find?_none (h : a.pages.find? page = none) : a.shown = a.shownOff page := by
  rw [shownOff, SortedMap.erase_of_find?_none h]
  rfl

lemma shown_insert :
    (shown { a with pages := a.pages.insert page ⟨frame, perm⟩ }).Perm
      (frame :: a.shownOff page) :=
  SortedMap.values_insert_perm.map Mapping.frame

end AddressSpace

namespace Machine

variable {m m' : Machine} {s n frame : Nat} {va : VirtAddr} {perm : Perm} {a : AddressSpace}
  {kept loose : List Nat}

/-- The frames that the kernel keeps tables in: windows, page tables and page directories. -/
def tableFrames (m : Machine) : List Nat :=
  m.windows.values.map (·.frame) ++ m.spaces.spaces.values.flatMap AddressSpace.owned

/-- The frames that pages show, as often as they do. -/
def shownFrames (m : Machine) : List Nat := m.spaces.spaces.values.flatMap AddressSpace.shown

/-! ### One address space and the others -/

/-- The frames of tables of all address spaces but one, and those of the windows. -/
def tablesBut (m : Machine) (s : Nat) : List Nat :=
  m.windows.values.map (·.frame) ++ (m.spaces.spaces.erase s).values.flatMap AddressSpace.owned

/-- The frames that the pages of all address spaces but one show. -/
def shownBut (m : Machine) (s : Nat) : List Nat :=
  (m.spaces.spaces.erase s).values.flatMap AddressSpace.shown

lemma tableFrames_perm (h : m.space? s = some a) :
    m.tableFrames.Perm (a.owned ++ m.tablesBut s) :=
  ((SortedMap.flatMap_values_of_find? _ h).append_left _).trans (List.perm_append_comm_assoc ..)

lemma shownFrames_perm (h : m.space? s = some a) :
    m.shownFrames.Perm (a.shown ++ m.shownBut s) :=
  SortedMap.flatMap_values_of_find? _ h

lemma tableFrames_setSpace : (m.setSpace s a).tableFrames.Perm (a.owned ++ m.tablesBut s) :=
  ((SortedMap.flatMap_values_insert _).append_left _).trans (List.perm_append_comm_assoc ..)

lemma shownFrames_setSpace : (m.setSpace s a).shownFrames.Perm (a.shown ++ m.shownBut s) :=
  SortedMap.flatMap_values_insert _

lemma tablesBut_of_none (h : m.space? s = none) : m.tablesBut s = m.tableFrames := by
  rw [tablesBut, SortedMap.erase_of_find?_none h]
  rfl

lemma shownBut_of_none (h : m.space? s = none) : m.shownBut s = m.shownFrames := by
  rw [shownBut, SortedMap.erase_of_find?_none h]
  rfl

/-- A frame is shown exactly if some page shows it. -/
lemma mem_shownFrames_iff :
    n ∈ m.shownFrames ↔ ∃ s page e, m.mapping? s page = some e ∧ e.frame = n := by
  simp only [shownFrames, List.mem_flatMap, SortedMap.mem_values_iff, AddressSpace.shown,
    List.mem_map]
  constructor
  · rintro ⟨a, ⟨s, ha⟩, e, ⟨page, he⟩, rfl⟩
    exact ⟨s, page, e, (mapping?_of_space? ha page).trans he, rfl⟩
  · rintro ⟨s, page, e, he, rfl⟩
    obtain ⟨a, ha, hpage⟩ := Option.bind_eq_some_iff.1 he
    exact ⟨a, ⟨s, ha⟩, e, ⟨page, hpage⟩, rfl⟩

/-! ### Machines whose accounts are in order -/

/-- **The accounts are in order**: every frame in use is a table of the kernel, or shown at as many
pages as it has references, or one of those that are kept or loose just now. -/
structure Accounted (m : Machine) (kept loose : List Nat) : Prop where
  ledger : m.frames.Ledger m.tableFrames m.shownFrames kept loose
  below : ∀ s page e, m.mapping? s page = some e → page * pageSize < userTop

namespace Accounted

/-- Nothing matters but frames, address spaces and windows. -/
lemma congr (h : m.Accounted kept loose) (hf : m'.frames = m.frames)
    (hs : m'.spaces = m.spaces) (hw : m'.windows = m.windows) : m'.Accounted kept loose := by
  obtain ⟨frames, spaces, windows, _, _, _, _⟩ := m
  obtain ⟨frames', spaces', windows', _, _, _, _⟩ := m'
  obtain rfl : frames' = frames := hf
  obtain rfl : spaces' = spaces := hs
  obtain rfl : windows' = windows := hw
  exact ⟨h.ledger, h.below⟩

/-- A frame that some page shows is in use. -/
lemma isSome_of_mapping? (h : m.Accounted kept loose) {page : Nat} {e : Mapping}
    (he : m.mapping? s page = some e) : (m.frames.allocated? e.frame).isSome :=
  h.ledger.isSome_of_shown (mem_shownFrames_iff.2 ⟨s, page, e, he, rfl⟩)

/-- A frame that some page shows is no table. -/
lemma notMem_tableFrames (h : m.Accounted kept loose) {page : Nat} {e : Mapping}
    (he : m.mapping? s page = some e) : e.frame ∉ m.tableFrames := fun hmem =>
  h.ledger.apart _ hmem (mem_shownFrames_iff.2 ⟨s, page, e, he, rfl⟩)

/-- Other frames, with the same address spaces. -/
lemma withFrames {frames : FramePool} {kept' loose' : List Nat} (h : m.Accounted kept loose)
    (hl : frames.Ledger m.tableFrames m.shownFrames kept' loose') :
    { m with frames }.Accounted kept' loose' :=
  ⟨hl, h.below⟩

lemma retain (h : m.Accounted kept loose) (hin : (m.frames.allocated? n).isSome) :
    (m.retain n).Accounted (n :: kept) loose :=
  h.withFrames (h.ledger.keep hin)

lemma release (h : m.Accounted (n :: kept) loose) : (m.release n).Accounted kept loose :=
  h.withFrames h.ledger.letGo

lemma discard (h : m.Accounted kept (n :: loose)) : (m.discard n).Accounted kept loose :=
  h.withFrames h.ledger.discard

lemma clear (h : m.Accounted kept loose) : (m.clear n).Accounted kept loose :=
  h.withFrames h.ledger.clear

/-- A frame that was handed out is loose, and no table is kept in it. -/
lemma allocFrame (h : m.Accounted kept loose) (ha : m.allocFrame = .ok (n, m')) :
    m'.Accounted kept (n :: loose) ∧ n ∉ m'.tableFrames ∧ (m'.frames.allocated? n).isSome := by
  rw [Machine.allocFrame] at ha
  cases hall : m.frames.alloc? with
  | none =>
    rw [hall] at ha
    cases ha
  | some r =>
    rw [hall] at ha
    cases ha
    obtain ⟨hl, hnot, hin⟩ := h.ledger.alloc? hall
    exact ⟨h.withFrames hl, hnot, hin⟩

/-! ### Showing and hiding pages -/

/-- A page table takes a frame that was not in use. -/
lemma ensureTable (h : m.Accounted kept loose) (hens : m.ensureTable s va = .ok m') :
    m'.Accounted kept loose ∧
      ∀ n, (m.frames.allocated? n).isSome → n ∉ m.tableFrames → n ∉ m'.tableFrames := by
  have hmap := fun s' page => mapping?_ensureTable hens s' page
  have hbelow : ∀ s' page e, m'.mapping? s' page = some e → page * pageSize < userTop :=
    fun s' page e he => h.below s' page e (hmap s' page ▸ he)
  obtain ⟨a, ha, rfl | ⟨t, frames, hnone, hall, rfl⟩⟩ := ensureTable_cases hens
  · exact ⟨h, fun n _ hn => hn⟩
  · have ht : ({ m with frames }.setSpace s { a with
        tables := a.tables.insert (va.toNat / tableSpan) t }).tableFrames.Perm
        (t :: m.tableFrames) := by
      refine (tableFrames_setSpace (m := { m with frames })).trans ?_
      have hvalues : (a.tables.insert (va.toNat / tableSpan) t).values.Perm
          (t :: a.tables.values) := by
        have hins := SortedMap.values_insert_perm (m := a.tables) (k := va.toNat / tableSpan)
          (v := t)
        rwa [SortedMap.erase_of_find?_none hnone] at hins
      have howned : (AddressSpace.owned { a with
          tables := a.tables.insert (va.toNat / tableSpan) t }).Perm (t :: a.owned) :=
        hvalues.append_right [a.directory]
      exact (howned.append_right _).trans ((tableFrames_perm ha).symm.cons t)
    have hs : ({ m with frames }.setSpace s { a with
        tables := a.tables.insert (va.toNat / tableSpan) t }).shownFrames.Perm m.shownFrames :=
      (shownFrames_setSpace (m := { m with frames })).trans (shownFrames_perm ha).symm
    refine ⟨⟨(h.ledger.take hall).perm ht.symm hs.symm, hbelow⟩, fun n hin hn hmem => ?_⟩
    rcases List.mem_cons.1 (ht.mem_iff.1 hmem) with rfl | hmem
    · obtain ⟨pool₁, hone, -⟩ := allocOwned?_cases hall
      exact h.ledger.backs.not_mem_free hin (FramePool.free_of_alloc? hone ▸ List.mem_cons_self)
    · exact hn hmem

/-- What a page that is shown does to the ledger. -/
lemma exchange (h : m.Accounted kept loose) (ha : m.space? s = some a)
    (hin : (m.frames.allocated? frame).isSome) (hn : frame ∉ m.tableFrames) (page : Nat) :
    (exchange m.frames frame (a.pages.find? page)).Ledger m.tableFrames
      (frame :: a.shownOff page ++ m.shownBut s) kept loose := by
  have hledger := h.ledger.exhibit hin hn
  have hperm := (shownFrames_perm ha).cons frame
  cases hold : a.pages.find? page with
  | none =>
    rw [AddressSpace.shown_of_find?_none hold] at hperm
    exact hledger.perm (.refl _) hperm
  | some old =>
    have hswap : (frame :: m.shownFrames).Perm
        (old.frame :: (frame :: a.shownOff page ++ m.shownBut s)) :=
      (hperm.trans (((AddressSpace.shown_perm_of_find? hold).append_right _).cons frame)).trans
        (List.Perm.swap _ _ _)
    exact (hledger.perm (.refl _) hswap).withdraw

/-- **A page that is shown** keeps the accounts in order, if its frame is in use and no table. -/
lemma map (h : m.Accounted kept loose) (hin : (m.frames.allocated? frame).isSome)
    (hn : frame ∉ m.tableFrames) (hm : m.map s frame va perm = .ok m') :
    m'.Accounted kept loose ∧ frame ∈ m'.shownFrames := by
  have hmap := fun s' page => mapping?_map hm s' page
  obtain ⟨hlt, m₁, hens, rfl⟩ := map_cases hm
  obtain ⟨h₁, hnot⟩ := h.ensureTable hens
  obtain ⟨a, ha⟩ := space?_ensureTable hens
  have hin₁ := isSome_ensureTable hens hin
  have hledger := h₁.exchange ha hin₁ (hnot frame hin hn) va.page
  rw [setPage_eq ha] at hmap ⊢
  have ht : (m₁.setSpace s { a with
      pages := a.pages.insert va.page ⟨frame, perm ||| .present⟩ }).tableFrames.Perm
      m₁.tableFrames := tableFrames_setSpace.trans (tableFrames_perm ha).symm
  have hs : (m₁.setSpace s { a with
      pages := a.pages.insert va.page ⟨frame, perm ||| .present⟩ }).shownFrames.Perm
      (frame :: a.shownOff va.page ++ m₁.shownBut s) :=
    shownFrames_setSpace.trans (AddressSpace.shown_insert.append_right (m₁.shownBut s))
  refine ⟨⟨hledger.perm ht.symm hs.symm, fun s' page e he => ?_⟩, ?_⟩
  · rw [hmap] at he
    split at he
    · next hc =>
      rw [← hc.2]
      exact Nat.lt_of_le_of_lt (Nat.div_mul_le_self _ _) hlt
    · exact h.below s' page e he
  · exact hs.mem_iff.2 (List.mem_append_left _ List.mem_cons_self)

/-- **A page that is hidden** keeps the accounts in order. -/
lemma unmap (h : m.Accounted kept loose) : (m.unmap s va).Accounted kept loose := by
  have hmap : ∀ s' page, (m.unmap s va).mapping? s' page =
      if s = s' ∧ va.page = page then none else m.mapping? s' page := mapping?_unmap
  have hbelow : ∀ s' page e, (m.unmap s va).mapping? s' page = some e →
      page * pageSize < userTop := fun s' page e he => by
    rw [hmap] at he
    split at he
    · cases he
    · exact h.below s' page e he
  rw [Machine.unmap] at hbelow ⊢
  split
  · exact h
  · next a ha =>
    rw [ha] at hbelow
    dsimp only at hbelow ⊢
    split
    · exact h
    · next old hold =>
      rw [hold] at hbelow
      have ht : (m.setSpace s { a with pages := a.pages.erase va.page }).tableFrames.Perm
          m.tableFrames := tableFrames_setSpace.trans (tableFrames_perm ha).symm
      have hs : m.shownFrames.Perm (old.frame ::
          (m.setSpace s { a with pages := a.pages.erase va.page }).shownFrames) :=
        ((shownFrames_perm ha).trans
          ((AddressSpace.shown_perm_of_find? hold).append_right _)).trans
          ((shownFrames_setSpace (a := { a with pages := a.pages.erase va.page })).symm.cons _)
      exact ⟨(h.ledger.perm ht.symm hs).withdraw, hbelow⟩

/-! ### Address spaces -/

/-- **A new address space** keeps the accounts in order. If it takes the place of another, nobody
will give back what that one held. -/
lemma createSpace (h : m.Accounted kept loose) (hc : m.createSpace = .ok (s, m')) :
    m'.Accounted (((m.space? s).elim [] AddressSpace.held) ++ kept) loose := by
  have hmap := mapping?_createSpace hc
  obtain ⟨directory, frames, hall, rfl, rfl⟩ := createSpace_cases hc
  have ht := tableFrames_setSpace (m := m) (s := m.spaces.nextId.toNat)
    (a := ⟨directory, .empty, .empty⟩)
  have hs := shownFrames_setSpace (m := m) (s := m.spaces.nextId.toNat)
    (a := ⟨directory, .empty, .empty⟩)
  have hbut : m.frames.Ledger (m.tablesBut m.spaces.nextId.toNat)
      (m.shownBut m.spaces.nextId.toNat)
      ((m.space? m.spaces.nextId.toNat).elim [] AddressSpace.held ++ kept) loose := by
    cases ha : m.space? m.spaces.nextId.toNat with
    | none =>
      rw [tablesBut_of_none ha, shownBut_of_none ha]
      exact h.ledger
    | some a => exact (h.ledger.perm (tableFrames_perm ha) (shownFrames_perm ha)).lose
  refine ⟨(hbut.take hall).perm ht.symm hs.symm, fun s' page e he => ?_⟩
  · rw [hmap] at he
    split at he
    · cases he
    · exact h.below s' page e he

/-- Nothing is lost if its number is free. -/
lemma createSpace_of_free (h : m.Accounted kept loose) (hc : m.createSpace = .ok (s, m'))
    (hfree : m.space? s = none) : m'.Accounted kept loose := by
  have hmade := h.createSpace hc
  rwa [hfree] at hmade

/-- An address space that is removed gives back all its frames. -/
lemma destroySpace (h : m.Accounted kept loose) : (m.destroySpace s).Accounted kept loose := by
  have hspace := fun s' => space?_destroySpace (m := m) (s := s) s'
  have hsub : ∀ s' page e, (m.destroySpace s).mapping? s' page = some e →
      m.mapping? s' page = some e := fun s' page e he => by
    rw [mapping?, hspace] at he
    split at he
    · cases he
    · exact he
  have hbelow : ∀ s' page e, (m.destroySpace s).mapping? s' page = some e →
      page * pageSize < userTop := fun s' page e he => h.below s' page e (hsub s' page e he)
  rw [Machine.destroySpace] at hbelow ⊢
  split
  · exact h
  · next a ha =>
    rw [ha] at hbelow
    have hledger := (h.ledger.perm (tableFrames_perm ha) (shownFrames_perm ha)).giveBack
    rw [AddressSpace.owned, ← List.append_assoc] at hledger
    exact ⟨hledger, hbelow⟩

/-- **An address space that is dismantled** gives back all its frames. -/
lemma dismantle (h : m.Accounted kept loose) : (m.dismantle s).Accounted kept loose := by
  rw [Machine.dismantle]
  exact (unmapAll_induct (P := fun m₁ => m₁.Accounted kept loose) _ h
    fun m₁ va h₁ => h₁.unmap).destroySpace

/-! ### Contents and fresh pages -/

/-- Writing through some frames does not matter to the accounts. -/
lemma writePieces {ε : Type} {frameOf : Nat → Except ε Nat} (ps : List Piece) (data : List UInt8)
    (h : m.Accounted kept loose) :
    { m with frames := (Exokernel.writePieces frameOf ps data m.frames).2 }.Accounted kept
      loose := by
  refine h.withFrames ?_
  have hledger := h.ledger
  revert hledger
  generalize m.frames = pool
  induction ps generalizing data pool with
  | nil => exact id
  | cons p ps ih =>
    intro hledger
    rw [Exokernel.writePieces]
    split
    · exact hledger
    · exact ih _ _ (hledger.write _ _)

/-- A fresh page of zeros: if it finds no place, its frame is given back. -/
lemma mapZeroed (h : m.Accounted kept []) : (m.mapZeroed s va perm).2.Accounted kept [] := by
  rw [Machine.mapZeroed]
  split
  · exact h
  · next frame m₁ ha =>
    obtain ⟨h₁, hnot, hin⟩ := h.allocFrame ha
    dsimp only
    split
    · exact h₁.clear.discard
    · next m₂ hm =>
      obtain ⟨h₂, hmem⟩ := h₁.clear.map (FramePool.isSome_allocated?_clear.trans hin) hnot hm
      exact h₂.withFrames (h₂.ledger.settle hmem)

end Accounted

/-! ### What is lost -/

/-- All references to frames, as often as they are counted. -/
def references (m : Machine) : List Nat :=
  (List.range m.frames.slots.size).flatMap fun n => List.replicate (m.frames.refs n) n

/-- The references that nobody holds, neither a page nor the kernel for its tables. -/
def lost (m : Machine) : List Nat := m.references.diff (m.tableFrames ++ m.shownFrames)

lemma count_references (n : Nat) : m.references.count n = m.frames.refs n := by
  have hbelow : ∀ b,
      ((List.range b).flatMap fun k => List.replicate (m.frames.refs k) k).count n =
        if n < b then m.frames.refs n else 0 := fun b => by
    induction b with
    | zero => rfl
    | succ b ih =>
      rw [List.range_succ, List.flatMap_append, List.count_append, ih, List.flatMap_singleton,
        List.count_replicate]
      simp only [beq_iff_eq]
      split <;> split <;> split <;> first | omega | (subst_vars; omega)
  rw [references, hbelow]
  split
  · rfl
  · next hout =>
    refine (FramePool.refs_eq_zero ?_).symm
    rw [FramePool.allocated?, Array.getElem?_eq_none (Nat.not_lt.1 hout)]
    rfl

/-- **What is kept between two operations is lost.** -/
lemma Accounted.settled (h : m.Accounted kept []) : m.Accounted m.lost [] := by
  refine ⟨h.ledger.perm_kept (List.perm_iff_count.2 fun n => ?_), h.below⟩
  rw [lost, List.count_diff, count_references, h.ledger.backs.refs_eq, List.count_append,
    Nat.add_sub_cancel_left]

/-! ### A fresh machine -/

/-- A window that is opened takes a frame of the kernel's. -/
lemma ledger_openWindow {state : FramePool × SortedMap Mapping} {va : Nat}
    (h : state.1.Ledger (state.2.values.map Mapping.frame) [] [] [])
    (hnone : state.2.find? (va / pageSize) = none) :
    (openWindow state va).1.Ledger ((openWindow state va).2.values.map Mapping.frame) [] [] [] := by
  rw [openWindow]
  split
  · exact h
  · next n pool hall =>
    have hins := (SortedMap.values_insert_perm (m := state.2) (k := va / pageSize)
      (v := (⟨n, .userRead⟩ : Mapping))).map Mapping.frame
    rw [SortedMap.erase_of_find?_none hnone] at hins
    exact (h.take hall).perm hins.symm (.refl _)

/-- Opening a window opens no other. -/
lemma find?_openWindow {state : FramePool × SortedMap Mapping} {va page : Nat}
    (h : va / pageSize ≠ page) : (openWindow state va).2.find? page = state.2.find? page := by
  rw [openWindow]
  split
  · rfl
  · exact SortedMap.find?_insert_of_ne _ _ h

/-- **A fresh machine** has its accounts in order: only its windows take frames. -/
lemma accounted_ofSize (processors frames : Nat) :
    (ofSize processors frames).Accounted [] [] := by
  have hstart : (FramePool.ofCount frames).Ledger
      ((SortedMap.empty : SortedMap Mapping).values.map Mapping.frame) [] [] [] :=
    ⟨FramePool.backs_ofCount frames, List.nodup_nil, fun n hn => nomatch hn⟩
  let first := openWindow (.ofCount frames, .empty) processWindow
  have hfirst : first.1.Ledger (first.2.values.map Mapping.frame) [] [] [] :=
    ledger_openWindow hstart rfl
  have hclosed : first.2.find? (frameWindow / pageSize) = none := find?_openWindow (by decide)
  have hsecond := ledger_openWindow hfirst hclosed
  have hperm : (ofSize processors frames).tableFrames =
      ((ofSize processors frames).windows.values.map Mapping.frame) ++ [] := rfl
  refine ⟨?_, fun s page e he => nomatch he⟩
  rw [hperm, List.append_nil]
  exact hsecond

end Machine

end Exokernel
