/-
Work on one address space: what the kernel does to memory on behalf of a process.

* `Machine.Offers`: a frame may be shown elsewhere;
* `Machine.Remap`: pages of the address space come to show frames that may be shown elsewhere, or
  nothing. No other address space and no contents change;
* `Machine.Work`: a page allows more, or is filled with zeros, or a write goes through the pages;
* `Machine.load_works`: loading a program is work on its address space;
* `Work.accounted`, `Work.mapping?_of_ne`: work keeps the accounts in order and leaves other address
  spaces alone;
* `Machine.contents?_mapZeroed`, `Machine.contents?_copyOut`: whose contents may change.
-/
import Mathlib.Logic.Relation
import Exokernel.Machine.Loader
import Exokernel.Proofs.Memory.Accounts

namespace Exokernel

open Layout

/-- Writing through some frames leaves all others alone. -/
lemma contents?_writePieces {ε : Type} {frameOf : Nat → Except ε Nat} {n : Nat} (ps : List Piece)
    (data : List UInt8) (pool : FramePool) (h : ∀ p ∈ ps, frameOf p.start ≠ .ok n) :
    (writePieces frameOf ps data pool).2.contents? n = pool.contents? n := by
  induction ps generalizing data pool with
  | nil => rfl
  | cons p ps ih =>
    rw [writePieces]
    split
    · rfl
    · next n' hn' =>
      have hne : n' ≠ n := fun heq => h p List.mem_cons_self (heq ▸ hn')
      rw [ih _ _ fun q hq => h q (List.mem_cons_of_mem _ hq),
        FramePool.contents?_write_of_ne _ _ hne]

/-- Writing through frames makes and loses none. -/
lemma size_writePieces {ε : Type} {frameOf : Nat → Except ε Nat} (ps : List Piece)
    (data : List UInt8) (pool : FramePool) :
    (writePieces frameOf ps data pool).2.slots.size = pool.slots.size := by
  induction ps generalizing data pool with
  | nil => rfl
  | cons p ps ih =>
    rw [writePieces]
    split
    · rfl
    · exact (ih _ _).trans FramePool.size_modify

/-- A segment asks for permissions that a call may ask for. -/
lemma Segment.isRequestable_perm (segment : Segment) : segment.perm.isRequestable = true := by
  rw [Segment.perm]
  split <;> rfl

/-- Writing through frames leaves what was in use in use. -/
lemma isSome_writePieces {ε : Type} {frameOf : Nat → Except ε Nat} {n : Nat} (ps : List Piece)
    (data : List UInt8) (pool : FramePool) :
    ((writePieces frameOf ps data pool).2.allocated? n).isSome = (pool.allocated? n).isSome := by
  induction ps generalizing data pool with
  | nil => rfl
  | cons p ps ih =>
    rw [writePieces]
    split
    · rfl
    · exact (ih _ _).trans (FramePool.isSome_allocated?_write _ _)

namespace Machine

variable {m m' : Machine} {s n frame : Nat} {va : VirtAddr} {perm : Perm} {kept : List Nat}

/-! ### Pages that come to show something else -/

/-- **A frame may be shown elsewhere**: a call may ask for these permissions, and some page shows
the frame, which can be written there if it is to be written elsewhere. -/
structure Offers (m : Machine) (frame : Nat) (perm : Perm) : Prop where
  requestable : perm.isRequestable = true
  source : ∃ s page e, m.mapping? s page = some e ∧ e.frame = frame ∧
    (perm.contains .writable = true → e.perm.contains .writable = true)

lemma Offers.shown (h : m.Offers frame perm) : frame ∈ m.shownFrames := by
  obtain ⟨s, page, e, he, hframe, -⟩ := h.source
  exact mem_shownFrames_iff.2 ⟨s, page, e, he, hframe⟩

/-- Pages of address space `s` come to show frames that may be shown elsewhere, or nothing. -/
inductive Remap (s : Nat) (m : Machine) : Machine → Prop where
  /-- A page shows a frame that is kept meanwhile. -/
  | mapKept {m' : Machine} {frame : Nat} {va : VirtAddr} {perm : Perm}
      (hf : m.Offers frame perm) (h : (m.retain frame).map s frame va perm = .ok m') :
      Remap s m (m'.release frame)
  /-- A frame was kept, and nothing came of it. -/
  | kept {frame : Nat} (hf : frame ∈ m.shownFrames) : Remap s m ((m.retain frame).release frame)
  /-- A page shows nothing. -/
  | unmap (va : VirtAddr) : Remap s m (m.unmap s va)

namespace Remap

lemma sameShape (h : Remap s m m') : m.SameShape m' := by
  cases h with
  | mapKept hf h =>
    have hsize := (sameShape_map h).size.trans FramePool.size_retain
    exact ⟨FramePool.size_release.trans hsize, (sameShape_map h).windows,
      (sameShape_map h).processors, (sameShape_map h).nextId, (sameShape_map h).spaces⟩
  | @kept frame hf =>
    have hsize : ((m.retain frame).release frame).frames.slots.size = m.frames.slots.size :=
      FramePool.size_release.trans FramePool.size_retain
    exact (SameShape.refl m).withFrames hsize
  | unmap va => exact sameShape_unmap

/-- Other address spaces show what they showed. -/
lemma mapping?_of_ne (h : Remap s m m') {s' : Nat} (hs : s ≠ s') (page : Nat) :
    m'.mapping? s' page = m.mapping? s' page := by
  cases h with
  | mapKept hf h => exact (mapping?_map h s' page).trans (if_neg fun hc => hs hc.1)
  | kept hf => rfl
  | unmap va => rw [mapping?_unmap, if_neg fun hc => hs hc.1]

lemma contents? (h : Remap s m m') (n : Nat) : m'.frames.contents? n = m.frames.contents? n := by
  cases h with
  | mapKept hf h =>
    exact FramePool.contents?_release.trans ((contents?_map h n).trans FramePool.contents?_retain)
  | kept hf => exact FramePool.contents?_release.trans FramePool.contents?_retain
  | unmap va => exact contents?_unmap n

lemma accounted (h : Remap s m m') (hacc : m.Accounted kept []) : m'.Accounted kept [] := by
  have hin : ∀ {n}, n ∈ m.shownFrames → (m.frames.allocated? n).isSome :=
    fun hn => hacc.ledger.isSome_of_shown hn
  have hnot : ∀ {n}, n ∈ m.shownFrames → n ∉ m.tableFrames :=
    fun hn hmem => hacc.ledger.apart _ hmem hn
  cases h with
  | mapKept hf h =>
    have hkept := hacc.retain (hin hf.shown)
    exact (hkept.map (FramePool.isSome_allocated?_retain.trans (hin hf.shown)) (hnot hf.shown)
      h).1.release
  | kept hf => exact (hacc.retain (hin hf)).release
  | unmap va => exact hacc.unmap

end Remap

/-! ### A fresh page of zeros -/

lemma allocFrame_cases (h : m.allocFrame = .ok (n, m')) :
    ∃ frames, m.frames.alloc? = some (n, frames) ∧ m' = { m with frames } := by
  rw [allocFrame] at h
  cases hall : m.frames.alloc? with
  | none =>
    rw [hall] at h
    cases h
  | some r =>
    rw [hall] at h
    cases h
    exact ⟨r.2, rfl, rfl⟩

lemma sameShape_mapZeroed : m.SameShape (m.mapZeroed s va perm).2 := by
  rw [mapZeroed]
  split
  · exact .refl m
  · next frame m₁ ha =>
    obtain ⟨frames, hall, rfl⟩ := allocFrame_cases ha
    have hsize : (frames.clear frame).slots.size = m.frames.slots.size :=
      FramePool.size_modify.trans (FramePool.size_alloc? hall)
    dsimp only
    split
    · exact (SameShape.refl m).withFrames (FramePool.size_discard.trans hsize)
    · next m₂ hm => exact ((SameShape.refl m).withFrames hsize).trans (sameShape_map hm)

lemma mapping?_mapZeroed_of_ne {s' : Nat} (hs : s ≠ s') (page : Nat) :
    (m.mapZeroed s va perm).2.mapping? s' page = m.mapping? s' page := by
  rw [mapZeroed]
  split
  · rfl
  · next frame m₁ ha =>
    obtain ⟨frames, hall, rfl⟩ := allocFrame_cases ha
    dsimp only
    split
    · rfl
    · next m₂ hm => exact (mapping?_map hm s' page).trans (if_neg fun hc => hs hc.1)

/-- **A fresh page of zeros** is made of a frame that was not in use: frames in use hold what they
held. -/
lemma contents?_mapZeroed (hacc : m.Accounted kept []) (hn : (m.frames.allocated? n).isSome) :
    (m.mapZeroed s va perm).2.frames.contents? n = m.frames.contents? n := by
  rw [mapZeroed]
  split
  · rfl
  · next frame m₁ ha =>
    obtain ⟨frames, hall, rfl⟩ := allocFrame_cases ha
    have hne : frame ≠ n := fun heq => hacc.ledger.backs.not_mem_free hn
      (FramePool.free_of_alloc? hall ▸ heq ▸ List.mem_cons_self)
    have hclear : (frames.clear frame).contents? n = m.frames.contents? n :=
      (FramePool.contents?_clear_of_ne hne).trans (FramePool.contents?_alloc? hall)
    dsimp only
    split
    · exact FramePool.contents?_discard.trans hclear
    · next m₂ hm => exact (contents?_map hm n).trans hclear

/-! ### Writing through pages -/

/-- What the kernel reaches below `Layout.userTop`: the frame that the page of the address shows,
if it shows one. -/
lemma mappedFrame_of_lt {address : Nat} (hlt : address < userTop) :
    m.mappedFrame s va address = match m.mapping? s (address / pageSize) with
      | none => .error (.ofNat address)
      | some e => .ok e.frame := by
  have hcount : address < addressCount := Nat.lt_trans hlt (by decide)
  rewrite [mappedFrame, if_pos hcount,
    lookup?_pageBase (by rwa [VirtAddr.toNat_ofNat_of_lt hcount]), VirtAddr.page_ofNat_of_lt hcount]
  rfl

lemma mappedFrame_ok_iff {address : Nat} (hlt : address < userTop) :
    m.mappedFrame s va address = .ok n ↔
      ∃ e, m.mapping? s (address / pageSize) = some e ∧ e.frame = n := by
  rw [mappedFrame_of_lt hlt]
  cases m.mapping? s (address / pageSize) <;> simp

/-- **A write through the pages** changes no frame that none of them shows. -/
lemma contents?_copyOut (data : List UInt8)
    (h : ∀ p ∈ pieces va.toNat data.length, m.mappedFrame s va p.start ≠ .ok n) :
    (m.copyOut s va data).2.frames.contents? n = m.frames.contents? n :=
  contents?_writePieces _ data m.frames h

/-! ### Work on an address space -/

/-- One step of work on address space `s`. -/
inductive Work (s : Nat) (m : Machine) : Machine → Prop where
  /-- A page allows more than it did. -/
  | widen {m' : Machine} {e : Mapping} {va : VirtAddr} {perm : Perm}
      (he : m.mapping? s va.page = some e) (hperm : perm.isRequestable = true)
      (h : m.map s e.frame va (e.perm ||| perm) = .ok m') : Work s m m'
  /-- A fresh page of zeros, if there is a frame for it and for its page table. -/
  | fill (va : VirtAddr) {perm : Perm} (hperm : perm.isRequestable = true) :
      Work s m (m.mapZeroed s va perm).2
  /-- A write through the pages, as far as they are there. -/
  | write (va : VirtAddr) (data : List UInt8) : Work s m (m.copyOut s va data).2

namespace Work

lemma sameShape (h : Work s m m') : m.SameShape m' := by
  cases h with
  | widen he hperm h => exact sameShape_map h
  | fill va hperm => exact sameShape_mapZeroed
  | write va data => exact (SameShape.refl m).withFrames (size_writePieces ..)

/-- Other address spaces show what they showed. -/
lemma mapping?_of_ne (h : Work s m m') {s' : Nat} (hs : s ≠ s') (page : Nat) :
    m'.mapping? s' page = m.mapping? s' page := by
  cases h with
  | widen he hperm h => rw [mapping?_map h, if_neg fun hc => hs hc.1]
  | fill va hperm => exact mapping?_mapZeroed_of_ne hs page
  | write va data => rfl

/-- **Work keeps the accounts in order.** -/
lemma accounted (h : Work s m m') (hacc : m.Accounted kept []) : m'.Accounted kept [] := by
  cases h with
  | widen he hperm h =>
    exact (hacc.map (hacc.isSome_of_mapping? he) (hacc.notMem_tableFrames he) h).1
  | fill va hperm => exact hacc.mapZeroed
  | write va data => exact hacc.writePieces _ data

end Work

/-- Any amount of work on address space `s`. -/
abbrev Works (s : Nat) : Machine → Machine → Prop := Relation.ReflTransGen (Work s)

namespace Works

lemma sameShape (h : Works s m m') : m.SameShape m' := by
  induction h with
  | refl => exact .refl m
  | tail _ h ih => exact ih.trans h.sameShape

lemma mapping?_of_ne (h : Works s m m') {s' : Nat} (hs : s ≠ s') (page : Nat) :
    m'.mapping? s' page = m.mapping? s' page := by
  induction h with
  | refl => rfl
  | tail _ h ih => exact (h.mapping?_of_ne hs page).trans ih

lemma accounted (h : Works s m m') (hacc : m.Accounted kept []) : m'.Accounted kept [] := by
  induction h with
  | refl => exact hacc
  | tail _ h ih => exact h.accounted ih

end Works

/-! ### Loading programs -/

lemma loadPage_works (hperm : perm.isRequestable = true) (page : Nat) :
    Works s m (m.loadPage s perm page).2 := by
  rw [loadPage]
  split
  · exact .single (.fill _ hperm)
  · next e he =>
    split
    · exact .refl
    · split
      · exact .refl
      · next m₁ hm =>
        rw [lookup?_of_lt (map_cases hm).1] at he
        exact .single (.widen he hperm hm)

lemma loadPages_works (hperm : perm.isRequestable = true) (pages : List Nat) :
    Works s m (loadPages s perm pages m).2 := by
  induction pages generalizing m with
  | nil => exact .refl
  | cons page pages ih =>
    have hpage : Works s m (m.loadPage s perm page).2 := loadPage_works hperm page
    rw [loadPages]
    split
    · next hload => rwa [hload] at hpage
    · next hload =>
      rw [hload] at hpage
      exact hpage.trans ih

lemma loadSegment_works (segment : Segment) : Works s m (m.loadSegment s segment).2 := by
  have hpages : Works s m (loadPages s segment.perm segment.pages m).2 :=
    loadPages_works segment.isRequestable_perm _
  rw [loadSegment]
  split
  · next hload => rwa [hload] at hpages
  · next m₁ hload =>
    rw [hload] at hpages
    have hwrite := Work.write (s := s) (m := m₁) segment.va segment.data
    split
    · next hcopy =>
      rw [hcopy] at hwrite
      exact hpages.tail hwrite
    · next hcopy =>
      rw [hcopy] at hwrite
      exact hpages.tail hwrite

lemma loadSegments_works (segments : List Segment) :
    Works s m (loadSegments s segments m).2 := by
  induction segments generalizing m with
  | nil => exact .refl
  | cons segment segments ih =>
    have hsegment := loadSegment_works (s := s) (m := m) segment
    rw [loadSegments]
    split
    · next hload => rwa [hload] at hsegment
    · next hload =>
      rw [hload] at hsegment
      exact hsegment.trans ih

/-- **Loading a program** is work on its address space, also where it fails halfway. -/
lemma load_works (image : Image) : Works s m (m.load s image).2 := by
  have hsegments := loadSegments_works (s := s) (m := m) image.segments
  rw [load]
  split
  · next hload => rwa [hload] at hsegments
  · next m₁ hload =>
    rw [hload] at hsegments
    have hstack : Work s m₁ (m₁.mapZeroed s (.ofNat stackPage) .userWrite).2 := .fill _ rfl
    split
    · next hfill =>
      rw [hfill] at hstack
      exact hsegments.tail hstack
    · next hfill =>
      rw [hfill] at hstack
      exact hsegments.tail hstack

end Machine

end Exokernel
