/-
Programs that cannot be loaded.

* `Work.space?_of_ne`, `space?_dismantle_of_ne`: work on an address space leaves the others as they
  are, down to their page tables, and so does its end;
* `Machine.Shuns`, `Shuns.contents?_load`: a frame in use that an address space does not show keeps
  what it holds while a program is loaded there;
* `Machine.Restored`, `Accounted.restored_works`: **an address space that is made and thrown
  away again** leaves nothing behind;
* `Kernel.Withdrawn`, `withdrawn_of_free`: nor does a process that is made and torn down again;
* `failed_spawn_withdrawn`: **a program that cannot be loaded leaves nothing behind**.
-/
import Exokernel.Proofs.Balance
import Exokernel.Proofs.Loading
import Exokernel.Proofs.Schedule.Searches

namespace Exokernel

open Layout

/-- A frame in use is known by its references and by what it holds. -/
lemma FramePool.allocated?_congr {pool pool' : FramePool} {n : Nat}
    (hsome : (pool'.allocated? n).isSome = (pool.allocated? n).isSome)
    (hrefs : pool'.refs n = pool.refs n)
    (hcontents : (pool.allocated? n).isSome → pool'.contents? n = pool.contents? n) :
    pool'.allocated? n = pool.allocated? n := by
  cases hold : pool.allocated? n with
  | none =>
    rw [hold, Option.isSome_none, Option.isSome_eq_false_iff, Option.isNone_iff_eq_none] at hsome
    exact hsome
  | some slot =>
    rw [hold] at hsome hcontents
    obtain ⟨slot', hnew⟩ := Option.isSome_iff_exists.1 hsome
    have hpage := hcontents rfl
    rw [← FramePool.page?_of_allocated? hold, ← FramePool.page?_of_allocated? hnew,
      FramePool.page?, FramePool.page?, hold, hnew] at hpage
    rw [FramePool.refs, FramePool.refs, hold, hnew] at hrefs
    obtain ⟨-, hin⟩ := Option.filter_eq_some_iff.1 hold
    obtain ⟨-, hin'⟩ := Option.filter_eq_some_iff.1 hnew
    obtain ⟨_, _, _⟩ := slot
    obtain ⟨_, _, _⟩ := slot'
    cases hrefs
    cases hpage
    cases hin
    cases hin'
    exact hnew

namespace Machine

variable {m m' m₁ m₂ : Machine} {s s' n frame : Nat} {va : VirtAddr} {perm : Perm}
  {kept : List Nat}

/-! ### Other address spaces, down to their page tables -/

lemma space?_ensureTable_of_ne (hs : s ≠ s') (h : m.ensureTable s va = .ok m') :
    m'.space? s' = m.space? s' := by
  obtain ⟨a, -, rfl | ⟨t, frames, -, -, rfl⟩⟩ := ensureTable_cases h
  · rfl
  · exact (space?_setSpace s').trans (if_neg hs)

lemma space?_map_of_ne (hs : s ≠ s') (h : m.map s frame va perm = .ok m') :
    m'.space? s' = m.space? s' := by
  obtain ⟨-, m₁, hens, rfl⟩ := map_cases h
  obtain ⟨a, ha⟩ := space?_ensureTable hens
  rw [setPage_eq ha, ← space?_ensureTable_of_ne hs hens]
  exact (space?_setSpace s').trans (if_neg hs)

lemma space?_unmap_of_ne (hs : s ≠ s') : (m.unmap s va).space? s' = m.space? s' := by
  rw [unmap]
  split
  · rfl
  · split
    · rfl
    · exact (space?_setSpace s').trans (if_neg hs)

lemma space?_mapZeroed_of_ne (hs : s ≠ s') :
    (m.mapZeroed s va perm).2.space? s' = m.space? s' := by
  rw [mapZeroed]
  split
  · rfl
  · next frame m₁ ha =>
    obtain ⟨frames, hall, rfl⟩ := allocFrame_cases ha
    dsimp only
    split
    · rfl
    · next m₂ hm => exact space?_map_of_ne (m := { m with frames := frames.clear frame }) hs hm

lemma Work.space?_of_ne (h : Work s m m') (hs : s ≠ s') : m'.space? s' = m.space? s' := by
  cases h with
  | widen he hperm h => exact space?_map_of_ne hs h
  | fill va hperm => exact space?_mapZeroed_of_ne hs
  | write va data => rfl

lemma Works.space?_of_ne (h : Works s m m') (hs : s ≠ s') : m'.space? s' = m.space? s' := by
  induction h with
  | refl => rfl
  | tail _ h ih => exact (h.space?_of_ne hs).trans ih

lemma space?_dismantle_of_ne (hs : s ≠ s') : (m.dismantle s).space? s' = m.space? s' := by
  rw [dismantle, space?_destroySpace, if_neg hs]
  exact unmapAll_induct (P := fun m₁ => m₁.space? s' = m.space? s') _ rfl
    fun _ _ h => (space?_unmap_of_ne hs).trans h

/-! ### Frames that a program is not loaded into -/

/-- A frame is in use, and address space `s` does not show it. -/
structure Shuns (m : Machine) (kept : List Nat) (s n : Nat) : Prop where
  accounted : m.Accounted kept []
  used : (m.frames.allocated? n).isSome
  hides : m.Hides s n

namespace Shuns

lemma works (h : m.Shuns kept s n) (hworks : Works s m m') : m'.Shuns kept s n := by
  induction hworks with
  | refl => exact h
  | tail _ hwork ih =>
    obtain ⟨hused, hhides⟩ := hwork.hides ih.accounted ih.used ih.hides
    exact ⟨hwork.accounted ih.accounted, hused, hhides⟩

lemma contents?_loadPage (h : m.Shuns kept s n) (perm : Perm) (page : Nat) :
    (m.loadPage s perm page).2.frames.contents? n = m.frames.contents? n := by
  rw [loadPage]
  split
  · exact contents?_mapZeroed h.accounted h.used
  · split
    · rfl
    · split
      · rfl
      · next m₁ hm => exact contents?_map hm n

lemma contents?_loadPages (hperm : perm.isRequestable = true) (pages : List Nat)
    (h : m.Shuns kept s n) :
    (loadPages s perm pages m).2.frames.contents? n = m.frames.contents? n := by
  induction pages generalizing m with
  | nil => rfl
  | cons page pages ih =>
    have hpage := h.contents?_loadPage perm page
    have hafter := h.works (loadPage_works hperm page)
    rw [loadPages]
    split
    · next hload => rwa [hload] at hpage
    · next hload =>
      rw [hload] at hpage hafter
      exact (ih hafter).trans hpage

/-- The bytes of a segment go below `Layout.userTop`, where only pages of the address space are. -/
lemma contents?_copyOut {data : List UInt8} (h : m.Shuns kept s n)
    (hend : va.toNat + data.length ≤ userTop) :
    (m.copyOut s va data).2.frames.contents? n = m.frames.contents? n := by
  refine Machine.contents?_copyOut data fun p hp hframe => ?_
  have hlt := Nat.lt_of_lt_of_le (start_lt_of_mem_pieces hp).2 hend
  obtain ⟨e, he, rfl⟩ := (mappedFrame_ok_iff hlt).1 hframe
  exact h.hides _ e he rfl

lemma contents?_loadSegment {g : Segment} (hfits : g.fits = true) (h : m.Shuns kept s n) :
    (m.loadSegment s g).2.frames.contents? n = m.frames.contents? n := by
  have hpages := h.contents?_loadPages g.isRequestable_perm g.pages
  have hafter := h.works (loadPages_works g.isRequestable_perm g.pages)
  have hend : g.va.toNat + g.data.length ≤ userTop := by
    have htop : stackPage ≤ userTop := by decide
    rw [Segment.fits, Bool.and_eq_true, decide_eq_true_eq, decide_eq_true_eq] at hfits
    have hstop : g.va.toNat + g.memSize.toNat ≤ stackPage := hfits.2
    omega
  rw [loadSegment]
  split
  · next hload => rwa [hload] at hpages
  · next m₁ hload =>
    rw [hload] at hpages hafter
    have hcopy := hafter.contents?_copyOut hend
    split <;>
    · next hcopied =>
      rw [hcopied] at hcopy
      exact hcopy.trans hpages

lemma contents?_loadSegments {segments : List Segment} (hfits : ∀ g ∈ segments, g.fits = true)
    (h : m.Shuns kept s n) :
    (loadSegments s segments m).2.frames.contents? n = m.frames.contents? n := by
  induction segments generalizing m with
  | nil => rfl
  | cons g segments ih =>
    have hsegment := h.contents?_loadSegment (hfits g List.mem_cons_self)
    have hafter := h.works (loadSegment_works g)
    rw [loadSegments]
    split
    · next hload => rwa [hload] at hsegment
    · next hload =>
      rw [hload] at hsegment hafter
      exact (ih (fun g hg => hfits g (List.mem_cons_of_mem _ hg)) hafter).trans hsegment

/-- **A program is loaded into frames that nobody else has**, also where that fails halfway. -/
lemma contents?_load {image : Image} (hfits : ∀ g ∈ image.segments, g.fits = true)
    (h : m.Shuns kept s n) : (m.load s image).2.frames.contents? n = m.frames.contents? n := by
  have hsegments := h.contents?_loadSegments hfits
  have hafter := h.works (loadSegments_works image.segments)
  rw [load]
  split
  · next hload => rwa [hload] at hsegments
  · next m₁ hload =>
    rw [hload] at hsegments hafter
    have hstack : (m₁.mapZeroed s (.ofNat stackPage) .userWrite).2.frames.contents? n =
        m₁.frames.contents? n := contents?_mapZeroed hafter.accounted hafter.used
    split <;>
    · next hfill =>
      rw [hfill] at hstack
      exact hstack.trans hsegments

end Shuns

/-! ### An address space that is thrown away again -/

/-- **Memory is as it was**: the same address spaces show the same, the same frames are free, in
whatever order, and every other frame is referred to as often and holds the same. -/
structure Restored (m m' : Machine) : Prop where
  spaces : m'.spaces.spaces = m.spaces.spaces
  windows : m'.windows = m.windows
  processors : m'.processors = m.processors
  free : m'.frames.free.Perm m.frames.free
  frames : ∀ n, m'.frames.allocated? n = m.frames.allocated? n

namespace Restored

lemma refl (m : Machine) : m.Restored m := ⟨rfl, rfl, rfl, .refl _, fun _ => rfl⟩

lemma lookup?_eq (h : m.Restored m') (s : Nat) (va : VirtAddr) :
    m'.lookup? s va = m.lookup? s va := by
  rw [lookup?, lookup?, space?, space?, h.spaces, h.windows]

/-- User code reads what it read. -/
lemma userRead_eq (h : m.Restored m') (s : Nat) (va : VirtAddr) (len : Nat) (absent : UInt8) :
    m'.userRead s va len absent = m.userRead s va len absent := by
  have hframe : m'.userFrame s false va = m.userFrame s false va := funext fun address => by
    rw [userFrame, userFrame, translate, translate, h.lookup?_eq]
  rw [userRead, userRead, hframe]
  induction pieces va.toNat len with
  | nil => rfl
  | cons p ps ih => rw [readPieces, readPieces, ih]; simp only [FramePool.read, FramePool.page?,
      h.frames]

end Restored

/-- Who refers to a frame can be told from the address spaces and the windows. -/
lemma Accounted.refs_congr (h : m.Accounted kept []) (h' : m'.Accounted kept [])
    (hs : m'.spaces.spaces = m.spaces.spaces) (hw : m'.windows = m.windows) (n : Nat) :
    m'.frames.refs n = m.frames.refs n := by
  have htables : m'.tableFrames = m.tableFrames := by rw [tableFrames, tableFrames, hs, hw]
  have hshown : m'.shownFrames = m.shownFrames := by rw [shownFrames, shownFrames, hs]
  rw [h.ledger.backs.refs_eq, h'.ledger.backs.refs_eq, htables, hshown]

/-- **Memory with the same address spaces and windows** is the same, if the frames in use hold what
they held. -/
lemma Accounted.restored (h : m.Accounted kept []) (h' : m'.Accounted kept [])
    (hsize : m'.frames.slots.size = m.frames.slots.size)
    (hs : m'.spaces.spaces = m.spaces.spaces) (hw : m'.windows = m.windows)
    (hp : m'.processors = m.processors)
    (hcontents : ∀ n, (m.frames.allocated? n).isSome →
      m'.frames.contents? n = m.frames.contents? n) : m.Restored m' := by
  have hrefs := h.refs_congr h' hs hw
  have hsome : ∀ n, (m'.frames.allocated? n).isSome = (m.frames.allocated? n).isSome := fun n => by
    rw [Bool.eq_iff_iff, h.isSome_iff, h'.isSome_iff, hrefs]
  have hframes : ∀ n, m'.frames.allocated? n = m.frames.allocated? n := fun n =>
    FramePool.allocated?_congr (hsome n) (hrefs n) (hcontents n)
  refine ⟨hs, hw, hp, (List.perm_ext_iff_of_nodup h'.ledger.backs.free_nodup
    h.ledger.backs.free_nodup).2 fun n => ?_, hframes⟩
  rw [h.ledger.backs.mem_free_iff, h'.ledger.backs.mem_free_iff, hframes, hsize]

/-- A new address space shows no frame. -/
lemma Accounted.shuns_createSpace (h : m.Accounted kept []) (hc : m.createSpace = .ok (s, m'))
    (hfree : m.space? s = none) (hin : (m.frames.allocated? n).isSome) :
    m'.Shuns kept s n := by
  refine ⟨h.createSpace_of_free hc hfree, ?_, fun page e he => ?_⟩
  · obtain ⟨directory, frames, hall, -, rfl⟩ := createSpace_cases hc
    exact isSome_allocOwned? hall hin
  · rw [mapping?_createSpace hc, if_pos rfl] at he
    cases he

/-- **An address space that is made and thrown away again** leaves nothing behind, whatever was done
in it, if its number was free and the frames in use hold what they held. -/
lemma Accounted.restored_works (h : m.Accounted kept []) (hc : m.createSpace = .ok (s, m₁))
    (hfree : m.space? s = none) (hworks : Works s m₁ m₂)
    (hcontents : ∀ n, (m.frames.allocated? n).isSome →
      m₂.frames.contents? n = m₁.frames.contents? n) : m.Restored (m₂.dismantle s) := by
  have hacc₁ := h.createSpace_of_free hc hfree
  have hshape := Works.sameShape hworks
  obtain ⟨directory, frames, hall, rfl, hm₁⟩ := createSpace_cases hc
  have hsize : m₁.frames.slots.size = m.frames.slots.size := by
    rw [hm₁]
    exact size_allocOwned? hall
  have hspace₁ : ∀ s', m.spaces.nextId.toNat ≠ s' → m₁.space? s' = m.space? s' := fun s' hs => by
    rw [hm₁]
    exact SortedMap.find?_insert_of_ne _ _ hs
  have hcontents₁ : ∀ n, m₁.frames.contents? n = m.frames.contents? n := fun n => by
    rw [hm₁]
    exact contents?_allocOwned? hall
  refine h.restored (Works.accounted hworks hacc₁).dismantle ?_ ?_ ?_ ?_ fun n hin => ?_
  · rw [size_dismantle, hshape.size, hsize]
  · refine SortedMap.ext_find? fun s' => ?_
    by_cases hs : m.spaces.nextId.toNat = s'
    · subst hs
      have hgone := space?_dismantle (m := m₂) (s := m.spaces.nextId.toNat)
        m.spaces.nextId.toNat
      rw [if_pos rfl, Option.isSome_eq_false_iff, Option.isNone_iff_eq_none] at hgone
      exact hgone.trans hfree.symm
    · exact (space?_dismantle_of_ne hs).trans ((hworks.space?_of_ne hs).trans (hspace₁ s' hs))
  · rw [windows_dismantle, hshape.windows, hm₁]
  · rw [processors_dismantle, hshape.processors, hm₁]
  · rw [contents?_dismantle, hcontents n hin, hcontents₁]

/-- So does one into which some of a program was loaded. -/
lemma Accounted.restored_dismantle (h : m.Accounted kept []) (hc : m.createSpace = .ok (s, m₁))
    (hfree : m.space? s = none) {image : Image}
    (hfits : ∀ g ∈ image.segments, g.fits = true) :
    m.Restored ((m₁.load s image).2.dismantle s) :=
  h.restored_works hc hfree (load_works image) fun _ hin =>
    (h.shuns_createSpace hc hfree hin).contents?_load hfits

end Machine

/-! ### A process whose program cannot be loaded -/

namespace Kernel

variable {k k' k₁ : Kernel} {id : ProcessId} {p : Process} {s : Nat} {image : Image}
  {e : KernelError}

/-- The record of a free slot that keeps nothing but the last identity which it has issued. -/
def blank (id : ProcessId) : Process := { id, frame := .initial (UInt32.ofNat stackTop) }

/-- **Nothing is left of a process** that was to be made: whatever slot it was given is free again,
in its old place, and has issued one identity more. -/
structure Withdrawn (k k' : Kernel) : Prop where
  free : k'.table.free = k.table.free
  cursor : k'.table.cursor = k.table.cursor
  records : k'.table.records = k.table.records ∨
    ∃ (slot : Nat) (p : Process), k.table.free.head? = some slot ∧
      k.table.records[slot]? = some p ∧ p.status = .free ∧ p.id.next slot ≠ p.id ∧
      k'.table.records = (k.table.modify slot fun _ => blank (p.id.next slot)).records
  cpus : k'.cpus = k.cpus
  memory : k.machine.Restored k'.machine

lemma Withdrawn.refl (k : Kernel) : k.Withdrawn k := ⟨rfl, rfl, .inl rfl, rfl, .refl _⟩

/-- The record of a process that is made, before anything is known of its program. -/
def embryo (id parent : ProcessId) (status : ProcessStatus) (s : Nat) : Process :=
  { id, parent, status, space := some s, frame := .initial (UInt32.ofNat stackTop) }

/-- **A process that is made** takes the first free slot and a new address space, nothing else. -/
lemma allocateAs_places (hk : k.Sound) {parent : ProcessId} {status : ProcessStatus}
    (h : k.allocateAs parent status = .ok (id, k₁)) :
    ∃ (q : Process) (s : Nat), k.table.free = id.slot :: k₁.table.free ∧
      k.table.records[id.slot]? = some q ∧ q.status = .free ∧ id = q.id.next id.slot ∧
      k₁.table.records = (k.table.modify id.slot fun _ => embryo id parent status s).records ∧
      k.machine.createSpace = .ok (s, k₁.machine) ∧ k₁.cpus = k.cpus := by
  obtain ⟨q, rest, s, machine, hq, hqs, hfree, hcreate, hid, rfl⟩ := allocateAs_takes hk h
  rw [lastId_eq hq] at hid
  exact ⟨q, s, hfree, hq, hqs, hid, rfl, hcreate, rfl⟩

/-- A program that cannot be loaded is loaded in part. -/
lemma load_error (hp : k.live? id = some p) (hs : p.space = some s)
    (herror : (k.load id image).1 = .error e) :
    (k.load id image).2 = { k with machine := (k.machine.load s image).2 } := by
  rw [load, spaceOf?_eq_some_iff.2 ⟨p, hp, hs⟩] at herror ⊢
  dsimp only at herror ⊢
  cases hr : k.machine.load s image with
  | mk result machine =>
    rw [hr] at herror
    cases result with
    | error e => rfl
    | ok u => cases herror

/-- A process that nobody has bound is torn down. -/
lemma free_reaps (hp : k.live? id = some p) (hres : p.resident = none) :
    Reaps { k with table := k.table.modify id.slot Process.doomed } id p.doomed none
      (k.free id) := by
  obtain ⟨-, hid, -⟩ := live?_eq_some_iff.1 hp
  rw [free, beginFree?_eq hp]
  exact reap_reaps (find?_doomed hp) hid rfl hres

/-- **A process that is made and torn down again**, whatever was loaded of its program, leaves
nothing behind. -/
lemma withdrawn_of_free (hk : k.Sound) (hsep : k.Separate k.machine.spaces.nextId)
    (hfits : ∀ g ∈ image.segments, g.fits = true)
    (hmade : k.allocateAs .self .notRunnable = .ok (id, k₁)) (hs : k₁.spaceOf? id = some s) :
    k.Withdrawn ({ k₁ with machine := (k₁.machine.load s image).2 }.free id) := by
  obtain ⟨q, s₁, hfree, hq, hqs, hid, hrecords, hcreate, hcpus⟩ := allocateAs_places hk hmade
  obtain ⟨p, hp, hspace⟩ := spaceOf?_eq_some_iff.1 hs
  obtain ⟨hrec, -, -⟩ := live?_eq_some_iff.1 hp
  have hembryo : p = embryo id .self .notRunnable s₁ := by
    rw [hrecords, ProcessTable.getElem?_modify, if_pos rfl, hq] at hrec
    exact (Option.some.inj hrec).symm
  subst hembryo
  obtain rfl : s₁ = s := Option.some.inj hspace
  have hreaps := free_reaps (k := { k₁ with machine := (k₁.machine.load s₁ image).2 }) hp rfl
  have hnumber : k.machine.space? s₁ = none := by
    obtain ⟨-, -, -, rfl, -⟩ := Machine.createSpace_cases hcreate
    exact hsep.free rfl
  have hmemory := hk.accounted.restored_dismantle hcreate hnumber hfits
  have hcursor : ({ k₁ with machine := (k₁.machine.load s₁ image).2 }.free id).table.cursor =
      k.table.cursor :=
    ((calm_allocateAs hmade).trans
      ((calm_machine (Machine.services_load _)).trans calm_free)).cursor
  refine ⟨hreaps.free.trans hfree.symm, hcursor, .inr ⟨id.slot, q, by rw [hfree]; rfl, hq, hqs,
    ProcessId.next_ne _ _, ?_⟩, hreaps.cpus.trans hcpus, ⟨?_, ?_, ?_, ?_, fun n => ?_⟩⟩
  · rw [hreaps.records, ← hid]
    -- made, doomed and cleared: what is left of the record is its identity
    refine Array.ext_getElem? fun i => ?_
    simp only [ProcessTable.getElem?_modify, hrecords]
    split
    · cases k.table.records[i]? <;> rfl
    · rfl
  · rw [hreaps.spaces]
    exact hmemory.spaces
  · exact hreaps.windows.trans (Machine.windows_dismantle.symm.trans hmemory.windows)
  · exact hreaps.processors.trans (Machine.processors_dismantle.symm.trans hmemory.processors)
  · rw [hreaps.frames]
    exact hmemory.free
  · rw [hreaps.frames]
    exact hmemory.frames n

/-- **A process that cannot be made leaves nothing behind.** -/
lemma withdrawn_of_spawn (hk : k.Sound) (hsep : k.Separate k.machine.spaces.nextId)
    (h : k.spawn image = (.error e, k')) : k.Withdrawn k' := by
  rw [spawn] at h
  split at h
  · next hloadable =>
    rw [Image.isLoadable, Bool.and_eq_true, List.all_eq_true] at hloadable
    cases hmade : k.allocateAs .self .notRunnable with
    | error e =>
      rw [hmade] at h
      cases h
      exact .refl k
    | ok r =>
      obtain ⟨id, k₁⟩ := r
      rw [hmade] at h
      dsimp only at h
      obtain ⟨s, hp⟩ := live?_of_allocateAs hk rfl hmade
      cases hload : k₁.load id image with
      | mk result k₂ =>
        rw [hload] at h
        cases result with
        | ok u => cases h
        | error e =>
          cases h
          have hpart := load_error hp rfl (congrArg Prod.fst hload)
          rw [hload] at hpart
          dsimp only at hpart
          subst hpart
          exact withdrawn_of_free hk hsep hloadable.2 hmade (spaceOf?_eq_some_iff.2 ⟨_, hp, rfl⟩)
  · cases h
    exact .refl k

end Kernel

/-- **A program that cannot be loaded leaves nothing behind**, wherever memory runs out. The free
slots are the same in the same order, the scheduler stands where it stood, processors claim and have
loaded what they had, and no record changes, except that the slot which was tried is free again and
has issued one identity more. The same address spaces show the same, the same frames are free, every
other frame is referred to as often and holds the same, and user code reads what it read. Unless,
that is, the numbers of address spaces had come round before. -/
theorem failed_spawn_withdrawn {config : Config} {frames : Nat} {k k' : Kernel} {image : Image}
    {e : KernelError} (h : Early config frames k)
    (herror : k.spawn image = (.error e, k')) :
    k.Withdrawn k' ∧
    (∀ (slot : Nat) (p : Process), k.table.records[slot]? = some p → p.status ≠ .free →
      k'.table.records[slot]? = some p) ∧
    (∀ n, k'.machine.frames.refs n = k.machine.frames.refs n) ∧
    ∀ s va len absent, k'.machine.userRead s va len absent =
      k.machine.userRead s va len absent := by
  have hsame := Kernel.withdrawn_of_spawn h.reachable.sound h.separate herror
  refine ⟨hsame, fun slot p hp hs => ?_, fun n => ?_, hsame.memory.userRead_eq⟩
  · rcases hsame.records with hrecords | ⟨slot₁, q, -, hq, hfree, -, hrecords⟩
    · rw [hrecords, hp]
    · have hne : slot₁ ≠ slot := fun heq => by
        rw [heq, hp] at hq
        cases hq
        exact hs hfree
      rw [hrecords, ProcessTable.getElem?_modify, if_neg hne, hp]
  · rw [FramePool.refs, FramePool.refs, hsame.memory.frames]

/-- Beside a process that runs, four frames are free. A program of one page takes all of them, for
its directory, its page, its page table and its stack. None is left for the page table of the stack,
and everything is given back. -/
theorem failed_spawn_withdrawn_exhausted : ∃ (k k' : Kernel) (image : Image) (p : Process),
    Early { maxProcesses := 2 } 9 k ∧ k.machine.frames.free.length = 4 ∧
    k.spawn image = (.error .outOfMemory, k') ∧
    k.Withdrawn k' ∧ k.table.lastId 1 ≠ k'.table.lastId 1 ∧ p.status = .running ∧
    k.table.records[0]? = some p ∧ k'.table.records[0]? = some p := by
  have hboot : Booted { maxProcesses := 2 } 9 _ := ⟨_, [0], rfl, .refl _, rfl⟩
  have hbegun := ((hboot.history.snoc (.spawn ⟨⟨0⟩, []⟩) trivial).snoc (.schedule 0) rfl).early
    hboot (by decide)
  obtain ⟨k, image, hk, hfree, herror, hrun, hid⟩ : ∃ (k : Kernel) (image : Image),
      Early { maxProcesses := 2 } 9 k ∧ k.machine.frames.free.length = 4 ∧
      (k.spawn image).1 = .error .outOfMemory ∧
      k.table.records[0]?.any (fun p => p.status = .running) = true ∧
      k.table.lastId 1 ≠ (k.spawn image).2.table.lastId 1 :=
    ⟨_, ⟨.ofNat textBase, [.readWrite (.ofNat textBase) [7] 1]⟩, hbegun, by decide +kernel,
      by decide +kernel, by decide +kernel, by decide +kernel⟩
  obtain ⟨p, hp, hs⟩ : ∃ p, k.table.records[0]? = some p ∧ p.status = .running := by
    simpa using (Option.any_eq_true ..).1 hrun
  obtain ⟨hgone, hkept, -, -⟩ := failed_spawn_withdrawn hk (Prod.ext herror rfl)
  exact ⟨k, _, image, p, hk, hfree, Prod.ext herror rfl, hgone, hid, hs, hp,
    hkept 0 p hp (by rw [hs]; nofun)⟩

end Exokernel
