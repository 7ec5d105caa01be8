/-
Pages that are given a frame of their own.

* `Machine.not_copyOnWrite_of_window`: no page of a window is to be copied;
* `KeepsBut.aside`: what is put aside for a while leaves no trace;
* `Accounted.refs_mapZeroed`: a fresh page refers to no frame that was in use;
* `Machine.Drops`, `Accounted.drops`: **a page that is hidden** gives up its reference;
* `Machine.Repaired`, `Repaired.of_steps`: **a page that shows a copy of its own**, reference by
  reference and byte by byte.
-/
import Exokernel.Proofs.Balance
import Exokernel.Proofs.Memory.Copies
import Exokernel.Proofs.Memory.Counts
import Exokernel.Proofs.Memory.Doubles
import Exokernel.Proofs.Memory.Views

namespace Exokernel

open Layout

namespace Machine

variable {m m' m'' m₀ m₀' : Machine} {s t n page twin : Nat} {va dst : VirtAddr} {e : Mapping}
  {kept loose : List Nat}

/-! ### Windows -/

/-- A window is for reading. -/
lemma perm_openWindow {state : FramePool × SortedMap Mapping} {at' : Nat}
    (h : ∀ page e, state.2.find? page = some e → e.perm = .userRead) (page : Nat) (e : Mapping)
    (he : (openWindow state at').2.find? page = some e) : e.perm = .userRead := by
  rw [openWindow] at he
  split at he
  · exact h page e he
  · rw [SortedMap.find?_insert] at he
    split at he
    · cases he
      rfl
    · exact h page e he

/-- **No page of a window is to be copied**, on a machine with the windows that it had at first. -/
lemma not_copyOnWrite_of_window {processors frames : Nat}
    (hwindows : m.windows = (ofSize processors frames).windows)
    (he : m.windows.find? page = some e) : e.perm.contains .copyOnWrite = false := by
  have hread : e.perm = .userRead := by
    rw [hwindows] at he
    exact perm_openWindow (perm_openWindow fun _ _ hnone => by cases hnone) page e he
  rw [hread]
  decide

/-- Below `Layout.userTop`, addresses show what their page does. -/
lemma lookup?_eq_mapping? (hbelow : page * pageSize < userTop) (hpage : va.page = page) :
    m.lookup? s va = m.mapping? s page := by
  have hplace := place_lt_userTop hbelow (Nat.mod_lt va.toNat (by decide : 0 < pageSize))
  rw [← hpage, VirtAddr.page, Nat.div_add_mod'] at hplace
  rw [lookup?_of_lt hplace, hpage]

/-! ### Memory that is the same -/

/-- The same frames, address spaces and windows. -/
def SameMemory (m m' : Machine) : Prop :=
  m'.frames = m.frames ∧ m'.spaces = m.spaces ∧ m'.windows = m.windows

lemma SameMemory.lookup? (h : m.SameMemory m') (s : Nat) (va : VirtAddr) :
    m'.lookup? s va = m.lookup? s va := lookup?_of_spaces h.2.1 h.2.2 s va

lemma SameMemory.shownByte? (h : m.SameMemory m') (s : Nat) (va : VirtAddr) :
    m'.shownByte? s va = m.shownByte? s va := by
  rw [Machine.shownByte?, Machine.shownByte?, h.lookup?, h.1]

/-- Nothing matters to who shows what but memory. -/
lemma KeepsBut.congr (h : m.KeepsBut s page m') (hm : m₀.SameMemory m) (hm' : m'.SameMemory m₀') :
    m₀.KeepsBut s page m₀' := by
  refine ⟨fun t va hne => ?_, fun t va hne => ?_⟩
  · rw [hm'.lookup?, h.lookup t va hne, hm.lookup?]
  · rw [hm'.shownByte?, h.bytes t va hne, hm.shownByte?]

/-- Nor to a frame that is handed over. -/
lemma Hands.congr_left {src : VirtAddr} {perm : Perm} (h : m.Hands s src t dst perm m')
    (hm : m₀.SameMemory m) : m₀.Hands s src t dst perm m' := by
  obtain ⟨hframes, hspaces, -⟩ := hm
  have hmap := mapping?_of_spaces hspaces
  refine ⟨?_, fun n hn => ?_, fun n hn => h.fresh n (hframes ▸ hn), fun n => ?_⟩
  · obtain ⟨e, he, hall⟩ := h.mapping
    exact ⟨e, (hmap s _).symm.trans he, fun t' q => (hall t' q).trans (by rw [hmap])⟩
  · rw [← hmap, ← hmap, ← hframes]
    exact h.refs n (hframes ▸ hn)
  · rw [h.contents, hframes]

/-! ### One page that changes, and another one for a while -/

namespace KeepsBut

lemma trans (h : m.KeepsBut s page m') (h' : m'.KeepsBut s page m'') : m.KeepsBut s page m'' :=
  ⟨fun t va hne => (h'.lookup t va hne).trans (h.lookup t va hne),
    fun t va hne => (h'.bytes t va hne).trans (h.bytes t va hne)⟩

/-- Writing to a frame that one page shows changes no other page. -/
lemma of_sole (hlookup : ∀ t va, m'.lookup? t va = m.lookup? t va) (hsole : m.SoleAt n s page)
    (hcont : ∀ k, k ≠ n → m'.frames.contents? k = m.frames.contents? k) : m.KeepsBut s page m' := by
  refine ⟨fun t va _ => hlookup t va, fun t va hne => ?_⟩
  rw [shownByte?, shownByte?, hlookup]
  cases he : m.lookup? t va with
  | none => rfl
  | some e =>
    exact FramePool.byte?_eq_of_contents? (hcont _ fun hframe => hne (hsole t va e he hframe)) _

/-- Other pages hold the bytes that they held. -/
lemma byte? (h : m.KeepsBut s page m') {q i : Nat} (hq : q * pageSize < userTop)
    (hi : i < pageSize)
    (hne : ¬ (t = s ∧ q = page)) :
    m'.byte? t (q * pageSize + i) = m.byte? t (q * pageSize + i) := by
  have hlt := place_lt_userTop hq hi
  have hcount : q * pageSize + i < addressCount := Nat.lt_trans hlt (by decide)
  have hnat := VirtAddr.toNat_ofNat_of_lt hcount
  have hpage : (VirtAddr.ofNat (q * pageSize + i)).page = q := by
    rw [VirtAddr.page_ofNat_of_lt hcount, page_place hi]
  have hbyte := h.bytes t (.ofNat (q * pageSize + i)) fun hc => hne ⟨hc.1, hpage ▸ hc.2⟩
  rwa [shownByte?_of_lt (by rwa [hnat]), shownByte?_of_lt (by rwa [hnat]), hnat] at hbyte

/-- They show the frames that they showed. -/
lemma mapping? (h : m.KeepsBut s page m') {q : Nat} (hq : q * pageSize < userTop)
    (hne : ¬ (t = s ∧ q = page)) : m'.mapping? t q = m.mapping? t q := by
  have hpage := VirtAddr.page_ofNat_mul hq
  have hlookup := h.lookup t (.ofNat (q * pageSize)) fun hc => hne ⟨hc.1, hpage ▸ hc.2⟩
  rwa [lookup?_ofNat_mul hq, lookup?_ofNat_mul hq] at hlookup

/-- **What is put aside at a second page for a while** leaves no trace. -/
lemma aside {m₁ m₂ m₃ : Machine} (hput : m.KeepsBut s twin m₁) (h : m₁.KeepsBut s page m₂)
    (hhide : m₂.KeepsBut s twin m₃) (hbelow : twin * pageSize < userTop)
    (hnone : m.mapping? s twin = none) (hnone' : m₃.mapping? s twin = none) :
    m.KeepsBut s page m₃ := by
  have hempty : ∀ {m : Machine} {va : VirtAddr}, m.mapping? s twin = none → va.page = twin →
      m.lookup? s va = none := fun hm hpage => (lookup?_eq_mapping? hbelow hpage).trans hm
  refine ⟨fun t va hne => ?_, fun t va hne => ?_⟩ <;> by_cases htwin : t = s ∧ va.page = twin
  · obtain ⟨rfl, hpage⟩ := htwin
    rw [hempty hnone hpage, hempty hnone' hpage]
  · rw [hhide.lookup t va htwin, h.lookup t va hne, hput.lookup t va htwin]
  · obtain ⟨rfl, hpage⟩ := htwin
    rw [shownByte?, shownByte?, hempty hnone hpage, hempty hnone' hpage]
    rfl
  · rw [hhide.bytes t va htwin, h.bytes t va hne, hput.bytes t va htwin]

end KeepsBut

/-! ### Fresh pages and references -/

/-- **A fresh page** refers to no frame that was in use; one that it replaces is counted once
less. -/
lemma Accounted.refs_mapZeroed {perm : Perm} (h : m.Accounted kept [])
    (hok : (m.mapZeroed s va perm).1 = .ok ()) (hin : (m.frames.allocated? n).isSome) :
    (m.mapZeroed s va perm).2.frames.refs n + showing (m.mapping? s va.page) n =
      m.frames.refs n := by
  obtain ⟨k, frames, hall, hm⟩ := mapZeroed_ok hok
  obtain ⟨hledger, -, -⟩ := h.ledger.alloc? hall
  have hne : k ≠ n := by
    rintro rfl
    exact h.ledger.backs.not_mem_free hin (FramePool.free_of_alloc? hall ▸ List.mem_cons_self)
  have hcount := (h.withFrames hledger.clear).refs_map hm
    (FramePool.isSome_allocated?_clear.trans (FramePool.isSome_alloc? hall hin))
  rw [if_neg hne, Nat.add_zero] at hcount
  refine hcount.trans (Eq.trans ?_ (FramePool.refs_alloc?_of_ne hall hne))
  change (frames.clear k).refs n = frames.refs n
  rw [FramePool.refs, FramePool.refs, FramePool.allocated?_clear, if_neg hne]

/-! ### A page that is hidden -/

/-- **A page is hidden**: it shows nothing any more, which counts as a reference less. Nothing else
changes. -/
structure Drops (m : Machine) (s : Nat) (va : VirtAddr) (m' : Machine) : Prop where
  mapping : m'.mapping? s va.page = none
  refs : ∀ n, m'.frames.refs n + showing (m.mapping? s va.page) n = m.frames.refs n
  contents : ∀ n, m'.frames.contents? n = m.frames.contents? n
  keeps : m.KeepsBut s va.page m'

lemma Accounted.drops (h : m.Accounted kept []) : m.Drops s va (m.unmap s va) := by
  refine ⟨(mapping?_unmap s va.page).trans (if_pos ⟨rfl, rfl⟩), fun n => ?_,
    fun n => contents?_unmap n, .unmap h⟩
  cases ha : m.space? s with
  | none =>
    rw [Machine.unmap, ha, mapping?, ha]
    rfl
  | some a =>
    rw [mapping?_of_space? ha, Machine.unmap, ha]
    dsimp only
    cases he : a.pages.find? va.page with
    | none => rfl
    | some e =>
      have hpos := h.refs_pos (mem_shownFrames_iff.2 ⟨s, va.page, e,
        (mapping?_of_space? ha _).trans he, rfl⟩)
      change (m.frames.release e.frame).refs n + _ = _
      rw [FramePool.refs_release, showing, Option.any_some]
      simp only [decide_eq_true_eq]
      split
      · next heq =>
        subst heq
        omega
      · rfl

lemma Drops.congr (h : m.Drops s va m') (hm : m₀.SameMemory m) (hm' : m'.SameMemory m₀') :
    m₀.Drops s va m₀' := by
  have hmap := mapping?_of_spaces hm.2.1
  refine ⟨(mapping?_of_spaces hm'.2.1 _ _).trans h.mapping, fun n => ?_, fun n => ?_,
    h.keeps.congr hm hm'⟩
  · rw [hm'.1, ← hmap, ← hm.1]
    exact h.refs n
  · rw [hm'.1, h.contents, hm.1]

/-! ### A page that is given a frame of its own -/

/-- **A page that was given a frame of its own**: it shows a frame that no other page and no window
shows, for reading and writing, with the bytes of the frame that it showed before. That one has a
reference less, and is free if it has none left. Nothing is at page `twin`, where the copy was made,
and every other page of every address space shows what it showed, with the same bytes. -/
structure Repaired (m : Machine) (s page twin : Nat) (m' : Machine) : Prop where
  own : ∃ old n, m.mapping? s page = some old ∧ m'.mapping? s page = some ⟨n, .userWrite⟩ ∧
    m'.SoleAt n s page ∧
    (∀ i < pageSize, m'.frames.byte? n i = m.frames.byte? old.frame i) ∧
    m'.frames.refs old.frame + 1 = m.frames.refs old.frame ∧
    (old.frame ∈ m'.frames.free ↔ m.frames.refs old.frame = 1)
  scratch : m'.mapping? s twin = none
  others : m.KeepsBut s page m'

/-- A frame that has lost a reference is free if it has none left. -/
lemma Accounted.mem_free_iff_of_refs (h : m'.Accounted kept [])
    (hsize : m'.frames.slots.size = m.frames.slots.size) (hin : (m.frames.allocated? n).isSome)
    (hrefs : m'.frames.refs n + 1 = m.frames.refs n) :
    n ∈ m'.frames.free ↔ m.frames.refs n = 1 := by
  obtain ⟨slot, hslot⟩ := Option.isSome_iff_exists.1 hin
  have hlt : n < m.frames.slots.size :=
    (Array.getElem?_eq_some_iff.1 (Option.filter_eq_some_iff.1 hslot).1).1
  have hused := h.isSome_iff n
  rw [h.ledger.backs.mem_free_iff, ← Option.not_isSome_iff_eq_none, hused, hsize]
  omega

/-- **The steps**: a fresh page that nothing showed before, a copy there, its frame at the page, and
nothing where the copy was made any more. -/
lemma Repaired.of_steps {m₁ m₂ m₃ m₄ : Machine} {scratch : VirtAddr}
    {kept₁ kept₂ kept₄ : List Nat} (hacc : m.Accounted kept []) (hacc₁ : m₁.Accounted kept₁ [])
    (hacc₂ : m₂.Accounted kept₂ []) (hacc₄ : m₄.Accounted kept₄ [])
    (hsize : m₄.frames.slots.size = m.frames.slots.size)
    (he : m.mapping? s va.page = some e) (hne : va.page ≠ scratch.page)
    (hnone : m.mapping? s scratch.page = none)
    (hput : m₁.mapping? s scratch.page = some ⟨n, .userWrite⟩)
    (hsole : m₁.SoleAt n s scratch.page) (hkeeps₁ : m.KeepsBut s scratch.page m₁)
    (hspaces₂ : m₂.spaces = m₁.spaces) (hwindows₂ : m₂.windows = m₁.windows)
    (hothers₂ : ∀ k, k ≠ n → m₂.frames.contents? k = m₁.frames.contents? k)
    (hbytes₂ : ∀ i < pageSize, m₂.frames.byte? n i = m₁.frames.byte? e.frame i)
    (hrefs₂ : m₂.frames.refs e.frame = m.frames.refs e.frame)
    (hhands : m₂.Hands s scratch s va .userWrite m₃) (hkeeps₃ : m₂.KeepsBut s va.page m₃)
    (hdrops : m₃.Drops s scratch m₄) : m.Repaired s va.page scratch.page m₄ := by
  have hbelow : va.page * pageSize < userTop := hacc.below s va.page e he
  have htwinBelow : scratch.page * pageSize < userTop := hacc₁.below s _ _ hput
  have hother : ¬ (s = s ∧ va.page = scratch.page) := fun hc => hne hc.2
  have hmap₂ := mapping?_of_spaces hspaces₂
  have hkeeps₂ : m₁.KeepsBut s scratch.page m₂ :=
    .of_sole (lookup?_of_spaces hspaces₂ hwindows₂) hsole hothers₂
  have haside := hkeeps₁.trans hkeeps₂
  obtain ⟨hscratch, hrefs₄, hcont₄, hkeeps₄⟩ := hdrops
  have hkeeps : m.KeepsBut s va.page m₄ :=
    haside.aside hkeeps₃ hkeeps₄ htwinBelow hnone hscratch
  -- the page shows the frame of the copy
  have htwin₂ : m₂.mapping? s scratch.page = some ⟨n, .userWrite⟩ := (hmap₂ s _).trans hput
  obtain ⟨e', he', hmap₃⟩ := hhands.mapping
  rw [htwin₂, Option.some.injEq] at he'
  subst he'
  have hown : m₄.mapping? s va.page = some ⟨n, .userWrite⟩ := by
    rw [hkeeps₄.mapping? hbelow hother, hmap₃, if_pos ⟨rfl, rfl⟩]
  -- the frame that it showed before
  have he₁ : m₁.mapping? s va.page = some e := by rw [hkeeps₁.mapping? hbelow hother, he]
  have he₂ : m₂.mapping? s va.page = some e := (hmap₂ s _).trans he₁
  have hframe : n ≠ e.frame := fun heq => hother (hsole.of_mapping? hacc₁ he₁ heq.symm)
  have hrefs : m₄.frames.refs e.frame + 1 = m.frames.refs e.frame := by
    have hthird := hhands.refs e.frame (hacc₂.isSome_of_mapping? he₂)
    have hfourth := hrefs₄ e.frame
    have hstill : m₃.mapping? s scratch.page = some ⟨n, .userWrite⟩ := by
      rw [hmap₃, if_neg fun hc => hne hc.2, htwin₂]
    have hold : showing (some e) e.frame = 1 := if_pos (decide_eq_true rfl)
    have hnew : showing (some ⟨n, .userWrite⟩) e.frame = 0 :=
      if_neg fun hc => hframe (of_decide_eq_true hc)
    rw [he₂, htwin₂, hold, hnew] at hthird
    rw [hstill, hnew] at hfourth
    omega
  refine ⟨⟨e, n, he, hown, fun t vb e' he' hframe' => ?_, fun i hi => ?_, hrefs,
    hacc₄.mem_free_iff_of_refs hsize (hacc.isSome_of_mapping? he) hrefs⟩, hscratch, hkeeps⟩
  · -- whoever shows the frame of the copy did so when it was made
    by_contra hc
    rw [hkeeps.lookup t vb hc] at he'
    have htwin : ¬ (t = s ∧ vb.page = scratch.page) := by
      rintro ⟨rfl, hpage⟩
      rw [lookup?_eq_mapping? htwinBelow hpage, hnone] at he'
      cases he'
    exact htwin (hsole t vb e' ((hkeeps₁.lookup t vb htwin).trans he') hframe')
  · rw [FramePool.byte?_eq_of_contents? (hcont₄ n),
      FramePool.byte?_eq_of_contents? (hhands.contents n), hbytes₂ i hi,
      ← byte?_of_mapping? he₁ hi, hkeeps₁.byte? hbelow hi hother, byte?_of_mapping? he hi]

end Machine

end Exokernel
