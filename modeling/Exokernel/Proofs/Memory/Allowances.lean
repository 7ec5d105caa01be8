/-
What pages allow.

* `Machine.Permitted`: every page allows what a call may ask for, and nothing else;
* `Machine.Passes`: every page has what it allows from a page that showed the same frame;
* `Machine.Sealed`: a frame may be written through no page. **Passing on breaks no seal**;
* `Machine.Hides`: an address space shows a frame nowhere. Work on it leaves that so as long as the
  frame is in use.
-/
import Exokernel.Proofs.Memory.Work

namespace Exokernel

open Layout

/-! ### Permissions -/

namespace Perm

variable {p q : Perm}

lemma contains_iff_forall : p.contains q = true ↔
    ∀ i, q.bits.toBitVec.getLsbD i = true → p.bits.toBitVec.getLsbD i = true := by
  rw [contains_iff, ← UInt32.toBitVec_inj, UInt32.toBitVec_and]
  constructor
  · intro h i hi
    rw [← h, BitVec.getLsbD_and, Bool.and_eq_true] at hi
    exact hi.1
  · refine fun h => BitVec.eq_of_getLsbD_eq fun i _ => ?_
    rw [BitVec.getLsbD_and, Bool.and_eq_right_iff_imp]
    exact h i

lemma contains_trans {r : Perm} (h : p.contains q = true) (h' : q.contains r = true) :
    p.contains r = true := by
  rw [contains_iff_forall] at h h' ⊢
  exact fun i hi => h i (h' i hi)

lemma getLsbD_or (p q : Perm) (i : Nat) : (p ||| q).bits.toBitVec.getLsbD i =
    (p.bits.toBitVec.getLsbD i || q.bits.toBitVec.getLsbD i) := by
  rw [bits_or, UInt32.toBitVec_or, BitVec.getLsbD_or]

lemma isRequestable_iff : p.isRequestable = true ↔
    p.contains userRead = true ∧ requestable.contains p = true := by
  rw [isRequestable, Bool.and_eq_true]

/-- What may be asked for, may be asked for together. -/
lemma isRequestable_or (hp : p.isRequestable = true) (hq : requestable.contains q = true) :
    (p ||| q).isRequestable = true := by
  obtain ⟨huser, hin⟩ := isRequestable_iff.1 hp
  rw [contains_iff_forall] at huser hin hq
  refine isRequestable_iff.2 ⟨contains_iff_forall.2 fun i hi => ?_,
    contains_iff_forall.2 fun i hi => ?_⟩
  · rw [getLsbD_or, huser i hi, Bool.true_or]
  · rw [getLsbD_or, Bool.or_eq_true] at hi
    exact hi.elim (hin i) (hq i)

lemma or_and_bits (a b c : UInt32) : (a ||| b) &&& c = a &&& c ||| b &&& c :=
  UInt32.toBitVec_inj.1 BitVec.and_or_distrib_right

/-- The bit for presence says nothing about writing. -/
lemma contains_writable_present (p : Perm) :
    (p ||| .present).contains .writable = p.contains .writable := by
  have hbits : (p ||| .present).bits &&& writable.bits = p.bits &&& writable.bits := by
    rw [bits_or, or_and_bits]
    exact UInt32.or_zero
  rw [Bool.eq_iff_iff, contains_iff, contains_iff, hbits]

/-- A word loses nothing of what the other one has. -/
lemma contains_and {r : Perm} (h : q.contains r = true) :
    (p &&& q).contains r = p.contains r := by
  rw [contains_iff] at h
  have hbits : (p &&& q).bits &&& r.bits = p.bits &&& r.bits := by
    rw [bits_and, UInt32.and_assoc, h]
  rw [Bool.eq_iff_iff, contains_iff, contains_iff, hbits]

/-- Words that both have all bits of a third have some bit in common, if it has any. -/
lemma meets_of_contains {r : Perm} (hp : p.contains r = true) (hq : q.contains r = true)
    (hr : r ≠ none) : p.meets q = true := by
  rw [meets, decide_eq_true_eq]
  intro hnone
  have hall : (p &&& q).contains r = true := (contains_and hq).trans hp
  rw [hnone, contains_iff] at hall
  exact hr (congrArg Perm.mk (hall.symm.trans UInt32.zero_and))

/-- What may be asked for, is there. -/
lemma or_present (h : p.isRequestable = true) : p ||| .present = p := by
  have hin := contains_iff_forall.1 (contains_trans (isRequestable_iff.1 h).1
    (show userRead.contains present = true from rfl))
  have hbits : (p ||| present).bits = p.bits := by
    refine UInt32.toBitVec_inj.1 (BitVec.eq_of_getLsbD_eq fun i _ => ?_)
    rw [getLsbD_or, Bool.or_eq_left_iff_imp]
    exact hin i
  exact congrArg Perm.mk hbits

/-- What may be asked for, is not nothing. -/
lemma isEmpty_of_isRequestable (h : p.isRequestable = true) : p.isEmpty = false := by
  rw [isEmpty, decide_eq_false_iff_not]
  rintro rfl
  exact absurd h (by decide)

end Perm

namespace Machine

variable {m m' : Machine} {s n frame : Nat} {va : VirtAddr} {perm : Perm} {e : Mapping}
  {kept : List Nat}

/-! ### What all pages allow -/

/-- **Every page allows what a call may ask for**, and nothing else. -/
def Permitted (m : Machine) : Prop :=
  ∀ s page e, m.mapping? s page = some e → e.perm.isRequestable = true

/-- A page lets user code write a frame. -/
def Writes (m : Machine) (n s page : Nat) : Prop :=
  ∃ e, m.mapping? s page = some e ∧ e.frame = n ∧ e.perm.contains .writable = true

/-- No page lets user code write a frame. -/
def Sealed (m : Machine) (n : Nat) : Prop := ∀ s page, ¬ m.Writes n s page

/-- It is seen by looking at all pages. -/
lemma sealed_iff : m.Sealed n ↔ ∀ a ∈ m.spaces.spaces.values, ∀ e ∈ a.pages.values,
    e.frame = n → e.perm.contains .writable = false := by
  simp only [SortedMap.mem_values_iff]
  constructor
  · rintro h a ⟨s, ha⟩ e ⟨page, he⟩ hframe
    rw [Bool.eq_false_iff]
    exact fun hwritable => h s page ⟨e, (mapping?_of_space? ha page).trans he, hframe, hwritable⟩
  · rintro h s page ⟨e, he, hframe, hwritable⟩
    obtain ⟨a, ha, hpage⟩ := Option.bind_eq_some_iff.1 he
    rw [h a ⟨s, ha⟩ e ⟨page, hpage⟩ hframe] at hwritable
    cases hwritable

instance (m : Machine) (n : Nat) : Decidable (m.Sealed n) := decidable_of_iff' _ sealed_iff

/-- **Every page has what it allows** from a page that showed the same frame before. It may be
written only if that could, and allows the same, or what a call may ask for. -/
def Passes (m m' : Machine) : Prop :=
  ∀ s page e, m'.mapping? s page = some e → ∃ s₀ page₀ e₀, m.mapping? s₀ page₀ = some e₀ ∧
    e₀.frame = e.frame ∧ (e.perm.contains .writable = true → e₀.perm.contains .writable = true) ∧
    (e.perm.isRequestable = true ∨ e.perm = e₀.perm)

namespace Passes

/-- Pages that show what they showed, or nothing. -/
lemma of_mapping? (h : ∀ s page e, m'.mapping? s page = some e → m.mapping? s page = some e) :
    m.Passes m' := fun s page e he => ⟨s, page, e, h s page e he, rfl, fun hw => hw, .inr rfl⟩

/-- A page comes to show a frame that some page shows. -/
lemma map (hf : m.Offers frame perm) (h : m.map s frame va perm = .ok m') : m.Passes m' := by
  intro s' page e he
  rw [mapping?_map h] at he
  split at he
  · cases he
    obtain ⟨s₀, page₀, e₀, he₀, hframe, hw⟩ := hf.source
    refine ⟨s₀, page₀, e₀, he₀, hframe, fun h => hw ?_,
      .inl (Perm.isRequestable_or hf.requestable rfl)⟩
    exact (Perm.contains_writable_present perm).symm.trans h
  · exact of_mapping? (fun _ _ _ h => h) s' page e he

lemma permitted (h : m.Passes m') (hm : m.Permitted) : m'.Permitted := fun s page e he => by
  obtain ⟨s₀, page₀, e₀, he₀, -, -, hperm | hsame⟩ := h s page e he
  · exact hperm
  · exact hsame ▸ hm s₀ page₀ e₀ he₀

/-- **Passing on breaks no seal.** -/
lemma sealed (h : m.Passes m') (hm : m.Sealed n) : m'.Sealed n := by
  rintro s page ⟨e, he, hframe, hwritable⟩
  obtain ⟨s₀, page₀, e₀, he₀, hsame, hw, -⟩ := h s page e he
  exact hm s₀ page₀ ⟨e₀, he₀, hsame.trans hframe, hw hwritable⟩

end Passes

lemma Remap.passes (h : Remap s m m') : m.Passes m' := by
  cases h with
  | mapKept hf h =>
    have hpass := Passes.map (m := m.retain _) ⟨hf.requestable, hf.source⟩ h
    exact hpass
  | kept hf => exact .of_mapping? fun _ _ _ h => h
  | unmap va =>
    refine .of_mapping? fun s' page e he => ?_
    rw [mapping?_unmap] at he
    split at he
    · cases he
    · exact he

/-! ### Fresh pages -/

/-- What pages show once one of them was filled with zeros: what they showed, or that one a frame
that was free. -/
lemma mapping?_mapZeroed {s' page : Nat}
    (he : (m.mapZeroed s va perm).2.mapping? s' page = some e) :
    m.mapping? s' page = some e ∨ s = s' ∧ e.perm = perm ||| .present ∧
      ∃ pool, m.frames.alloc? = some (e.frame, pool) := by
  rw [mapZeroed] at he
  split at he
  · exact .inl he
  · next frame m₁ ha =>
    obtain ⟨frames, hall, rfl⟩ := allocFrame_cases ha
    dsimp only at he
    split at he
    · exact .inl he
    · next m₂ hm =>
      rw [mapping?_map hm] at he
      split at he
      · next hc =>
        cases he
        exact .inr ⟨hc.1, rfl, frames, hall⟩
      · exact .inl he

/-- What is in use is not given out. -/
lemma Accounted.ne_of_alloc? {kept loose : List Nat} (h : m.Accounted kept loose)
    (hin : (m.frames.allocated? n).isSome) {pool : FramePool}
    (hall : m.frames.alloc? = some (frame, pool)) : frame ≠ n := by
  rintro rfl
  exact h.ledger.backs.not_mem_free hin
    (FramePool.free_of_alloc? hall ▸ List.mem_cons_self)

/-- **A fresh page breaks no seal** of a frame that is in use. -/
lemma Sealed.mapZeroed (h : m.Sealed n) (hacc : m.Accounted kept [])
    (hin : (m.frames.allocated? n).isSome) : (m.mapZeroed s va perm).2.Sealed n := by
  rintro s' page ⟨e, he, hframe, hwritable⟩
  rcases mapping?_mapZeroed he with hold | ⟨-, -, pool, hall⟩
  · exact h s' page ⟨e, hold, hframe, hwritable⟩
  · exact hacc.ne_of_alloc? hin hall hframe

lemma Permitted.mapZeroed (h : m.Permitted) (hperm : perm.isRequestable = true) :
    (m.mapZeroed s va perm).2.Permitted := fun s' page e he => by
  rcases mapping?_mapZeroed he with hold | ⟨-, hsame, -⟩
  · exact h s' page e hold
  · rw [hsame]
    exact Perm.isRequestable_or hperm rfl

/-- Work lets no page allow what calls may not ask for. -/
lemma Work.permitted (h : Work s m m') (hm : m.Permitted) : m'.Permitted := by
  cases h with
  | widen he hperm h =>
    intro s' page e' he'
    rw [mapping?_map h] at he'
    split at he'
    · cases he'
      refine Perm.isRequestable_or (Perm.isRequestable_or (hm _ _ _ he) ?_) rfl
      exact (Perm.isRequestable_iff.1 hperm).2
    · exact hm s' page e' he'
  | fill va hperm => exact hm.mapZeroed hperm
  | write va data => exact hm

lemma Works.permitted (h : Works s m m') (hm : m.Permitted) : m'.Permitted := by
  induction h with
  | refl => exact hm
  | tail _ h ih => exact h.permitted ih

/-! ### Frames that an address space does not show -/

/-- Address space `s` shows frame `n` nowhere. -/
def Hides (m : Machine) (s n : Nat) : Prop :=
  ∀ page e, m.mapping? s page = some e → e.frame ≠ n

/-- A frame stays in use when a page comes to show another one that did not show it. -/
lemma isSome_map (h : m.map s frame va perm = .ok m') (hin : (m.frames.allocated? n).isSome)
    (hhides : m.Hides s n) : (m'.frames.allocated? n).isSome := by
  obtain ⟨-, m₁, hens, rfl⟩ := map_cases h
  obtain ⟨a, ha⟩ := space?_ensureTable hens
  have hin₁ := isSome_ensureTable hens hin
  rw [setPage_eq ha]
  change ((exchange m₁.frames frame (a.pages.find? va.page)).allocated? n).isSome
  cases hold : a.pages.find? va.page with
  | none => exact FramePool.isSome_allocated?_retain.trans hin₁
  | some old =>
    refine FramePool.isSome_release_of_ne (hhides va.page old ?_)
      (FramePool.isSome_allocated?_retain.trans hin₁)
    rw [← mapping?_ensureTable hens, mapping?_of_space? ha, hold]

/-- **Work on an address space** that does not show a frame in use leaves the frame in use, and the
address space does not come to show it. -/
lemma Work.hides (h : Work s m m') (hacc : m.Accounted kept [])
    (hin : (m.frames.allocated? n).isSome) (hhides : m.Hides s n) :
    (m'.frames.allocated? n).isSome ∧ m'.Hides s n := by
  cases h with
  | @widen _ e va perm he hperm h =>
    refine ⟨isSome_map h hin hhides, fun page e' he' => ?_⟩
    rw [mapping?_map h] at he'
    split at he'
    · cases he'
      exact hhides _ e he
    · exact hhides page e' he'
  | @fill va perm hperm =>
    refine ⟨?_, fun page e he => ?_⟩
    · rw [mapZeroed]
      split
      · exact hin
      · next frame m₁ ha =>
        obtain ⟨frames, hall, rfl⟩ := allocFrame_cases ha
        have hcleared : ((frames.clear frame).allocated? n).isSome :=
          FramePool.isSome_allocated?_clear.trans (FramePool.isSome_alloc? hall hin)
        dsimp only
        split
        · exact FramePool.isSome_discard_of_ne (hacc.ne_of_alloc? hin hall) hcleared
        · next m₂ hm =>
          exact isSome_map (m := { m with frames := frames.clear frame }) hm hcleared hhides
    · rcases mapping?_mapZeroed he with hold | ⟨-, -, pool, hall⟩
      · exact hhides page e hold
      · exact hacc.ne_of_alloc? hin hall
  | write va data => exact ⟨(isSome_writePieces ..).trans hin, hhides⟩

lemma Works.hides (h : Works s m m') (hacc : m.Accounted kept [])
    (hin : (m.frames.allocated? n).isSome) (hhides : m.Hides s n) : m'.Hides s n := by
  suffices hall : m'.Accounted kept [] ∧ (m'.frames.allocated? n).isSome ∧ m'.Hides s n from
    hall.2.2
  induction h with
  | refl => exact ⟨hacc, hin, hhides⟩
  | tail _ h ih => exact ⟨h.accounted ih.1, h.hides ih.1 ih.2.1 ih.2.2⟩

/-- **Work on an address space that does not show a frame** in use breaks no seal of the frame. -/
lemma Works.sealed (h : Works s m m') (hacc : m.Accounted kept [])
    (hin : (m.frames.allocated? n).isSome) (hhides : m.Hides s n) (hm : m.Sealed n) :
    m'.Sealed n := by
  rintro s' page ⟨e, he, hframe, hwritable⟩
  by_cases hs : s = s'
  · subst hs
    exact h.hides hacc hin hhides page e he hframe
  · rw [h.mapping?_of_ne hs] at he
    exact hm s' page ⟨e, he, hframe, hwritable⟩

end Machine

end Exokernel
