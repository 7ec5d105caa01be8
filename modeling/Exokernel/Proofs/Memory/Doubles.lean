/-
Pages that are shown in two address spaces instead of one.

* `Mapping.forked`: what a page shows once it was shown in a child as well;
* `Machine.Preserves`: the frames that are shown stay shown, and hold what they held;
* `Machine.Doubled`: **pages of one address space are shown in another**, and no other page changes;
* `Doubled.of_puts`, `Doubled.of_puts_puts`: one page; `Doubled.trans`: pages after pages;
* `Machine.byte?_mapZeroed`: a fresh page holds zeros;
* `Machine.FreshPage`: a page of zeros that is shown nowhere else.
-/
import Exokernel.LibOS.Fork
import Exokernel.Proofs.Memory.Guards
import Exokernel.Proofs.Memory.Likeness

namespace Exokernel

open Layout

/-! ### Permissions -/

namespace Perm

variable {p : Perm}

/-- What may be asked for has no bits but those that may. -/
lemma and_requestable (h : p.isRequestable = true) : p &&& .requestable = p := by
  have hin := contains_iff.1 (isRequestable_iff.1 h).2
  have hbits : (p &&& .requestable).bits = p.bits := by
    rw [bits_and, UInt32.and_comm]
    exact hin
  exact congrArg Perm.mk hbits

/-- A page may be asked for without the permission to write it, and to be copied then. -/
lemma isRequestable_readOnlyCopy (h : p.isRequestable = true) :
    (Program.readOnlyCopy p).isRequestable = true := by
  obtain ⟨huser, hin⟩ := isRequestable_iff.1 h
  rw [contains_iff] at huser hin
  refine isRequestable_or (isRequestable_iff.2 ⟨contains_iff.2 ?_, contains_iff.2 ?_⟩) (by decide)
  · have hread : ~~~writable.bits &&& userRead.bits = userRead.bits := by decide
    rw [bits_sub, UInt32.and_assoc, hread, huser]
  · rw [bits_sub, ← UInt32.and_assoc, hin]

end Perm

/-- **What a page shows once it was shown in a child as well**: a page that may be written, or that
is copied when it is written, is to be copied from now on, unless it stays shared. -/
def Mapping.forked (e : Mapping) : Mapping :=
  if e.perm.contains .share then e
  else if e.perm.meets (.writable ||| .copyOnWrite) then
    { e with perm := Program.readOnlyCopy e.perm }
  else e

@[simp] lemma Mapping.frame_forked (e : Mapping) : e.forked.frame = e.frame := by
  rw [forked]
  split
  · rfl
  · split <;> rfl

namespace Machine

variable {m m' m'' : Machine} {s s' page q n : Nat} {e e₁ : Mapping} {va : VirtAddr} {perm : Perm}
  {kept loose : List Nat} {P Q : Nat → Prop}

/-- What is shown and held depends on frames and address spaces only. -/
lemma same_of_eq (hframes : m'.frames = m.frames) (hspaces : m'.spaces = m.spaces) :
    (∀ t q, m'.mapping? t q = m.mapping? t q) ∧
      ∀ n, m'.frames.contents? n = m.frames.contents? n :=
  ⟨mapping?_of_spaces hspaces, fun n => by rw [hframes]⟩

/-! ### Frames that stay shown -/

/-- The frames that are shown stay shown, and hold what they held. -/
def Preserves (m m' : Machine) : Prop :=
  ∀ n ∈ m.shownFrames, n ∈ m'.shownFrames ∧ m'.frames.contents? n = m.frames.contents? n

namespace Preserves

lemma refl (m : Machine) : m.Preserves m := fun _ hn => ⟨hn, rfl⟩

lemma trans (h : m.Preserves m') (h' : m'.Preserves m'') : m.Preserves m'' := fun n hn =>
  ⟨(h' n (h n hn).1).1, (h' n (h n hn).1).2.trans (h n hn).2⟩

/-- The same pages with the same contents. -/
lemma of_same (hmap : ∀ s page, m'.mapping? s page = m.mapping? s page)
    (hcont : ∀ n, m'.frames.contents? n = m.frames.contents? n) : m.Preserves m' := fun n hn => by
  obtain ⟨s, page, e, he, rfl⟩ := mem_shownFrames_iff.1 hn
  exact ⟨mem_shownFrames_iff.2 ⟨s, page, e, (hmap s page).trans he, rfl⟩, hcont _⟩

/-- A page that is put shows the frame that it showed, or showed nothing before. -/
lemma of_puts (hput : m.Puts s page e m') (hacc : m.Accounted kept loose)
    (hold : ∀ e₀, m.mapping? s page = some e₀ → e₀.frame = e.frame) :
    m.Preserves m' := fun n hn => by
  obtain ⟨t, q, e₀, he₀, rfl⟩ := mem_shownFrames_iff.1 hn
  refine ⟨mem_shownFrames_iff.2 ?_, hput.contents _ (hacc.isSome_of_mapping? he₀)⟩
  by_cases hsame : s = t ∧ page = q
  · obtain ⟨rfl, rfl⟩ := hsame
    exact ⟨s, page, e, (hput.mapping s page).trans (if_pos ⟨rfl, rfl⟩), (hold e₀ he₀).symm⟩
  · exact ⟨t, q, e₀, ((hput.mapping t q).trans (if_neg hsame)).trans he₀, rfl⟩

/-- A page that shows a frame which was shown reads as that frame did. -/
lemma byte?_eq (h : m.Preserves m') {a : Nat}
    (hmap : (m'.mapping? s' (a / pageSize)).map (·.frame) =
      (m.mapping? s (a / pageSize)).map (·.frame)) : m'.byte? s' a = m.byte? s a := by
  rw [byte?, byte?]
  cases he : m.mapping? s (a / pageSize) with
  | none =>
    rw [he, Option.map_none, Option.map_eq_none_iff] at hmap
    rw [hmap]
    rfl
  | some e =>
    rw [he, Option.map_some, Option.map_eq_some_iff] at hmap
    obtain ⟨e', he', hframe⟩ := hmap
    rw [he', Option.bind_some, Option.bind_some, hframe]
    exact FramePool.byte?_eq_of_contents?
      (h _ (mem_shownFrames_iff.2 ⟨s, _, e, he, rfl⟩)).2 _

end Preserves

/-! ### Pages that are doubled -/

/-- **The pages in `P` are doubled**: what address space `s` shows there is shown in address space
`s'` as well. No other page changes, and no contents. -/
structure Doubled (m : Machine) (s s' : Nat) (P : Nat → Prop) (m' : Machine) : Prop where
  parent : ∀ page, P page → m'.mapping? s page = (m.mapping? s page).map .forked
  child : ∀ page, P page → m'.mapping? s' page = (m.mapping? s page).map .forked
  others : ∀ t page, ¬ (P page ∧ (t = s ∨ t = s')) → m'.mapping? t page = m.mapping? t page
  preserves : m.Preserves m'

namespace Doubled

lemma refl (m : Machine) (s s' : Nat) : m.Doubled s s' (fun _ => False) m :=
  ⟨fun _ => False.elim, fun _ => False.elim, fun _ _ _ => rfl, .refl m⟩

lemma congr (h : m.Doubled s s' P m') (hPQ : ∀ page, P page ↔ Q page) : m.Doubled s s' Q m' := by
  obtain rfl : P = Q := funext fun page => propext (hPQ page)
  exact h

/-- **Pages after pages.** None is doubled twice. -/
lemma trans (h : m.Doubled s s' P m') (h' : m'.Doubled s s' Q m'')
    (hPQ : ∀ page, P page → ¬ Q page) : m.Doubled s s' (fun page => P page ∨ Q page) m'' where
  parent page := by
    rintro (hP | hQ)
    · rw [h'.others s page fun hc => hPQ page hP hc.1, h.parent page hP]
    · rw [h'.parent page hQ, h.others s page fun hc => hPQ page hc.1 hQ]
  child page := by
    rintro (hP | hQ)
    · rw [h'.others s' page fun hc => hPQ page hP hc.1, h.child page hP]
    · rw [h'.child page hQ, h.others s page fun hc => hPQ page hc.1 hQ]
  others t page hnot := by
    rw [h'.others t page fun hc => hnot ⟨.inr hc.1, hc.2⟩,
      h.others t page fun hc => hnot ⟨.inl hc.1, hc.2⟩]
  preserves := h.preserves.trans h'.preserves

/-- A page that shows the same in both. -/
lemma of_puts (hacc : m.Accounted kept loose) (hne : s ≠ s') (he : m.mapping? s page = some e)
    (hnone : m.mapping? s' page = none) (hsame : e.forked = e) (hput : m.Puts s' page e m') :
    m.Doubled s s' (· = page) m' where
  parent q hq := by
    subst hq
    rw [hput.mapping, if_neg fun hc => hne hc.1.symm, he, Option.map_some, hsame]
  child q hq := by
    subst hq
    rw [hput.mapping, if_pos ⟨rfl, rfl⟩, he, Option.map_some, hsame]
  others t q hnot := by
    rw [hput.mapping, if_neg fun hc => hnot ⟨hc.2.symm, .inr hc.1.symm⟩]
  preserves := .of_puts hput hacc fun e₀ he₀ => by
    rw [hnone] at he₀
    cases he₀

/-- A page that comes to show something else in its own address space, too. -/
lemma of_puts_puts {kept' loose' : List Nat} (hacc : m.Accounted kept loose)
    (hacc' : m'.Accounted kept' loose') (hne : s ≠ s')
    (he : m.mapping? s page = some e) (hnone : m.mapping? s' page = none)
    (hput : m.Puts s' page e.forked m') (hput' : m'.Puts s page e.forked m'') :
    m.Doubled s s' (· = page) m'' where
  parent q hq := by
    subst hq
    rw [hput'.mapping, if_pos ⟨rfl, rfl⟩, he, Option.map_some]
  child q hq := by
    subst hq
    rw [hput'.mapping, if_neg fun hc => hne hc.1, hput.mapping, if_pos ⟨rfl, rfl⟩, he,
      Option.map_some]
  others t q hnot := by
    rw [hput'.mapping, if_neg fun hc => hnot ⟨hc.2.symm, .inl hc.1.symm⟩, hput.mapping,
      if_neg fun hc => hnot ⟨hc.2.symm, .inr hc.1.symm⟩]
  preserves := by
    have hfirst : m.Preserves m' := .of_puts hput hacc fun e₀ he₀ => by
      rw [hnone] at he₀
      cases he₀
    refine hfirst.trans (.of_puts hput' hacc' fun e₀ he₀ => ?_)
    rw [hput.mapping, if_neg fun hc => hne hc.1.symm, he, Option.some.injEq] at he₀
    rw [← he₀, Mapping.frame_forked]

/-- Pages that show nothing are doubled as they are. -/
lemma widen (h : m.Doubled s s' P m') (hPQ : ∀ page, P page → Q page)
    (hnone : ∀ page, Q page → ¬ P page →
      m.mapping? s page = none ∧ m.mapping? s' page = none) : m.Doubled s s' Q m' where
  parent page hQ := by
    by_cases hP : P page
    · exact h.parent page hP
    · rw [h.others s page fun hc => hP hc.1, (hnone page hQ hP).1]
      rfl
  child page hQ := by
    by_cases hP : P page
    · exact h.child page hP
    · rw [h.others s' page fun hc => hP hc.1, (hnone page hQ hP).1, (hnone page hQ hP).2]
      rfl
  others t page hnot := h.others t page fun hc => hnot ⟨hPQ page hc.1, hc.2⟩
  preserves := h.preserves

end Doubled

/-! ### Fresh pages -/

/-- A fresh page is a free frame that is cleared and shown. -/
lemma mapZeroed_ok (hok : (m.mapZeroed s va perm).1 = .ok ()) : ∃ n frames,
    m.frames.alloc? = some (n, frames) ∧
      { m with frames := frames.clear n }.map s n va perm = .ok (m.mapZeroed s va perm).2 := by
  rw [mapZeroed] at hok ⊢
  cases ha : m.allocFrame with
  | error e =>
    rw [ha] at hok
    cases hok
  | ok r =>
    obtain ⟨n, m₁⟩ := r
    obtain ⟨frames, hall, rfl⟩ := allocFrame_cases ha
    rw [ha] at hok
    dsimp only at hok ⊢
    cases hm : Machine.map (Machine.clear { m with frames } n) s n va perm with
    | error e =>
      rw [hm] at hok
      cases hok
    | ok m' => exact ⟨n, frames, hall, hm⟩

/-- **A fresh page holds zeros.** -/
lemma byte?_mapZeroed (hacc : m.Accounted kept loose) (hok : (m.mapZeroed s va perm).1 = .ok ())
    (he : (m.mapZeroed s va perm).2.mapping? s va.page = some e) {i : Nat} (hi : i < pageSize) :
    (m.mapZeroed s va perm).2.frames.byte? e.frame i = some 0 := by
  obtain ⟨n, frames, hall, hm⟩ := mapZeroed_ok hok
  rw [mapping?_map hm, if_pos ⟨rfl, rfl⟩, Option.some.injEq] at he
  subst he
  have hzero : (frames.clear n).contents? n = some .zero := by
    have hin := ((hacc.ledger.backs.mem_free_iff n).1
      (FramePool.free_of_alloc? hall ▸ List.mem_cons_self)).1
    rw [FramePool.contents?_clear_alloc? hall, FramePool.contents?_blank,
      Array.getElem?_eq_getElem hin, Option.map_some]
  rw [FramePool.byte?, contents?_map hm, hzero, Option.bind_some, Page.byte?, dif_pos hi]
  rfl

/-- **A page that shows a frame of zeros**, which is shown nowhere else. -/
def FreshPage (m : Machine) (s page : Nat) : Prop :=
  ∃ n, m.mapping? s page = some ⟨n, .userWrite⟩ ∧
    (∀ t q e, m.mapping? t q = some e → e.frame = n → t = s ∧ q = page) ∧
    ∀ i < pageSize, m.frames.byte? n i = some 0

namespace FreshPage

lemma of_puts (hput : m.Puts s page ⟨n, .userWrite⟩ m') (hfresh : n ∉ m.shownFrames)
    (hzero : ∀ i < pageSize, m'.frames.byte? n i = some 0) : m'.FreshPage s page := by
  refine ⟨n, (hput.mapping s page).trans (if_pos ⟨rfl, rfl⟩), fun t q e he hframe => ?_, hzero⟩
  rw [hput.mapping] at he
  split at he
  · next hc => exact ⟨hc.1.symm, hc.2.symm⟩
  · exact absurd (mem_shownFrames_iff.2 ⟨t, q, e, he, hframe⟩) hfresh

/-- A fresh page is so by what is shown and held. -/
lemma congr (h : m.FreshPage s page) (hmap : ∀ t q, m'.mapping? t q = m.mapping? t q)
    (hcont : ∀ n, m'.frames.contents? n = m.frames.contents? n) : m'.FreshPage s page := by
  obtain ⟨n, hn, halone, hzero⟩ := h
  refine ⟨n, (hmap s page).trans hn, fun t q e he => ?_, fun i hi => ?_⟩
  · rw [hmap] at he
    exact halone t q e he
  · rw [FramePool.byte?_eq_of_contents? (hcont n)]
    exact hzero i hi

/-- What is shown elsewhere now was shown elsewhere before, so that the page stays fresh. -/
lemma keep (h : m.FreshPage s page) (hpres : m.Preserves m')
    (hown : m'.mapping? s page = m.mapping? s page)
    (hothers : ∀ t q e, m'.mapping? t q = some e → e.frame ∈ m.shownFrames →
      ¬ (t = s ∧ q = page) → ∃ t' q' e', ¬ (t' = s ∧ q' = page) ∧
        m.mapping? t' q' = some e' ∧ e'.frame = e.frame) : m'.FreshPage s page := by
  obtain ⟨n, hn, halone, hzero⟩ := h
  have hshown : n ∈ m.shownFrames := mem_shownFrames_iff.2 ⟨s, page, _, hn, rfl⟩
  refine ⟨n, hown.trans hn, fun t q e he hframe => ?_, fun i hi => ?_⟩
  · by_contra hne
    obtain ⟨t', q', e', hne', he', hframe'⟩ := hothers t q e he (hframe ▸ hshown) hne
    exact hne' (halone t' q' e' he' (hframe'.trans hframe))
  · rw [FramePool.byte?_eq_of_contents? (hpres n hshown).2]
    exact hzero i hi

/-- The page is no other page that is doubled. -/
lemma doubled (h : m.FreshPage s page) (hdoubled : m.Doubled s s' P m') (hpage : ¬ P page) :
    m'.FreshPage s page := by
  refine h.keep hdoubled.preserves (hdoubled.others s page fun hc => hpage hc.1)
    fun t q e he _ hne => ?_
  by_cases hq : P q ∧ (t = s ∨ t = s')
  · have hshown : (m.mapping? s q).map .forked = some e := by
      obtain ⟨hq, rfl | rfl⟩ := hq
      · rw [← hdoubled.parent q hq, he]
      · rw [← hdoubled.child q hq, he]
    obtain ⟨e', he', rfl⟩ := Option.map_eq_some_iff.1 hshown
    exact ⟨s, q, e', fun hc => hpage (hc.2 ▸ hq.1), he', (Mapping.frame_forked e').symm⟩
  · exact ⟨t, q, e, hne, (hdoubled.others t q hq).symm.trans he, rfl⟩

/-- Another page comes to show a frame that was shown nowhere. -/
lemma puts (h : m.FreshPage s page) (hput : m.Puts s' q ⟨n, perm⟩ m') (hpres : m.Preserves m')
    (hfresh : n ∉ m.shownFrames) (hnone : m.mapping? s' q = none) : m'.FreshPage s page := by
  have hother : ¬ (s' = s ∧ q = page) := by
    rintro ⟨rfl, rfl⟩
    obtain ⟨_, hn, -⟩ := h
    rw [hnone] at hn
    cases hn
  refine h.keep hpres ((hput.mapping s page).trans (if_neg hother)) fun t q' e he hshown hne => ?_
  rw [hput.mapping] at he
  split at he
  · cases he
    exact absurd hshown hfresh
  · exact ⟨t, q', e, hne, he, rfl⟩

end FreshPage

end Machine

end Exokernel
