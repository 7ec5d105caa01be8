/-
Pages that are copied.

* `Machine.copied`: a page that is copied to a fresh one;
* `Machine.Mended`, `Mended.of_steps`: **a page that shows a copy of its own** with the bytes that
  it had, while nothing else changes.
-/
import Exokernel.Proofs.Memory.Attempts
import Exokernel.Proofs.Memory.Guards

namespace Exokernel

open Layout

/-- A call may ask for a page to read and write. -/
lemma Perm.isRequestable_userWrite : userWrite.isRequestable = true := by decide

/-- It may be written. -/
lemma Perm.contains_userWrite : userWrite.contains .writable = true := by decide

namespace Machine

variable {m m' : Machine} {s n page twin : Nat} {va srcVa : VirtAddr} {e : Mapping}
  {kept kept' : List Nat}

/-- A page is the range of its bytes. -/
lemma pagesOf_page (page : Nat) : pagesOf (page * pageSize) pageSize = [page] := by
  have hps : pageSize = 4096 := rfl
  have hfirst : page * pageSize / pageSize = page := Nat.mul_div_cancel _ (by decide)
  have hlast : (page * pageSize + pageSize - 1) / pageSize = page := by
    simp only [hps]
    omega
  rw [pagesOf, if_neg (by decide), hfirst, hlast]
  dsimp only
  rw [Nat.sub_self]
  rfl

/-- A page that shows something is covered. -/
lemma covered_page (hacc : m.Accounted kept []) (he : m.mapping? s page = some e)
    (hperm : e.perm.isRequestable = true) (hva : va.toNat = page * pageSize) :
    m.Covered s va pageSize := by
  refine ⟨?_, fun q hq => ?_⟩
  · rw [hva]
    exact place_lt_userTop (hacc.below s page e he) (by decide : pageSize - 1 < pageSize)
  · rw [hva, pagesOf_page, List.mem_singleton] at hq
    exact ⟨e, hq ▸ he, hperm⟩

/-- **A page that is copied** to one that may be written: the frame that is shown there holds the
same bytes afterwards, and no other frame changes. -/
lemma copied (hacc : m.Accounted kept []) (he : m.mapping? s page = some e)
    (hperm : e.perm.isRequestable = true) (htwin : m.mapping? s twin = some ⟨n, .userWrite⟩)
    (hsrc : srcVa.toNat = page * pageSize) (hva : va.toNat = twin * pageSize) :
    ∃ bytes, m.userRead s srcVa pageSize 0 = .ok bytes ∧ (m.userWrite s va bytes).1 = .ok () ∧
      (∀ k, k ≠ n → (m.userWrite s va bytes).2.frames.contents? k = m.frames.contents? k) ∧
      ∀ i < pageSize, (m.userWrite s va bytes).2.frames.byte? n i = m.frames.byte? e.frame i := by
  obtain ⟨bytes, hread⟩ := (covered_page hacc he hperm hsrc).userRead_ok 0
  obtain ⟨hlen, hbytes⟩ := userRead_getElem? hacc hread
  have hcovered : m.Covered s va bytes.length :=
    hlen ▸ covered_page hacc htwin Perm.isRequestable_userWrite hva
  have honly : ∀ q ∈ pagesOf va.toNat bytes.length, q = twin := fun q hq => by
    rwa [hva, hlen, pagesOf_page, List.mem_singleton] at hq
  have hok : (m.userWrite s va bytes).1 = .ok () := hcovered.userWrite_ok fun q hq e' he' => by
    rw [honly q hq, htwin, Option.some.injEq] at he'
    rw [← he', Perm.contains_userWrite]
  refine ⟨bytes, hread, hok, fun k hk => ?_, fun i hi => ?_⟩
  · refine contents?_userWrite_range hcovered.below fun q hq e' he' _ heq => hk ?_
    rw [honly q hq, htwin, Option.some.injEq] at he'
    rw [← heq, ← he']
  · have hwritten : m.userWritten s va bytes = pageSize := (userWritten_of_ok hok).trans hlen
    have htwin' : (m.userWrite s va bytes).2.mapping? s twin = some ⟨n, .userWrite⟩ := htwin
    have hbyte := byte?_userWrite hacc bytes htwin
      (fun q hq _ _ _ _ => honly q hq) hi
    rw [hwritten, hva, if_pos ⟨Nat.le_add_right _ _, Nat.add_lt_add_left hi _⟩,
      Nat.add_sub_cancel_left, byte?_of_mapping? htwin' hi] at hbyte
    have hlt : page * pageSize + i < userTop := place_lt_userTop (hacc.below s page e he) hi
    rw [hbyte, hbytes i hi (by rwa [hsrc]), hsrc, byte?_of_mapping? he hi]

/-- **A page that was mended** shows a frame of its own for writing, with the bytes that it had. No
other page changes, and no frame that was shown. -/
structure Mended (m : Machine) (s page : Nat) (m' : Machine) : Prop where
  own : ∃ n, n ∉ m.shownFrames ∧ m'.mapping? s page = some ⟨n, .userWrite⟩
  bytes : ∀ i < pageSize, m'.byte? s (page * pageSize + i) = m.byte? s (page * pageSize + i)
  others : ∀ t q, ¬ (t = s ∧ q = page) → m'.mapping? t q = m.mapping? t q
  contents : ∀ n ∈ m.shownFrames, m'.frames.contents? n = m.frames.contents? n

/-- **The steps of the handler**: a fresh page that nothing showed before, a copy there, the frame
of the copy at the page, and nothing at the page of the copy any more. -/
lemma Mended.of_steps {m₁ m₂ m₃ m₄ : Machine} (hacc : m.Accounted kept [])
    (hacc₂ : m₂.Accounted kept' [])
    (he : m.mapping? s page = some e) (hne : page ≠ twin) (hnone : m.mapping? s twin = none)
    (hfresh : n ∉ m.shownFrames) (hput : m.Puts s twin ⟨n, .userWrite⟩ m₁)
    (hmap₂ : ∀ t q, m₂.mapping? t q = m₁.mapping? t q)
    (hothers₂ : ∀ k, k ≠ n → m₂.frames.contents? k = m₁.frames.contents? k)
    (hbytes₂ : ∀ i < pageSize, m₂.frames.byte? n i = m₁.frames.byte? e.frame i)
    (hput₃ : m₂.Puts s page ⟨n, .userWrite⟩ m₃)
    (hmap₄ : ∀ t q, m₄.mapping? t q = if s = t ∧ twin = q then none else m₃.mapping? t q)
    (hcont₄ : ∀ k, m₄.frames.contents? k = m₃.frames.contents? k) : m.Mended s page m₄ := by
  have hself : m₄.mapping? s page = some ⟨n, .userWrite⟩ := by
    rw [hmap₄, if_neg fun hc => hne hc.2.symm, hput₃.mapping, if_pos ⟨rfl, rfl⟩]
  have htwin : m₂.mapping? s twin = some ⟨n, .userWrite⟩ := by
    rw [hmap₂, hput.mapping, if_pos ⟨rfl, rfl⟩]
  have hkept : ∀ k ∈ m.shownFrames, m₁.frames.contents? k = m.frames.contents? k := fun k hk => by
    obtain ⟨t, q, e', he', rfl⟩ := mem_shownFrames_iff.1 hk
    exact hput.contents _ (hacc.isSome_of_mapping? he')
  refine ⟨⟨n, hfresh, hself⟩, fun i hi => ?_, fun t q hother => ?_, fun k hk => ?_⟩
  · have hshown : e.frame ∈ m.shownFrames := mem_shownFrames_iff.2 ⟨s, page, e, he, rfl⟩
    have hcopy : m₄.frames.contents? n = m₂.frames.contents? n :=
      (hcont₄ n).trans (hput₃.contents n (hacc₂.isSome_of_mapping? htwin))
    rw [byte?_of_mapping? hself hi, byte?_of_mapping? he hi,
      FramePool.byte?_eq_of_contents? hcopy, hbytes₂ i hi]
    exact FramePool.byte?_eq_of_contents? (hkept _ hshown) i
  · rw [hmap₄]
    split
    · next hc =>
      obtain ⟨rfl, rfl⟩ := hc
      exact hnone.symm
    · next hc =>
      rw [hput₃.mapping, if_neg fun hc => hother ⟨hc.1.symm, hc.2.symm⟩, hmap₂, hput.mapping,
        if_neg hc]
  · have hne' : k ≠ n := fun heq => hfresh (heq ▸ hk)
    obtain ⟨t, q, e', he', rfl⟩ := mem_shownFrames_iff.1 hk
    have he₂ : ∃ t q e₂, m₂.mapping? t q = some e₂ ∧ e₂.frame = e'.frame := by
      refine ⟨t, q, e', ?_, rfl⟩
      rw [hmap₂, hput.mapping, if_neg, he']
      rintro ⟨rfl, rfl⟩
      rw [hnone] at he'
      cases he'
    obtain ⟨t, q, e₂, he₂, hframe⟩ := he₂
    rw [hcont₄, hput₃.contents _ (hframe ▸ hacc₂.isSome_of_mapping? he₂), hothers₂ _ hne',
      hkept _ hk]

end Machine

end Exokernel
