/-
Memory in the middle of a store that is tried several times.

* `Machine.Storable`: a range whose pages user code may write, or is given copies of;
* `Machine.Outside`, `Machine.Reaches`: frames that are shown outside of the range, and frames that
  are written through it;
* `Machine.Storing`: **how far a store has come**: the pages of the range show what they showed, or
  copies of it, and nothing changed but what is written through them;
* `Storing.userWrite`, `Storing.fault`, `Storing.mended`: an attempt, its fault and the copy that is
  made then leave it so;
* `Machine.sealedPages`: the pages of the range that are still to be copied. A store is refused at
  one of these (`Storable.userWrite_error`), and one that succeeds has none
  (`Covered.sealedPages_of_ok`);
* `sealedPages_mended`: every copy leaves one less.
-/
import Exokernel.Proofs.Memory.Checks
import Exokernel.Proofs.Memory.Copies

namespace Exokernel

open Layout

/-- A predicate that holds of fewer elements counts fewer. -/
lemma countP_lt_countP {α : Type} {p q : α → Bool} {l : List α} {a : α}
    (h : ∀ b ∈ l, p b = true → q b = true) (ha : a ∈ l) (hq : q a = true) (hp : p a = false) :
    l.countP p < l.countP q := by
  obtain ⟨l₁, l₂, rfl⟩ := List.append_of_mem ha
  have hfirst : l₁.countP p ≤ l₁.countP q :=
    List.countP_mono_left fun b hb => h b (List.mem_append_left _ hb)
  have hlast : l₂.countP p ≤ l₂.countP q :=
    List.countP_mono_left fun b hb => h b (List.mem_append_right _ (List.mem_cons_of_mem _ hb))
  rw [List.countP_append, List.countP_append, List.countP_cons_of_neg (by rw [hp]; decide),
    List.countP_cons_of_pos hq]
  omega

/-- If it differs in one element, it counts one less. -/
lemma countP_add_one {α : Type} {p q : α → Bool} {l : List α} {a : α} (hl : l.Nodup)
    (h : ∀ b ∈ l, b ≠ a → p b = q b) (ha : a ∈ l) (hq : q a = true) (hp : p a = false) :
    l.countP p + 1 = l.countP q := by
  obtain ⟨l₁, l₂, rfl⟩ := List.append_of_mem ha
  obtain ⟨hnot, -⟩ := List.nodup_cons.1 (List.perm_middle.nodup_iff.1 hl)
  have hsame : ∀ l' : List α, (∀ b ∈ l', b ∈ l₁ ++ l₂) → l'.countP p = l'.countP q :=
    fun l' hsub => List.countP_congr fun b hb => by
      have hin := List.perm_middle.mem_iff.2 (List.mem_cons_of_mem a (hsub b hb))
      rw [h b hin fun heq => hnot (heq ▸ hsub b hb)]
  rw [List.countP_append, List.countP_append, List.countP_cons_of_neg (by rw [hp]; decide),
    List.countP_cons_of_pos hq, hsame l₁ fun b => List.mem_append_left l₂,
    hsame l₂ fun b => List.mem_append_right l₁]
  rfl

namespace Machine

variable {m m₀ m' : Machine} {s x n len page : Nat} {va : VirtAddr} {e : Mapping}
  {kept : List Nat}
  {data : List UInt8}

/-- **A range that user code can store to**: its pages may be written or are to be copied then, and
show a frame each. -/
structure Storable (m : Machine) (s : Nat) (va : VirtAddr) (len : Nat) : Prop where
  below : va.toNat + len ≤ userTop
  shown : ∀ q ∈ pagesOf va.toNat len, ∃ e, m.mapping? s q = some e ∧
    (e.perm.contains .writable = true ∨ e.perm.contains .copyOnWrite = true)
  apart : ∀ q ∈ pagesOf va.toNat len, ∀ q' ∈ pagesOf va.toNat len, ∀ e e',
    m.mapping? s q = some e → m.mapping? s q' = some e' → e.frame = e'.frame → q = q'

instance : Decidable (m.Storable s va len) :=
  decidable_of_iff (va.toNat + len ≤ userTop ∧
    (∀ q ∈ pagesOf va.toNat len, ∃ e, e ∈ m.mapping? s q ∧
      (e.perm.contains .writable = true ∨ e.perm.contains .copyOnWrite = true)) ∧
    ∀ q ∈ pagesOf va.toNat len, ∀ q' ∈ pagesOf va.toNat len, ∀ e ∈ m.mapping? s q,
      ∀ e' ∈ m.mapping? s q', e.frame = e'.frame → q = q')
    ⟨fun ⟨hbelow, hshown, hapart⟩ => ⟨hbelow, hshown, fun q hq q' hq' e e' he he' =>
        hapart q hq q' hq' e he e' he'⟩,
      fun h => ⟨h.below, h.shown, fun q hq q' hq' e he e' he' => h.apart q hq q' hq' e e' he he'⟩⟩

/-- A frame that is shown outside of the range. -/
def Outside (m : Machine) (s : Nat) (va : VirtAddr) (len n : Nat) : Prop :=
  ∃ t q e, ¬ (t = s ∧ q ∈ pagesOf va.toNat len) ∧ m.mapping? t q = some e ∧ e.frame = n

/-- A frame that is written through the range. -/
def Reaches (m : Machine) (s : Nat) (va : VirtAddr) (len n : Nat) : Prop :=
  ∃ q ∈ pagesOf va.toNat len, ∃ e, m.mapping? s q = some e ∧ e.frame = n ∧
    e.perm.contains .writable = true

instance : Decidable (m.Reaches s va len n) :=
  decidable_of_iff (∃ q ∈ pagesOf va.toNat len, ∃ e, e ∈ m.mapping? s q ∧
    (e.frame = n ∧ e.perm.contains .writable = true)) Iff.rfl

/-- **Memory in the middle of a store** that began with machine `m₀`, whose process has frame `x` on
its exception stack and finds its fault frames at the places `P` of it. A page of the range shows
what it showed, or a frame of its own; outside of the range all pages show what they showed. -/
structure Storing (m₀ : Machine) (s x : Nat) (va : VirtAddr) (len : Nat) (P : Nat → Prop)
    (m : Machine) : Prop where
  others : ∀ t q, ¬ (t = s ∧ q ∈ pagesOf va.toNat len) → m.mapping? t q = m₀.mapping? t q
  pages : ∀ q ∈ pagesOf va.toNat len, m.mapping? s q = m₀.mapping? s q ∨
    ∃ n, ¬ m₀.Outside s va len n ∧ m.mapping? s q = some ⟨n, .userWrite⟩
  /-- What is not written through the range is kept, but for fault frames. -/
  contents : ∀ n, m₀.Outside s va len n → n ≠ x → ¬ m₀.Reaches s va len n →
    m.frames.contents? n = m₀.frames.contents? n
  /-- On the exception stack, so is what lies beside the fault frames. -/
  stack : ¬ m₀.Reaches s va len x → ∀ i < pageSize, ¬ P i →
    m.frames.byte? x i = m₀.frames.byte? x i
  /-- So is what lies on the pages of the range, beside it. -/
  bytes : ∀ q ∈ pagesOf va.toNat len, ∀ e, m₀.mapping? s q = some e → e.frame ≠ x →
    ∀ i < pageSize, ¬ (va.toNat ≤ q * pageSize + i ∧ q * pageSize + i < va.toNat + len) →
      m.byte? s (q * pageSize + i) = m₀.byte? s (q * pageSize + i)

namespace Storable

/-- All pages of the range are there for user code. -/
lemma covered (h : m.Storable s va len) (hperm : m.Permitted) : m.Covered s va len :=
  ⟨h.below, fun q hq => by
    obtain ⟨e, he, -⟩ := h.shown q hq
    exact ⟨e, he, hperm s q e he⟩⟩

/-- What can be stored to depends on pages only. -/
lemma congr (h : m.Storable s va len)
    (hmap : ∀ q ∈ pagesOf va.toNat len, m'.mapping? s q = m.mapping? s q) :
    m'.Storable s va len := by
  refine ⟨h.below, fun q hq => ?_, fun q hq q' hq' e e' he he' => ?_⟩
  · rw [hmap q hq]
    exact h.shown q hq
  · rw [hmap q hq] at he
    rw [hmap q' hq'] at he'
    exact h.apart q hq q' hq' e e' he he'

/-- **A store that succeeds** leaves its bytes in the range. -/
lemma byte?_stored (h : m.Storable s va data.length) (hacc : m.Accounted kept [])
    (hok : (m.userWrite s va data).1 = .ok ()) {j : Nat} (hj : j < data.length) :
    (m.userWrite s va data).2.byte? s (va.toNat + j) = data[j]? := by
  have hplace := Nat.div_add_mod' (va.toNat + j) pageSize
  have hpage : (va.toNat + j) / pageSize ∈ pagesOf va.toNat data.length :=
    div_mem_pagesOf (Nat.le_add_right _ _) (Nat.add_lt_add_left hj _)
  obtain ⟨e, he, -⟩ := h.shown _ hpage
  have hbyte := byte?_userWrite hacc data he (fun q hq e' he' hframe _ =>
    h.apart q hq _ hpage e' e he' he hframe) (Nat.mod_lt (va.toNat + j) (by decide))
  rwa [hplace, userWritten_of_ok hok, if_pos ⟨Nat.le_add_right _ _, Nat.add_lt_add_left hj _⟩,
    Nat.add_sub_cancel_left] at hbyte

/-- A copy of one page leaves the range so. -/
lemma mended (h : m.Storable s va len) (hmended : m.Mended s page m') : m'.Storable s va len := by
  obtain ⟨n, hfresh, hown⟩ := hmended.own
  -- a page shows the frame of the copy, or what it showed before
  have hcases : ∀ q e, m'.mapping? s q = some e → q = page ∧ e = ⟨n, .userWrite⟩ ∨
      q ≠ page ∧ m.mapping? s q = some e := fun q e he => by
    by_cases hq : q = page
    · subst hq
      rw [hown, Option.some.injEq] at he
      exact .inl ⟨rfl, he.symm⟩
    · rw [hmended.others s q fun hc => hq hc.2] at he
      exact .inr ⟨hq, he⟩
  have hnever : ∀ q e, m.mapping? s q = some e → n ≠ e.frame := fun q e he heq =>
    hfresh (mem_shownFrames_iff.2 ⟨s, q, e, he, heq.symm⟩)
  refine ⟨h.below, fun q hq => ?_, fun q hq q' hq' e e' he he' hframe => ?_⟩
  · by_cases hpage : q = page
    · subst hpage
      exact ⟨_, hown, .inl Perm.contains_userWrite⟩
    · rw [hmended.others s q fun hc => hpage hc.2]
      exact h.shown q hq
  · rcases hcases q e he with ⟨rfl, rfl⟩ | ⟨hne, he⟩ <;>
      rcases hcases q' e' he' with ⟨rfl, rfl⟩ | ⟨hne', he'⟩
    · rfl
    · exact absurd hframe (hnever q' e' he')
    · exact absurd hframe.symm (hnever q e he)
    · exact h.apart q hq q' hq' e e' he he' hframe

end Storable

namespace Storing

variable {P : Nat → Prop}

lemma refl (m : Machine) : m.Storing s x va len P m :=
  ⟨fun _ _ _ => rfl, fun _ _ => .inl rfl, fun _ _ _ _ => rfl, fun _ _ _ _ => rfl,
    fun _ _ _ _ _ _ _ _ => rfl⟩

/-- Outside of the range the same frames are shown. -/
lemma outside_iff (h : m₀.Storing s x va len P m) :
    m.Outside s va len n ↔ m₀.Outside s va len n := by
  refine ⟨fun ⟨t, q, e, hoff, he, hframe⟩ => ?_, fun ⟨t, q, e, hoff, he, hframe⟩ => ?_⟩
  · exact ⟨t, q, e, hoff, h.others t q hoff ▸ he, hframe⟩
  · exact ⟨t, q, e, hoff, (h.others t q hoff).trans he, hframe⟩

/-- What is written through the range now was so before, or is shown nowhere else. -/
lemma reaches (h : m₀.Storing s x va len P m) (hreach : m.Reaches s va len n) :
    m₀.Reaches s va len n ∨ ¬ m₀.Outside s va len n := by
  obtain ⟨q, hq, e, he, rfl, hwrite⟩ := hreach
  rcases h.pages q hq with hsame | ⟨n, hn, hown⟩
  · exact .inl ⟨q, hq, e, hsame ▸ he, rfl, hwrite⟩
  · rw [hown, Option.some.injEq] at he
    subst he
    exact .inr hn

/-- The frame of a page of the range. -/
lemma frame_ne (h : m₀.Storing s x va len P m) (hx : m₀.Outside s va len x)
    (hq : page ∈ pagesOf va.toNat len) {e₀ : Mapping} (he₀ : m₀.mapping? s page = some e₀)
    (hne : e₀.frame ≠ x) (he : m.mapping? s page = some e) : e.frame ≠ x := by
  rcases h.pages page hq with hsame | ⟨n, hn, hown⟩
  · rw [hsame, he₀, Option.some.injEq] at he
    rwa [← he]
  · rw [hown, Option.some.injEq] at he
    rw [← he]
    rintro rfl
    exact hn hx

/-- **An attempt** writes nothing but frames that are reached, and what lies in the range. -/
lemma userWrite (h : m₀.Storing s x va data.length P m) (hx : m₀.Outside s va data.length x)
    (hstorable : m.Storable s va data.length) (hacc : m.Accounted kept []) :
    m₀.Storing s x va data.length P (m.userWrite s va data).2 := by
  have hkept : ∀ n, m₀.Outside s va data.length n → ¬ m₀.Reaches s va data.length n →
      (m.userWrite s va data).2.frames.contents? n = m.frames.contents? n := fun n hn hreach => by
    refine contents?_userWrite_range hstorable.below fun q hq e he hwrite hframe => ?_
    rcases h.reaches ⟨q, hq, e, he, hframe, hwrite⟩ with hbefore | hinside
    · exact hreach hbefore
    · exact hinside hn
  refine ⟨h.others, h.pages, fun n hn hne hreach => ?_, fun hreach i hi hP => ?_,
    fun q hq e he hne i hi hout => ?_⟩
  · rw [hkept n hn hreach, h.contents n hn hne hreach]
  · rw [← h.stack hreach i hi hP]
    exact FramePool.byte?_eq_of_contents? (hkept x hx hreach) i
  · obtain ⟨e', he', -⟩ := hstorable.shown q hq
    rw [← h.bytes q hq e he hne i hi hout, byte?_userWrite hacc data he'
      (fun q' hq' e'' he'' hframe _ => hstorable.apart q' hq' q hq e'' e' he'' he' hframe) hi]
    refine if_neg fun hc => hout ⟨hc.1, Nat.lt_of_lt_of_le hc.2 ?_⟩
    exact Nat.add_le_add_left (userWritten_le data) _

/-- **A fault** changes no frame but that of the exception stack, and that one only where the fault
frame is put. -/
lemma fault (h : m₀.Storing s x va len P m) (hx : m₀.Outside s va len x)
    (hmap : ∀ t q, m'.mapping? t q = m.mapping? t q)
    (hstack : ∀ i < pageSize, ¬ P i → m'.frames.byte? x i = m.frames.byte? x i)
    (hcont : ∀ n, n ≠ x → m'.frames.contents? n = m.frames.contents? n) :
    m₀.Storing s x va len P m' := by
  refine ⟨fun t q hoff => (hmap t q).trans (h.others t q hoff), fun q hq => ?_,
    fun n hn hne hreach => (hcont n hne).trans (h.contents n hn hne hreach),
    fun hreach i hi hP => (hstack i hi hP).trans (h.stack hreach i hi hP),
    fun q hq e he hne i hi hout => ?_⟩
  · rw [hmap]
    exact h.pages q hq
  · rw [← h.bytes q hq e he hne i hi hout]
    cases hcur : m.mapping? s q with
    | none => rw [byte?_of_none hcur hi, byte?_of_none ((hmap s q).trans hcur) hi]
    | some e' =>
      rw [byte?_of_mapping? hcur hi, byte?_of_mapping? ((hmap s q).trans hcur) hi]
      exact FramePool.byte?_eq_of_contents? (hcont _ (h.frame_ne hx hq he hne hcur)) i

/-- **A copy of a page** of the range is a frame of its own, with the same bytes. -/
lemma mended (h : m₀.Storing s x va len P m) (hx : m₀.Outside s va len x)
    (hpage : page ∈ pagesOf va.toNat len) (hmended : m.Mended s page m') :
    m₀.Storing s x va len P m' := by
  have hout : ∀ {t q : Nat}, ¬ (t = s ∧ q ∈ pagesOf va.toNat len) → ¬ (t = s ∧ q = page) :=
    fun hoff hc => hoff ⟨hc.1, hc.2 ▸ hpage⟩
  have hshown : ∀ n, m₀.Outside s va len n → n ∈ m.shownFrames := fun n hn => by
    obtain ⟨t, q, e, -, he, hframe⟩ := h.outside_iff.2 hn
    exact mem_shownFrames_iff.2 ⟨t, q, e, he, hframe⟩
  refine ⟨fun t q hoff => (hmended.others t q (hout hoff)).trans (h.others t q hoff),
    fun q hq => ?_,
    fun n hn hne hreach => (hmended.contents n (hshown n hn)).trans (h.contents n hn hne hreach),
    fun hreach i hi hP => ?_, fun q hq e he hne i hi hbeside => ?_⟩
  · by_cases hq' : q = page
    · subst hq'
      obtain ⟨n, hfresh, hown⟩ := hmended.own
      exact .inr ⟨n, fun hn => hfresh (hshown n hn), hown⟩
    · rw [hmended.others s q fun hc => hq' hc.2]
      exact h.pages q hq
  · rw [← h.stack hreach i hi hP]
    exact FramePool.byte?_eq_of_contents? (hmended.contents x (hshown x hx)) i
  · rw [← h.bytes q hq e he hne i hi hbeside]
    by_cases hq' : q = page
    · subst hq'
      exact hmended.bytes i hi
    · have hsame := hmended.others s q fun hc => hq' hc.2
      cases hcur : m.mapping? s q with
      | none => rw [byte?_of_none hcur hi, byte?_of_none (hsame.trans hcur) hi]
      | some e' =>
        rw [byte?_of_mapping? hcur hi, byte?_of_mapping? (hsame.trans hcur) hi]
        exact FramePool.byte?_eq_of_contents?
          (hmended.contents _ (mem_shownFrames_iff.2 ⟨s, q, e', hcur, rfl⟩)) i

/-- **A byte outside of the range** is what it was, unless its frame is written through the range or
it is that of a fault frame. -/
lemma byte?_of_outside (h : m₀.Storing s x va len P m) {t i : Nat}
    (hoff : ¬ (t = s ∧ page ∈ pagesOf va.toNat len)) (hi : i < pageSize)
    (hframe : ∀ e, m₀.mapping? t page = some e →
      ¬ m₀.Reaches s va len e.frame ∧ (e.frame = x → ¬ P i)) :
    m.byte? t (page * pageSize + i) = m₀.byte? t (page * pageSize + i) := by
  have hsame := h.others t page hoff
  cases he : m₀.mapping? t page with
  | none => rw [byte?_of_none he hi, byte?_of_none (hsame.trans he) hi]
  | some e =>
    obtain ⟨hreach, hplace⟩ := hframe e he
    rw [byte?_of_mapping? he hi, byte?_of_mapping? (hsame.trans he) hi]
    by_cases hx : e.frame = x
    · rw [hx] at hreach ⊢
      exact h.stack hreach i hi (hplace hx)
    · exact FramePool.byte?_eq_of_contents? (h.contents _ ⟨t, page, e, hoff, he, rfl⟩ hx hreach) i

end Storing

/-! ### Pages that are still to be copied -/

/-- Whether a page shows something that cannot be written. -/
def isSealed (m : Machine) (s page : Nat) : Bool :=
  (m.mapping? s page).any fun e => !e.perm.contains .writable

/-- How many pages of the range cannot be written. -/
def sealedPages (m : Machine) (s : Nat) (va : VirtAddr) (len : Nat) : Nat :=
  (pagesOf va.toNat len).countP (m.isSealed s)

/-- **A store that is refused** is so at a page that is still to be copied. -/
lemma Storable.userWrite_error (h : m.Storable s va data.length) (hperm : m.Permitted)
    {fault : MmuFault} (hfault : (m.userWrite s va data).1 = .error fault) :
    fault.va.toNat < userTop ∧ fault.va.page ∈ pagesOf va.toNat data.length ∧
      fault.err &&& FaultCode.write ≠ 0 ∧ m.isSealed s fault.va.page = true ∧
      ∃ e, m.mapping? s fault.va.page = some e ∧ e.perm.contains .copyOnWrite = true := by
  obtain ⟨hbelow, hpage, hcode, e, he, hclosed⟩ := (h.covered hperm).userWrite_error hfault
  refine ⟨hbelow, hpage, hcode, ?_, e, he, ?_⟩
  · rw [isSealed, he, Option.any_some, hclosed]
    rfl
  · obtain ⟨e', he', hkind⟩ := h.shown _ hpage
    rw [he, Option.some.injEq] at he'
    subst he'
    refine hkind.resolve_left fun hwrite => ?_
    rw [hclosed] at hwrite
    cases hwrite

/-- **A write that is refused** at a page which shows something is so at a page of its range that
cannot be written. -/
lemma isSealed_of_userWrite (hperm : m.Permitted) {fault : MmuFault}
    (hfault : (m.userWrite s va data).1 = .error fault) (hbelow : fault.va.toNat < userTop)
    (he : m.mapping? s fault.va.page = some e) :
    fault.va.page ∈ pagesOf va.toNat data.length ∧ m.isSealed s fault.va.page = true := by
  have hlimit : userTop < userLimit := by decide
  obtain ⟨⟨hfirst, hlast⟩, hunusable, -⟩ :=
    firstRefused_of_userCheck ((fst_userWrite ..).symm.trans hfault)
  refine ⟨div_mem_pagesOf hfirst hlast, ?_⟩
  rw [isSealed, he, Option.any_some, Bool.not_eq_true']
  refine Bool.eq_false_iff.2 fun hwrite => hunusable ⟨?_, e, ?_, ?_⟩
  · exact Nat.lt_of_le_of_lt (Nat.div_mul_le_self ..) (Nat.lt_trans hbelow hlimit)
  · have hstart : (VirtAddr.ofNat (fault.va.page * pageSize)).page = fault.va.page :=
      (page_pageStart fault.va.toNat_lt).trans (congrArg VirtAddr.page (VirtAddr.ofNat_toNat _))
    rw [lookup?_of_page hstart, lookup?_of_lt hbelow, he]
  · rw [contains_accessPerm (hperm s _ e he), hwrite, Bool.or_true]

/-- A write that succeeds finds no page of its range that cannot be written. -/
lemma Covered.sealedPages_of_ok (h : m.Covered s va data.length)
    (hok : (m.userWrite s va data).1 = .ok ()) : m.sealedPages s va data.length = 0 := by
  refine List.countP_eq_zero.2 fun page hpage hsealed => ?_
  have hps : pageSize = 4096 := rfl
  obtain ⟨-, hfirst, -⟩ := mem_pagesOf_iff.1 hpage
  have hpiece : Piece.ofPage va.toNat data.length page ∈ pieces va.toNat data.length :=
    List.mem_map.2 ⟨page, hpage, rfl⟩
  have hsame : (Piece.ofPage va.toNat data.length page).page = page := by
    simp only [Piece.page, Piece.ofPage, hps] at hfirst ⊢
    omega
  obtain ⟨n, hn⟩ := frame_of_checkPieces ((fst_userWrite ..).symm.trans hok) hpiece
  obtain ⟨-, e, he, hframe⟩ := h.userFrame_piece hpiece true
  rw [isSealed, ← hsame, he, Option.any_some, Bool.not_eq_true'] at hsealed
  rw [hn, if_pos ⟨rfl, hsealed⟩] at hframe
  cases hframe

/-- Which pages are still to be copied depends on pages only. -/
lemma isSealed_congr (hmap : ∀ q, m'.mapping? s q = m.mapping? s q) :
    m'.isSealed s = m.isSealed s := by
  funext q
  rw [isSealed, isSealed, hmap]

/-- There is one, where there is a page that cannot be written. -/
lemma sealedPages_pos (hpage : page ∈ pagesOf va.toNat len) (hsealed : m.isSealed s page = true) :
    0 < m.sealedPages s va len :=
  List.countP_pos_iff.2 ⟨page, hpage, hsealed⟩

/-- The pages of a range are listed once. -/
lemma nodup_pagesOf {start : Nat} : (pagesOf start len).Nodup := by
  rw [pagesOf]
  split
  · exact List.nodup_nil
  · exact List.nodup_range'

/-- **Every copy leaves one page less** that cannot be written. -/
lemma sealedPages_mended (hmended : m.Mended s page m') (hpage : page ∈ pagesOf va.toNat len)
    (hsealed : m.isSealed s page = true) :
    m'.sealedPages s va len + 1 = m.sealedPages s va len := by
  obtain ⟨n, -, hown⟩ := hmended.own
  refine countP_add_one nodup_pagesOf (fun q _ hq => ?_) hpage hsealed ?_
  · rw [isSealed, isSealed, hmended.others s q fun hc => hq hc.2]
  · rw [isSealed, hown, Option.any_some, Perm.contains_userWrite]
    rfl

end Machine

end Exokernel
