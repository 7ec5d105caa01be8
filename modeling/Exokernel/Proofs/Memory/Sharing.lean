/-
What stays of memory when a fork comes to nothing on its way.

* `readPieces_of_page?`: a read depends on what the frames hold that it goes through;
* `Machine.Retains`: **what is shown keeps its contents**, in windows as well;
* `Retains.userRead_ok`: so user code reads what it read;
* `Machine.Equips`: an exception stack that is given, or not;
* `Machine.Shares`: **some pages of an address space may be shared** with another one;
* `Machine.Spared`, `Spared.of_shares`: **what a fork that fails leaves of the memory of the process
  that forks.**
-/
import Exokernel.Proofs.Kernel.Tracks
import Exokernel.Proofs.Memory.Checks
import Exokernel.Proofs.Memory.Doubles
import Exokernel.Proofs.Memory.Views

namespace Exokernel

open Layout Kernel

/-- A read depends on what the frames hold that it goes through. -/
lemma readPieces_of_page? {ε : Type} {f : Nat → Except ε Nat} {ps : List Piece}
    {pool pool' : FramePool} {absent : UInt8}
    (h : ∀ p ∈ ps, ∀ n, f p.start = .ok n → pool'.page? n = pool.page? n) :
    readPieces f absent pool' ps = readPieces f absent pool ps := by
  induction ps with
  | nil => rfl
  | cons p ps ih =>
    rw [readPieces, readPieces, ih fun q hq => h q (List.mem_cons_of_mem _ hq)]
    cases hn : f p.start with
    | error e => rfl
    | ok n =>
      dsimp only
      rw [FramePool.read, FramePool.read, h p List.mem_cons_self n hn]

/-- A page that may be written may be written after a fork, or is to be copied then. -/
lemma Mapping.forked_of_writable {e : Mapping} (hperm : e.perm.isRequestable = true)
    (hwrite : e.perm.contains .writable = true) :
    e.forked.perm.contains .writable = true ∨
      e.forked.perm.contains (.user ||| .copyOnWrite) = true := by
  rw [forked]
  split
  · exact .inl hwrite
  · split
    · refine .inr (Perm.contains_iff_forall.2 fun i hi => ?_)
      have huser := (Perm.isRequestable_iff.1 (Perm.isRequestable_readOnlyCopy hperm)).1
      have huser := Perm.contains_iff_forall.1 (Perm.contains_trans huser
        (show Perm.userRead.contains .user = true from rfl))
      rw [Perm.getLsbD_or, Bool.or_eq_true] at hi
      refine hi.elim (huser i) fun hcopy => ?_
      rw [Program.readOnlyCopy, Perm.getLsbD_or, hcopy, Bool.or_true]
    · exact .inl hwrite

/-- User code may read a page after a fork if it could before. -/
lemma Mapping.userRead_forked {e : Mapping} (hperm : e.perm.isRequestable = true) :
    e.forked.perm.contains .userRead = true := by
  rw [forked]
  split
  · exact (Perm.isRequestable_iff.1 hperm).1
  · split
    · exact (Perm.isRequestable_iff.1 (Perm.isRequestable_readOnlyCopy hperm)).1
    · exact (Perm.isRequestable_iff.1 hperm).1

/-- What a fork changes about a page makes it a page that is to be copied. -/
lemma Mapping.copyOnWrite_of_forked {e : Mapping} (hne : e.forked ≠ e) :
    e.forked.perm.contains .copyOnWrite = true := by
  rw [forked] at hne ⊢
  split
  · next hshare => exact absurd (if_pos hshare) hne
  · next hshare =>
    rw [if_neg hshare] at hne
    split
    · refine Perm.contains_iff_forall.2 fun i hi => ?_
      rw [Program.readOnlyCopy, Perm.getLsbD_or, hi, Bool.or_true]
    · next hmeets => exact absurd (if_neg hmeets) hne

namespace Machine

variable {m m' m'' m₁ m₂ : Machine} {s s' t page len : Nat} {va : VirtAddr} {e e' : Mapping}
  {kept loose kept' loose' : List Nat} {P P' Q Q' : Nat → Prop}

/-! ### Contents that stay -/

/-- **What is shown keeps its contents**: the windows are the same, and frames that windows or pages
show hold what they held. The pages need not show them where they did. -/
structure Retains (m m' : Machine) : Prop where
  windows : m'.windows = m.windows
  panes : ∀ page e, m.windows.find? page = some e →
    m'.frames.contents? e.frame = m.frames.contents? e.frame
  preserves : m.Preserves m'

namespace Retains

lemma refl (m : Machine) : m.Retains m := ⟨rfl, fun _ _ _ => rfl, .refl m⟩

lemma trans (h : m.Retains m') (h' : m'.Retains m'') : m.Retains m'' :=
  ⟨h'.windows.trans h.windows, fun page e he =>
    (h'.panes page e (h.windows ▸ he)).trans (h.panes page e he), h.preserves.trans h'.preserves⟩

/-- The same pages, and frames in use hold what they held. -/
lemma of_allocated (hacc : m.Accounted kept loose) (hwindows : m'.windows = m.windows)
    (hmap : ∀ t page, m'.mapping? t page = m.mapping? t page)
    (hcont : ∀ n, (m.frames.allocated? n).isSome →
      m'.frames.contents? n = m.frames.contents? n) : m.Retains m' := by
  refine ⟨hwindows, fun page e he => hcont _ (hacc.isSome_of_window he), fun n hn => ?_⟩
  obtain ⟨s, page, e, he, rfl⟩ := mem_shownFrames_iff.1 hn
  exact ⟨mem_shownFrames_iff.2 ⟨s, page, e, (hmap s page).trans he, rfl⟩,
    hcont _ (hacc.isSome_of_mapping? he)⟩

/-- A page that is put shows the frame that it showed, or showed nothing before. -/
lemma of_puts (hput : m.Puts s page e m') (hacc : m.Accounted kept loose)
    (hwindows : m'.windows = m.windows)
    (hold : ∀ e₀, m.mapping? s page = some e₀ → e₀.frame = e.frame) : m.Retains m' :=
  ⟨hwindows, fun _ _ he => hput.contents _ (hacc.isSome_of_window he), .of_puts hput hacc hold⟩

/-- What a process has at an address holds what it held. -/
lemma contents? (h : m.Retains m') (he : m.lookup? s va = some e) :
    m'.frames.contents? e.frame = m.frames.contents? e.frame := by
  rw [lookup?] at he
  split at he
  · exact h.panes va.page e he
  · exact (h.preserves _ (mem_shownFrames_iff.2 ⟨s, va.page, e, he, rfl⟩)).2

/-- The same pages of an address space show the same. -/
lemma lookup?_eq (h : m.Retains m') (hmap : ∀ page, m'.mapping? t page = m.mapping? t page)
    (va : VirtAddr) : m'.lookup? t va = m.lookup? t va := by
  by_cases htop : userTop ≤ va.toNat
  · rw [lookup?, lookup?, if_pos htop, if_pos htop, h.windows]
  · have hlt := Nat.not_le.1 htop
    rw [lookup?_of_lt hlt, lookup?_of_lt hlt, hmap]

/-- They show the same bytes. -/
lemma shownByte?_eq (h : m.Retains m') (hmap : ∀ page, m'.mapping? t page = m.mapping? t page)
    (va : VirtAddr) : m'.shownByte? t va = m.shownByte? t va := by
  rw [shownByte?, shownByte?, h.lookup?_eq hmap]
  cases he : m.lookup? t va with
  | none => rfl
  | some e => exact FramePool.byte?_eq_of_contents? (h.contents? he) _

/-- **User code reads what it read**, if its addresses still show what they showed, and it may still
read there. -/
lemma userRead_ok (h : m.Retains m') (hacc : m.Accounted kept loose)
    (hacc' : m'.Accounted kept' loose')
    (hshown : ∀ va e, m.lookup? s va = some e → e.perm.contains .userRead = true →
      ∃ e', m'.lookup? s va = some e' ∧ e'.frame = e.frame ∧ e'.perm.contains .userRead = true)
    {absent : UInt8} {bytes : List UInt8} (hread : m.userRead s va len absent = .ok bytes) :
    m'.userRead s va len absent = .ok bytes := by
  -- what is reached before is reached after, and holds the same
  have hreach : ∀ a n, m.userFrame s false va a = .ok n →
      m'.userFrame s false va a = .ok n ∧ m'.frames.page? n = m.frames.page? n := by
    intro a n hn
    rw [userFrame] at hn ⊢
    split at hn
    · next ha =>
      rw [translate] at hn
      cases he : m.lookup? s (.ofNat a) with
      | none =>
        rw [he] at hn
        cases hn
      | some e =>
        rw [he] at hn
        dsimp only at hn
        split at hn
        · next hallowed =>
          cases hn
          obtain ⟨e', he', hframe, hperm⟩ := hshown _ e he hallowed.2
          obtain ⟨slot, hslot⟩ := Option.isSome_iff_exists.1 (hacc.isSome_of_lookup? he)
          obtain ⟨slot', hslot'⟩ := Option.isSome_iff_exists.1 (hacc'.isSome_of_lookup? he')
          rw [hframe] at hslot'
          refine ⟨?_, ?_⟩
          · rw [if_pos ha, translate, he']
            dsimp only
            rw [if_pos ⟨hallowed.1, hperm⟩, hframe]
          · rw [FramePool.page?_of_allocated? hslot, FramePool.page?_of_allocated? hslot',
              h.contents? he]
        · cases hn
    · cases hn
  refine readPieces_of_same (fun p _ n hn => (hreach p.start n hn).1) ?_
  rw [readPieces_of_page? fun p _ n hn => (hreach p.start n hn).2]
  exact hread

end Retains

/-! ### Steps of a fork that may fail -/

/-- **An exception stack is given** to an address space that has none, or nothing happens. -/
structure Equips (m : Machine) (s : Nat) (m' : Machine) : Prop where
  stack : m'.mapping? s exceptionPage = m.mapping? s exceptionPage ∨
    m.mapping? s exceptionPage = none ∧
      ∃ n, n ∉ m.shownFrames ∧ m'.mapping? s exceptionPage = some ⟨n, .userWrite⟩
  others : ∀ t page, ¬ (t = s ∧ page = exceptionPage) → m'.mapping? t page = m.mapping? t page
  retains : m.Retains m'

namespace Equips

lemma of_same (hretains : m.Retains m') (hmap : ∀ t page, m'.mapping? t page = m.mapping? t page) :
    m.Equips s m' :=
  ⟨.inl (hmap _ _), fun t page _ => hmap t page, hretains⟩

lemma of_puts {n : Nat} (hput : m.Puts s exceptionPage ⟨n, .userWrite⟩ m')
    (hacc : m.Accounted kept loose) (hwindows : m'.windows = m.windows)
    (hnone : m.mapping? s exceptionPage = none) (hfresh : n ∉ m.shownFrames) : m.Equips s m' where
  stack := .inr ⟨hnone, n, hfresh, (hput.mapping s exceptionPage).trans (if_pos ⟨rfl, rfl⟩)⟩
  others t page hother := by
    rw [hput.mapping, if_neg fun hc => hother ⟨hc.1.symm, hc.2.symm⟩]
  retains := .of_puts hput hacc hwindows fun e he => by
    rw [hnone] at he
    cases he

/-- A page that shows something stays. -/
lemma mapping? (h : m.Equips s m') (he : m.mapping? s page = some e) :
    m'.mapping? s page = some e := by
  by_cases hpage : page = exceptionPage
  · subst hpage
    refine (h.stack.resolve_right fun hgiven => ?_).trans he
    rw [hgiven.1] at he
    cases he
  · rw [h.others s page fun hc => hpage hc.2, he]

/-- A page that shows nothing does so, or is the exception stack. -/
lemma blank (h : m.Equips s m') (hnone : m.mapping? s page = none) : m'.mapping? s page = none ∨
    page = exceptionPage ∧ ∃ n, n ∉ m.shownFrames ∧ m'.mapping? s page = some ⟨n, .userWrite⟩ := by
  by_cases hpage : page = exceptionPage
  · subst hpage
    exact h.stack.imp (fun hsame => hsame.trans hnone) fun hgiven => ⟨rfl, hgiven.2⟩
  · exact .inl ((h.others s page fun hc => hpage hc.2).trans hnone)

/-- After it, steps that leave all pages alone. -/
lemma trans_same (h : m.Equips s m') (hretains : m'.Retains m'')
    (hmap : ∀ t page, m''.mapping? t page = m'.mapping? t page) : m.Equips s m'' := by
  refine ⟨?_, fun t page hother => (hmap t page).trans (h.others t page hother),
    h.retains.trans hretains⟩
  rw [hmap]
  exact h.stack

end Equips

/-- **Some pages may be shared**: pages in `P` of address space `s` may have become such as a fork
leaves them, and address space `s'` may show other pages in `Q`. -/
structure Shares (m : Machine) (s : Nat) (P : Nat → Prop) (s' : Nat) (Q : Nat → Prop)
    (m' : Machine) : Prop where
  parent : ∀ page, m'.mapping? s page = m.mapping? s page ∨
    P page ∧ m'.mapping? s page = (m.mapping? s page).map .forked
  child : ∀ page, ¬ Q page → m'.mapping? s' page = m.mapping? s' page
  others : ∀ t, t ≠ s → t ≠ s' → ∀ page, m'.mapping? t page = m.mapping? t page
  retains : m.Retains m'

namespace Shares

lemma of_same (hretains : m.Retains m') (hmap : ∀ t page, m'.mapping? t page = m.mapping? t page) :
    m.Shares s P s' Q m' :=
  ⟨fun page => .inl (hmap s page), fun page _ => hmap s' page, fun t _ _ => hmap t, hretains⟩

lemma mono (h : m.Shares s P s' Q m') (hP : ∀ page, P page → P' page)
    (hQ : ∀ page, Q page → Q' page) : m.Shares s P' s' Q' m' :=
  ⟨fun page => (h.parent page).imp_right fun hforked => ⟨hP page hforked.1, hforked.2⟩,
    fun page hnot => h.child page fun hpage => hnot (hQ page hpage), h.others, h.retains⟩

/-- **Pages after pages.** None is shared twice. -/
lemma trans (h : m.Shares s P s' Q m') (h' : m'.Shares s P' s' Q' m'')
    (hapart : ∀ page, P page → ¬ P' page) :
    m.Shares s (fun page => P page ∨ P' page) s' (fun page => Q page ∨ Q' page) m'' := by
  refine ⟨fun page => ?_, fun page hnot => ?_, fun t hs hs' page => ?_, h.retains.trans h'.retains⟩
  · rcases h'.parent page with hsame' | ⟨hP', hforked'⟩
    · rw [hsame']
      exact (h.parent page).imp_right fun hforked => ⟨.inl hforked.1, hforked.2⟩
    · have hsame := (h.parent page).resolve_right fun hforked => hapart page hforked.1 hP'
      rw [hforked', hsame]
      exact .inr ⟨.inr hP', rfl⟩
  · rw [h'.child page fun hQ' => hnot (.inr hQ'), h.child page fun hQ => hnot (.inl hQ)]
  · rw [h'.others t hs hs', h.others t hs hs']

/-- After them, steps that leave all pages alone. -/
lemma trans_same (h : m.Shares s P s' Q m') (hretains : m'.Retains m'')
    (hmap : ∀ t page, m''.mapping? t page = m'.mapping? t page) : m.Shares s P s' Q m'' := by
  have hsame : m'.Shares s (fun _ => False) s' (fun _ => False) m'' := .of_same hretains hmap
  exact (h.trans hsame fun _ _ => id).mono (fun _ hc => hc.resolve_right id)
    fun _ hc => hc.resolve_right id

/-- The other address space comes to show a page. -/
lemma of_puts (hput : m.Puts s' page e m') (hacc : m.Accounted kept loose)
    (hwindows : m'.windows = m.windows) (hne : s ≠ s') (hnone : m.mapping? s' page = none) :
    m.Shares s P s' (· = page) m' where
  parent q := .inl ((hput.mapping s q).trans (if_neg fun hc => hne hc.1.symm))
  child q hq := (hput.mapping s' q).trans (if_neg fun hc => hq hc.2.symm)
  others t _ ht' q := (hput.mapping t q).trans (if_neg fun hc => ht' hc.1.symm)
  retains := .of_puts hput hacc hwindows fun e₀ he₀ => by
    rw [hnone] at he₀
    cases he₀

/-- The address space itself comes to show a page as a fork leaves it. -/
lemma of_puts_forked (hput : m.Puts s page e.forked m') (hacc : m.Accounted kept loose)
    (hwindows : m'.windows = m.windows) (hne : s ≠ s') (he : m.mapping? s page = some e) :
    m.Shares s (· = page) s' Q m' where
  parent q := by
    by_cases hq : q = page
    · subst hq
      refine .inr ⟨rfl, ?_⟩
      rw [hput.mapping, if_pos ⟨rfl, rfl⟩, he, Option.map_some]
    · exact .inl ((hput.mapping s q).trans (if_neg fun hc => hq hc.2.symm))
  child q _ := (hput.mapping s' q).trans (if_neg fun hc => hne hc.1)
  others t ht _ q := (hput.mapping t q).trans (if_neg fun hc => ht hc.1.symm)
  retains := .of_puts hput hacc hwindows fun e₀ he₀ => by
    rw [he, Option.some.injEq] at he₀
    rw [← he₀, Mapping.frame_forked]

end Shares

/-! ### What is left -/

/-- **What a fork that fails leaves of memory**, where address space `s` is that of the process that
forks. -/
structure Spared (m : Machine) (s : Nat) (m' : Machine) : Prop where
  reads : ∀ va len absent bytes, m.userRead s va len absent = .ok bytes →
    m'.userRead s va len absent = .ok bytes
  pages : ∀ page e, m.mapping? s page = some e → m'.mapping? s page = some e ∨
    page ≠ exceptionPage ∧ m'.mapping? s page = some e.forked
  writable : ∀ page e, m.mapping? s page = some e → e.perm.contains .writable = true →
    ∃ e', m'.mapping? s page = some e' ∧ e'.frame = e.frame ∧
      (e'.perm.contains .writable = true ∨ e'.perm.contains (.user ||| .copyOnWrite) = true)
  /-- Where there was no page there is none, but for the exception stack. -/
  blank : ∀ page, m.mapping? s page = none → m'.mapping? s page = none ∨
    page = exceptionPage ∧ ∃ n, n ∉ m.shownFrames ∧ m'.mapping? s page = some ⟨n, .userWrite⟩

namespace Spared

/-- It is enough to look at the pages, and at the contents of what was shown. -/
lemma of_pages (hacc : m.Accounted kept loose) (hacc' : m'.Accounted kept' loose')
    (hpermitted : m.Permitted) (hretains : m.Retains m')
    (hpages : ∀ page e, m.mapping? s page = some e → m'.mapping? s page = some e ∨
      page ≠ exceptionPage ∧ m'.mapping? s page = some e.forked)
    (hblank : ∀ page, m.mapping? s page = none → m'.mapping? s page = none ∨
      page = exceptionPage ∧ ∃ n, n ∉ m.shownFrames ∧ m'.mapping? s page = some ⟨n, .userWrite⟩) :
    m.Spared s m' := by
  refine ⟨fun va len absent bytes hread => hretains.userRead_ok hacc hacc' (fun va e he hread => ?_)
    hread, hpages, fun page e he hwrite => ?_, hblank⟩
  · by_cases htop : userTop ≤ va.toNat
    · refine ⟨e, ?_, rfl, hread⟩
      rw [lookup?, if_pos htop] at he ⊢
      rw [hretains.windows, he]
    · have hlt := Nat.not_le.1 htop
      rw [lookup?_of_lt hlt] at he ⊢
      rcases hpages _ e he with hsame | ⟨-, hforked⟩
      · exact ⟨e, hsame, rfl, hread⟩
      · exact ⟨e.forked, hforked, e.frame_forked,
          Mapping.userRead_forked (hpermitted s va.page e he)⟩
  · rcases hpages page e he with hsame | ⟨-, hforked⟩
    · exact ⟨e, hsame, rfl, .inl hwrite⟩
    · exact ⟨e.forked, hforked, e.frame_forked,
        Mapping.forked_of_writable (hpermitted s page e he) hwrite⟩

/-- **A fork that got no further than to the exception stack.** -/
lemma of_equips (hacc : m.Accounted kept loose) (hacc' : m'.Accounted kept' loose')
    (hpermitted : m.Permitted) (h : m.Equips s m') : m.Spared s m' :=
  of_pages hacc hacc' hpermitted h.retains (fun _ _ he => .inl (h.mapping? he)) fun _ => h.blank

/-- **A fork that got to the pages.** The exception stack was left out. -/
lemma of_shares (hacc : m.Accounted kept loose) (hacc' : m''.Accounted kept' loose')
    (hpermitted : m.Permitted) (hequips : m.Equips s m')
    (hshares : m'.Shares s (· ≠ exceptionPage) s' Q m'') : m.Spared s m'' := by
  refine of_pages hacc hacc' hpermitted (hequips.retains.trans hshares.retains)
    (fun page e he => ?_) fun page hnone => ?_
  · have hparent := hshares.parent page
    rw [hequips.mapping? he] at hparent
    exact hparent
  · by_cases hpage : page = exceptionPage
    · subst hpage
      rw [(hshares.parent exceptionPage).resolve_right fun hforked => hforked.1 rfl]
      exact hequips.blank hnone
    · have hsame : m'.mapping? s page = none :=
        (hequips.others s page fun hc => hpage hc.2).trans hnone
      have hparent := hshares.parent page
      rw [hsame] at hparent
      exact .inl (hparent.elim id fun hforked => hforked.2)

end Spared

end Machine

end Exokernel
