/-
What the system calls on pages need, and what they do.

* `Machine.ensureTable_iff`, `Machine.map_iff`, `Machine.mapZeroed_iff`: a page is shown **exactly
  if there are frames for it**;
* `Kernel.Commands`: a process that a caller may name, itself or a child;
* `Kernel.allocSpace_iff`, `Kernel.mapArguments_iff`: arguments that are in order;
* `Kernel.SetsAt`: a page of an address space comes to show something, and nothing else changes;
* `Kernel.Sets`: so does a page of a process, and nothing else changes for anybody;
* `Kernel.pageAlloc_ok_iff`, `Kernel.pageMap_ok_iff`, `Kernel.pageUnmap_ok_iff`: when they do;
* `page_calls_exact`: **when a call on pages succeeds, and what it does then.**
-/
import Exokernel.Proofs.Histories
import Exokernel.Proofs.Kernel.Grants
import Exokernel.Proofs.Memory.Doubles
import Exokernel.Proofs.Memory.Views
import Exokernel.Proofs.Messages

namespace Exokernel

open Layout

/-! ### Pages for which there are frames -/

namespace Machine

variable {m m' : Machine} {s n k page : Nat} {va : VirtAddr} {perm : Perm}

/-- What is provided for in an address space that exists. -/
lemma provided_iff (h : (m.space? s).isSome) :
    m.Provided s page k ↔ k ≤ m.freeFrames ∧ (¬ m.HasTable s page → k + 1 ≤ m.freeFrames) := by
  by_cases htable : m.HasTable s page
  · refine ⟨fun hp => ⟨hp.le_freeFrames, fun hnot => absurd htable hnot⟩, fun hp => ?_⟩
    exact .inl ⟨htable, hp.1⟩
  · refine ⟨fun hp => ⟨hp.le_freeFrames, fun _ => ?_⟩, fun hp => .inr ⟨h, hp.2 htable⟩⟩
    rcases hp with ⟨htable', -⟩ | ⟨-, hfree⟩
    · exact absurd htable' htable
    · exact hfree

/-- **A page table can be made sure of** exactly if it is there or there is a frame for it. -/
lemma ensureTable_iff : (∃ m', m.ensureTable s va = .ok m') ↔ m.Provided s va.page 0 := by
  constructor
  · rintro ⟨m', hens⟩
    obtain ⟨a, ha, rfl | ⟨t, frames, -, hall, -⟩⟩ := ensureTable_cases hens
    · exact .inl ⟨hasTable_ensureTable hens, Nat.zero_le _⟩
    · obtain ⟨pool, hone, -⟩ := allocOwned?_cases hall
      refine .inr ⟨by rw [ha]; rfl, ?_⟩
      rw [freeFrames, FramePool.free_of_alloc? hone]
      exact Nat.le_add_left 1 _
  · intro h
    obtain ⟨m', hens, -⟩ := h.ensureTable
    exact ⟨m', hens⟩

/-- **A page can be shown** exactly if there is a page table or a frame for one. -/
lemma map_iff (hlt : va.toNat < userTop) :
    (∃ m', m.map s n va perm = .ok m') ↔ m.Provided s va.page 0 := by
  rw [← ensureTable_iff, map, if_neg (Nat.not_le.2 hlt)]
  cases m.ensureTable s va with
  | error e =>
    constructor
    all_goals
      rintro ⟨_, h⟩
      cases h
  | ok m₁ => exact ⟨fun _ => ⟨m₁, rfl⟩, fun _ => ⟨_, rfl⟩⟩

/-- **A fresh page is given** exactly if there is a frame for it, and one for its page table if that
is not there. -/
lemma mapZeroed_iff (hlt : va.toNat < userTop) :
    (m.mapZeroed s va perm).1 = .ok () ↔ m.Provided s va.page 1 := by
  constructor
  · intro hok
    obtain ⟨n, frames, hall, hm⟩ := mapZeroed_ok hok
    have hfree : m.freeFrames = ({ m with frames := frames.clear n } : Machine).freeFrames + 1 := by
      rw [freeFrames, FramePool.free_of_alloc? hall]
      rfl
    rcases (map_iff hlt).1 ⟨_, hm⟩ with ⟨htable, hk⟩ | ⟨hspace, hk⟩
    · exact .inl ⟨htable.congr rfl, by omega⟩
    · exact .inr ⟨hspace, by omega⟩
  · exact fun h => (h.mapZeroed hlt).1

end Machine

namespace Kernel

variable {k k' : Kernel} {caller src dst target id : ProcessId} {s frame page : Nat}
  {va srcVa dstVa : VirtAddr} {perm : Perm} {shown : Option Mapping} {number : UInt32}

/-! ### Arguments in order -/

/-- **A caller may name a process**: itself, or a live child. -/
def Commands (k : Kernel) (caller target : ProcessId) : Prop :=
  ∃ p, k.live? (named caller target) = some p ∧
    (named caller target = caller ∨ p.parent = caller)

/-- Whom a caller may name, and the address space of that process. -/
lemma resolve_iff : (∃ id, k.resolve caller target true = .ok id ∧ k.spaceOf? id = some s) ↔
    k.Commands caller target ∧ k.spaceOf? (named caller target) = some s := by
  constructor
  · rintro ⟨id, hres, hs⟩
    obtain ⟨p, hp, -⟩ := spaceOf?_eq_some_iff.1 hs
    obtain rfl := eq_named_of_resolve hres
    refine ⟨⟨p, hp, ?_⟩, hs⟩
    rcases resolve_cases hres with hself | ⟨-, q, hq, hrelated⟩
    · exact .inl hself
    · obtain rfl := Option.some.inj (hp.symm.trans hq)
      exact hrelated rfl
  · rintro ⟨⟨p, hp, hrelated⟩, hs⟩
    refine ⟨named caller target, ?_, hs⟩
    rw [named] at hp hrelated ⊢
    rw [resolve, ProcessTable.resolve]
    split
    · rfl
    · next hself =>
      rw [if_neg hself] at hp hrelated
      have hfind : k.table.find? target = some p := hp
      rw [hfind]
      exact if_neg fun hc => hrelated.elim hc.2.1 hc.2.2

/-- **Where a fresh page is to go**: the arguments are in order, and the process may be named. -/
lemma allocSpace_iff : k.allocSpace caller target va perm = .ok s ↔
    va.isMappable = true ∧ perm.isRequestable = true ∧ k.Commands caller target ∧
      k.spaceOf? (named caller target) = some s := by
  rw [allocSpace_ok_iff, resolve_iff]

/-- **What is to be shown, and where**: the arguments are in order, both processes may be named, and
the page is there and may be shown. -/
lemma mapArguments_iff {t : Nat} :
    (∃ id, k.mapArguments caller src srcVa dst dstVa perm = .ok (frame, id) ∧
      k.spaceOf? id = some t) ↔
    srcVa.isMappable = true ∧ dstVa.isMappable = true ∧ perm.isRequestable = true ∧
      k.Commands caller src ∧ k.Commands caller dst ∧ k.spaceOf? (named caller dst) = some t ∧
      ∃ s e, k.spaceOf? (named caller src) = some s ∧
        k.machine.mapping? s srcVa.page = some e ∧ e.frame = frame ∧
        (perm.contains .writable = true → e.perm.contains .writable = true) := by
  constructor
  · rintro ⟨id, hargs, ht⟩
    obtain ⟨hsrc, hdst, hperm, owner, howner, hid, hshare⟩ := mapArguments_ok_iff.1 hargs
    obtain ⟨s, e, hs, hrest⟩ := (sharable_ok_iff (lt_userTop_of_isMappable hsrc)).1 hshare
    obtain ⟨hcommands, hs'⟩ := resolve_iff.1 ⟨owner, howner, hs⟩
    obtain ⟨hcommands', ht'⟩ := resolve_iff.1 ⟨id, hid, ht⟩
    exact ⟨hsrc, hdst, hperm, hcommands, hcommands', ht', s, e, hs', hrest⟩
  · rintro ⟨hsrc, hdst, hperm, hcommands, hcommands', ht, s, e, hs, hrest⟩
    obtain ⟨owner, howner, hs'⟩ := resolve_iff.2 ⟨hcommands, hs⟩
    obtain ⟨id, hid, ht'⟩ := resolve_iff.2 ⟨hcommands', ht⟩
    have hshare : k.sharable owner srcVa perm = .ok frame :=
      (sharable_ok_iff (lt_userTop_of_isMappable hsrc)).2 ⟨s, e, hs', hrest⟩
    exact ⟨id, mapArguments_ok_iff.2 ⟨hsrc, hdst, hperm, owner, howner, hid, hshare⟩, ht'⟩

/-! ### Calls that succeed -/

/-- **A fresh page is given** where it is to go. -/
lemma pageAlloc_iff : k.pageAlloc caller target va perm = (.ok (), k') ↔
    ∃ s, k.allocSpace caller target va perm = .ok s ∧
      (k.machine.mapZeroed s va perm).1 = .ok () ∧
      k' = { k with machine := (k.machine.mapZeroed s va perm).2 } := by
  rw [pageAlloc]
  cases k.allocSpace caller target va perm with
  | error e => exact ⟨by rintro ⟨⟩, by rintro ⟨_, ⟨⟩, -⟩⟩
  | ok s =>
    dsimp only
    constructor
    · intro h
      obtain ⟨hresult, rfl⟩ := Prod.mk.inj h
      refine ⟨s, rfl, ?_, rfl⟩
      cases hok : (k.machine.mapZeroed s va perm).1 with
      | error e =>
        rw [hok] at hresult
        cases hresult
      | ok u => rfl
    · rintro ⟨_, hs, hok, rfl⟩
      cases hs
      rw [hok]
      rfl

/-- **A page is shown elsewhere**, kept meanwhile by a reference of the kernel's own. -/
lemma pageMap_iff : k.pageMap caller src srcVa dst dstVa perm = (.ok (), k') ↔
    ∃ frame t m, (∃ id, k.mapArguments caller src srcVa dst dstVa perm = .ok (frame, id) ∧
        k.spaceOf? id = some t) ∧
      (k.machine.retain frame).map t frame dstVa perm = .ok m ∧
      k' = { k with machine := m.release frame } := by
  rw [pageMap]
  cases k.mapArguments caller src srcVa dst dstVa perm with
  | error e =>
    refine ⟨by rintro ⟨⟩, ?_⟩
    rintro ⟨frame, t, m, ⟨id, hargs, -⟩, -⟩
    cases hargs
  | ok r =>
    obtain ⟨frame, id⟩ := r
    dsimp only
    rw [holding]
    constructor
    · intro h
      cases hkept : mapKept { k with machine := k.machine.retain frame } id frame dstVa perm with
      | error e =>
        rw [hkept] at h
        cases h
      | ok k₁ =>
        rw [hkept] at h
        obtain ⟨t, m, ht, hm, rfl⟩ := mapKept_ok hkept
        obtain ⟨-, rfl⟩ := Prod.mk.inj h
        exact ⟨frame, t, m, ⟨id, rfl, ht⟩, hm, rfl⟩
    · rintro ⟨frame', t, m, ⟨id', hargs, ht⟩, hm, rfl⟩
      cases hargs
      have hkept : mapKept { k with machine := k.machine.retain frame } id frame dstVa perm =
          .ok { k with machine := m } := by
        refine bind_ok_iff.2 ⟨t, spaceOf_ok_iff.2 ht, ?_⟩
        change withMachine _ ((k.machine.retain frame).map t frame dstVa perm) = _
        rw [hm]
        rfl
      rw [hkept]

/-- **A page is taken away.** -/
lemma pageUnmap_iff : k.pageUnmap caller target va = .ok k' ↔ va.isMappable = true ∧
    k.Commands caller target ∧ ∃ s, k.spaceOf? (named caller target) = some s ∧
      k' = { k with machine := k.machine.unmap s va } := by
  constructor
  · intro h
    obtain ⟨id, s, hva, hres, hs, rfl⟩ := pageUnmap_cases h
    obtain ⟨hcommands, hs'⟩ := resolve_iff.1 ⟨id, hres, hs⟩
    exact ⟨hva, hcommands, s, hs', rfl⟩
  · rintro ⟨hva, hcommands, s, hs, rfl⟩
    obtain ⟨id, hres, hs'⟩ := resolve_iff.2 ⟨hcommands, hs⟩
    exact bind_ok_iff.2 ⟨(), checkAddress_ok_iff.2 hva, bind_ok_iff.2 ⟨id, hres,
      bind_ok_iff.2 ⟨s, spaceOf_ok_iff.2 hs', rfl⟩⟩⟩

/-! ### What they do -/

/-- **Page `page` of process `id` comes to show `shown`**, and nothing else changes for anybody: no
other page of any process, in what it shows or in what it holds, and nothing but the machine. -/
def Sets (k : Kernel) (id : ProcessId) (page : Nat) (shown : Option Mapping) (k' : Kernel) : Prop :=
  ∃ s m, k.spaceOf? id = some s ∧ (∀ other, k.spaceOf? other = some s → other = id) ∧
    k' = { k with machine := m } ∧ m.mapping? s page = shown ∧ k.machine.KeepsBut s page m

/-- Page `page` of address space `s` comes to show `shown`, and nothing else changes. -/
structure SetsAt (k : Kernel) (s page : Nat) (shown : Option Mapping) (k' : Kernel) : Prop where
  machine : ∃ m, k' = { k with machine := m }
  shows : k'.machine.mapping? s page = shown
  keeps : k.machine.KeepsBut s page k'.machine

/-- A page that is put is set. -/
lemma SetsAt.of_puts {kept loose : List Nat} (hacc : k.machine.Accounted kept loose) {e : Mapping}
    {m : Machine} (hput : k.machine.Puts s page e m) (hwindows : m.windows = k.machine.windows) :
    k.SetsAt s page (some e) { k with machine := m } :=
  ⟨⟨m, rfl⟩, (hput.mapping s page).trans (if_pos ⟨rfl, rfl⟩), .of_puts hput hacc hwindows⟩

/-- Where address spaces are kept apart, it is a page of one process. -/
lemma SetsAt.sets (h : k.SetsAt s page shown k') (hk : k.Separate number)
    (hs : k.spaceOf? id = some s) : k.Sets id page shown k' := by
  obtain ⟨⟨m, rfl⟩, hshows, hkeeps⟩ := h
  exact ⟨s, m, hs, fun _ hother => hk.spaceOf?_inj hother hs, rfl, hshows, hkeeps⟩

/-- **A fresh page** shows a frame of zeros that is shown nowhere else. -/
lemma setsAt_pageAlloc (hk : k.Sound) (h : k.pageAlloc caller target va perm = (.ok (), k')) :
    ∃ s n, k.spaceOf? (named caller target) = some s ∧
      k.SetsAt s va.page (some ⟨n, perm⟩) k' ∧
      (∀ i < pageSize, k'.machine.frames.byte? n i = some 0) ∧ k'.machine.SoleAt n s va.page := by
  obtain ⟨s, hspace, hok, rfl⟩ := pageAlloc_iff.1 h
  obtain ⟨-, hperm, -, hs⟩ := allocSpace_iff.1 hspace
  rcases Machine.mapZeroed_cases hk.accounted s va perm with
    ⟨-, n, hfresh, hput⟩ | ⟨⟨e, herror⟩, -⟩
  · rw [Perm.or_present hperm] at hput
    have hwindows : (k.machine.mapZeroed s va perm).2.windows = k.machine.windows :=
      Machine.sameShape_mapZeroed.windows
    refine ⟨s, n, hs, .of_puts hk.accounted hput hwindows, fun i hi => ?_,
      hput.soleAt hk.accounted hwindows hfresh⟩
    have hself := (hput.mapping s va.page).trans (if_pos ⟨rfl, rfl⟩)
    exact Machine.byte?_mapZeroed hk.accounted hok hself hi
  · rw [herror] at hok
    cases hok

lemma sets_pageAlloc (hk : k.Sound) (hs : k.Separate number)
    (h : k.pageAlloc caller target va perm = (.ok (), k')) :
    ∃ n, k.Sets (named caller target) va.page (some ⟨n, perm⟩) k' ∧
      (∀ i < pageSize, k'.machine.frames.byte? n i = some 0) ∧
      ∀ s, k.spaceOf? (named caller target) = some s → k'.machine.SoleAt n s va.page := by
  obtain ⟨s, n, ht, hset, hzero, hsole⟩ := setsAt_pageAlloc hk h
  refine ⟨n, hset.sets hs ht, hzero, fun s' hs' => ?_⟩
  obtain rfl := Option.some.inj (ht.symm.trans hs')
  exact hsole

/-- **A page that is shown elsewhere** shows the frame that its source shows. -/
lemma sets_pageMap (hk : k.Separate number)
    (h : k.pageMap caller src srcVa dst dstVa perm = (.ok (), k')) :
    ∃ s e, k.spaceOf? (named caller src) = some s ∧ k.machine.mapping? s srcVa.page = some e ∧
      k.Sets (named caller dst) dstVa.page (some ⟨e.frame, perm⟩) k' ∧
      ∀ i, k'.machine.frames.byte? e.frame i = k.machine.frames.byte? e.frame i := by
  obtain ⟨frame, t, m, hargs, hm, rfl⟩ := pageMap_iff.1 h
  obtain ⟨-, -, hperm, -, -, ht, s, e, hs, he, rfl, -⟩ := mapArguments_iff.1 hargs
  have hput := Machine.Puts.of_mapKept hm
  rw [Perm.or_present hperm] at hput
  have hset := SetsAt.of_puts hk.accounted hput (Machine.sameShape_map hm).windows
  exact ⟨s, e, hs, he, hset.sets hk ht,
    FramePool.byte?_eq_of_contents? (hput.contents _ (hk.accounted.isSome_of_mapping? he))⟩

/-- **A page that is taken away** shows nothing. -/
lemma sets_pageUnmap (hk : k.Separate number) (h : k.pageUnmap caller target va = .ok k') :
    k.Sets (named caller target) va.page none k' := by
  obtain ⟨-, -, s, hs, rfl⟩ := pageUnmap_iff.1 h
  exact ⟨s, _, hs, fun _ hother => hk.spaceOf?_inj hother hs, rfl,
    (Machine.mapping?_unmap s va.page).trans (if_pos ⟨rfl, rfl⟩), .unmap hk.accounted⟩

/-- Whom a caller may name has an address space. -/
lemma Commands.spaceOf? (h : k.Commands caller target) (hk : k.Sound) :
    ∃ s, k.spaceOf? (named caller target) = some s := by
  obtain ⟨p, hp, -⟩ := h
  exact spaceOf?_of_live? hk hp

/-! ### When they succeed -/

/-- A page that a call may name. -/
lemma isMappable_iff : va.isMappable = true ↔ va.toNat < userTop ∧ va.isAligned = true := by
  rw [VirtAddr.isMappable, Bool.and_eq_true, decide_eq_true_eq]

/-- **A fresh page is shown** if the arguments are right and there are frames for it and for a page
table, where that is missing. -/
lemma pageAlloc_ok_iff (hk : k.Separate number) :
    (∃ k', k.pageAlloc caller target va perm = (.ok (), k')) ↔
      (va.toNat < userTop ∧ va.isAligned = true) ∧ perm.isRequestable = true ∧
      k.Commands caller target ∧ ∃ s, k.spaceOf? (named caller target) = some s ∧
        1 ≤ k.machine.freeFrames ∧
        (¬ k.machine.HasTable s va.page → 2 ≤ k.machine.freeFrames) := by
  rw [← isMappable_iff]
  constructor
  · rintro ⟨k', hok⟩
    obtain ⟨s, hspace, hzeroed, -⟩ := pageAlloc_iff.1 hok
    obtain ⟨hva, hperm, hcommands, hs⟩ := allocSpace_iff.1 hspace
    have hprovided := (Machine.mapZeroed_iff (lt_userTop_of_isMappable hva)).1 hzeroed
    exact ⟨hva, hperm, hcommands, s, hs,
      (Machine.provided_iff (hk.isSome_space? hs)).1 hprovided⟩
  · rintro ⟨hva, hperm, hcommands, s, hs, hfree⟩
    have hprovided := (Machine.provided_iff (hk.isSome_space? hs)).2 hfree
    exact ⟨_, pageAlloc_iff.2 ⟨s, allocSpace_iff.2 ⟨hva, hperm, hcommands, hs⟩,
      (Machine.mapZeroed_iff (lt_userTop_of_isMappable hva)).2 hprovided, rfl⟩⟩

/-- **A page is shown elsewhere** if the arguments are right, it is there and allows what is asked
for, and there is a page table or a frame for one. -/
lemma pageMap_ok_iff (hk : k.Separate number) :
    (∃ k', k.pageMap caller src srcVa dst dstVa perm = (.ok (), k')) ↔
      (srcVa.toNat < userTop ∧ srcVa.isAligned = true) ∧
      (dstVa.toNat < userTop ∧ dstVa.isAligned = true) ∧ perm.isRequestable = true ∧
      k.Commands caller src ∧ k.Commands caller dst ∧
      (∃ s e, k.spaceOf? (named caller src) = some s ∧
        k.machine.mapping? s srcVa.page = some e ∧
        (perm.contains .writable = true → e.perm.contains .writable = true)) ∧
      ∃ t, k.spaceOf? (named caller dst) = some t ∧
        (k.machine.HasTable t dstVa.page ∨ 1 ≤ k.machine.freeFrames) := by
  rw [← isMappable_iff, ← isMappable_iff]
  constructor
  · rintro ⟨k', hok⟩
    obtain ⟨frame, t, m, hargs, hm, -⟩ := pageMap_iff.1 hok
    obtain ⟨hsrc, hdst, hperm, hcommands, hcommands', ht, s, e, hs, he, -, hwrite⟩ :=
      mapArguments_iff.1 hargs
    refine ⟨hsrc, hdst, hperm, hcommands, hcommands', ⟨s, e, hs, he, hwrite⟩, t, ht, ?_⟩
    have hprovided := (Machine.map_iff (lt_userTop_of_isMappable hdst)).1 ⟨m, hm⟩
    rcases hprovided with ⟨htable, -⟩ | ⟨-, hfree⟩
    · exact .inl (htable.congr rfl)
    · exact .inr hfree
  · rintro ⟨hsrc, hdst, hperm, hcommands, hcommands', ⟨s, e, hs, he, hwrite⟩, t, ht, hfree⟩
    have hargs := mapArguments_iff.2
      ⟨hsrc, hdst, hperm, hcommands, hcommands', ht, s, e, hs, he, rfl, hwrite⟩
    have hprovided : (k.machine.retain e.frame).Provided t dstVa.page 0 := by
      rcases hfree with htable | hfree
      · exact .inl ⟨htable.congr rfl, Nat.zero_le _⟩
      · exact .inr ⟨hk.isSome_space? ht, hfree⟩
    obtain ⟨m, hm⟩ : ∃ m, (k.machine.retain e.frame).map t e.frame dstVa perm = .ok m :=
      (Machine.map_iff (lt_userTop_of_isMappable hdst)).2 hprovided
    exact ⟨_, pageMap_iff.2 ⟨e.frame, t, m, hargs, hm, rfl⟩⟩

/-- **A page is taken away** if the arguments are right. -/
lemma pageUnmap_ok_iff (hk : k.Sound) :
    (∃ k', k.pageUnmap caller target va = .ok k') ↔
      (va.toNat < userTop ∧ va.isAligned = true) ∧ k.Commands caller target := by
  rw [← isMappable_iff]
  constructor
  · rintro ⟨k', hok⟩
    obtain ⟨hva, hcommands, -⟩ := pageUnmap_iff.1 hok
    exact ⟨hva, hcommands⟩
  · rintro ⟨hva, hcommands⟩
    obtain ⟨s, hs⟩ := hcommands.spaceOf? hk
    exact ⟨_, pageUnmap_iff.2 ⟨hva, hcommands, s, hs, rfl⟩⟩

/-- A kernel that may carry out a call is sound, and keeps address spaces apart. -/
lemma Serves.separate {k₁ : Kernel} (h : k.Serves caller k₁) (hk : k.Sound)
    (hs : k.Separate number) : k₁.Sound ∧ k₁.Separate number := by
  rcases h with rfl | ⟨hlive, f, hsaved⟩
  · exact ⟨hk, hs⟩
  · obtain ⟨p, hp⟩ := Option.isSome_iff_exists.1 hlive
    have hmoves := hsaved.moves hp fun _ hd => hd
    exact ⟨hmoves.sound hk, hmoves.separate hk (fun _ hd => hd.numbered) hs⟩

end Kernel

/-- **When a system call on pages succeeds, and what it does then.** The addresses have to be page
boundaries below `Layout.userTop`, the permissions such as may be asked for, and the processes the
caller itself or live children. A fresh page takes a free frame, and one more where there is no page
table; a page that is shown elsewhere has to be there, nobody may be let write it who could not
before, and it takes a free frame only where there is no page table; a page is always taken away. A
fresh page then shows a frame of zeros that is shown nowhere else, a page that is shown elsewhere
shows the frame of its source with the bytes that it held, and a page that is taken away shows
nothing. Every other page of every process shows the frame that it showed, with the same permissions
and the same bytes, be source and destination one page or two. All that holds until so many address
spaces were made that their numbers come round. -/
theorem page_calls_exact {config : Config} {frames : Nat} {k k₁ : Kernel} {caller : ProcessId}
    (h : Early config frames k) (hserves : k.Serves caller k₁) :
    (∀ target va perm,
      ((∃ k', k₁.pageAlloc caller target va perm = (.ok (), k')) ↔
        (va.toNat < userTop ∧ va.isAligned = true) ∧ perm.isRequestable = true ∧
        k₁.Commands caller target ∧ ∃ s, k₁.spaceOf? (Kernel.named caller target) = some s ∧
          1 ≤ k₁.machine.freeFrames ∧
          (¬ k₁.machine.HasTable s va.page → 2 ≤ k₁.machine.freeFrames)) ∧
      ∀ k', k₁.pageAlloc caller target va perm = (.ok (), k') → ∃ n,
        k₁.Sets (Kernel.named caller target) va.page (some ⟨n, perm⟩) k' ∧
        (∀ i < pageSize, k'.machine.frames.byte? n i = some 0) ∧
        ∀ s, k₁.spaceOf? (Kernel.named caller target) = some s →
          k'.machine.SoleAt n s va.page) ∧
    (∀ src srcVa dst dstVa perm,
      ((∃ k', k₁.pageMap caller src srcVa dst dstVa perm = (.ok (), k')) ↔
        (srcVa.toNat < userTop ∧ srcVa.isAligned = true) ∧
        (dstVa.toNat < userTop ∧ dstVa.isAligned = true) ∧ perm.isRequestable = true ∧
        k₁.Commands caller src ∧ k₁.Commands caller dst ∧
        (∃ s e, k₁.spaceOf? (Kernel.named caller src) = some s ∧
          k₁.machine.mapping? s srcVa.page = some e ∧
          (perm.contains .writable = true → e.perm.contains .writable = true)) ∧
        ∃ t, k₁.spaceOf? (Kernel.named caller dst) = some t ∧
          (k₁.machine.HasTable t dstVa.page ∨ 1 ≤ k₁.machine.freeFrames)) ∧
      ∀ k', k₁.pageMap caller src srcVa dst dstVa perm = (.ok (), k') → ∃ s e,
        k₁.spaceOf? (Kernel.named caller src) = some s ∧
        k₁.machine.mapping? s srcVa.page = some e ∧
        k₁.Sets (Kernel.named caller dst) dstVa.page (some ⟨e.frame, perm⟩) k' ∧
        ∀ i, k'.machine.frames.byte? e.frame i = k₁.machine.frames.byte? e.frame i) ∧
    ∀ target va,
      ((∃ k', k₁.pageUnmap caller target va = .ok k') ↔
        (va.toNat < userTop ∧ va.isAligned = true) ∧ k₁.Commands caller target) ∧
      ∀ k', k₁.pageUnmap caller target va = .ok k' →
        k₁.Sets (Kernel.named caller target) va.page none k' := by
  obtain ⟨hk₁, hs₁⟩ := hserves.separate h.reachable.sound h.separate
  exact ⟨fun target va perm =>
      ⟨Kernel.pageAlloc_ok_iff hs₁, fun k' hok => Kernel.sets_pageAlloc hk₁ hs₁ hok⟩,
    fun src srcVa dst dstVa perm =>
      ⟨Kernel.pageMap_ok_iff hs₁, fun k' hok => Kernel.sets_pageMap hs₁ hok⟩,
    fun target va => ⟨Kernel.pageUnmap_ok_iff hk₁, fun k' hok => Kernel.sets_pageUnmap hs₁ hok⟩⟩

/-- A program asks for a page, shows its text once more at the page where it is, and takes the page
of its stack away. It may not have its text shown for writing. -/
theorem page_calls_exact_text : ∃ (k k₂ k₃ k₄ : Kernel) (s n : Nat) (e : Mapping),
    Early { maxProcesses := 2 } 16 k ∧ k.Serves (ProcessId.self.next 0) k ∧
    k.pageAlloc (ProcessId.self.next 0) .self ⟨0x10000⟩ .userWrite = (.ok (), k₂) ∧
    k.Sets (ProcessId.self.next 0) 16 (some ⟨n, .userWrite⟩) k₂ ∧
    k₂.machine.frames.byte? n 7 = some 0 ∧ k₂.machine.SoleAt n s 16 ∧
    k.pageMap (ProcessId.self.next 0) .self (.ofNat textBase) .self (.ofNat textBase) .userRead =
      (.ok (), k₃) ∧
    k.machine.mapping? s (VirtAddr.ofNat textBase).page = some e ∧
    k.Sets (ProcessId.self.next 0) (VirtAddr.ofNat textBase).page (some ⟨e.frame, .userRead⟩) k₃ ∧
    (¬ ∃ k', k.pageMap (ProcessId.self.next 0) .self (.ofNat textBase) .self (.ofNat textBase)
      .userWrite = (.ok (), k')) ∧
    k.pageUnmap (ProcessId.self.next 0) .self (.ofNat stackPage) = .ok k₄ ∧
    k.Sets (ProcessId.self.next 0) (VirtAddr.ofNat stackPage).page none k₄ := by
  -- what has to be evaluated: the results, and whether the process is there
  obtain ⟨k, hk, halloc, hmap, hrefused, hlive⟩ : ∃ k, Early { maxProcesses := 2 } 16 k ∧
      (k.pageAlloc (ProcessId.self.next 0) .self ⟨0x10000⟩ .userWrite).1 = .ok () ∧
      (k.pageMap (ProcessId.self.next 0) .self (.ofNat textBase) .self (.ofNat textBase)
        .userRead).1 = .ok () ∧
      (k.pageMap (ProcessId.self.next 0) .self (.ofNat textBase) .self (.ofNat textBase)
        .userWrite).1 ≠ .ok () ∧ (k.live? (ProcessId.self.next 0)).isSome = true := by
    have hboot : Booted { maxProcesses := 2 } 16 _ := ⟨_, [0], rfl, .refl _, rfl⟩
    have hspawn := hboot.history.snoc (.spawn ⟨.ofNat textBase, [.readOnly (.ofNat textBase) [7]]⟩)
      trivial
    exact ⟨_, hspawn.early hboot (by decide), by decide +kernel, by decide +kernel,
      by decide +kernel, by decide +kernel⟩
  have hpair : ∀ {r : Except KernelError Unit × Kernel}, r.1 = .ok () → r = (.ok (), r.2) :=
    fun hr => Prod.ext hr rfl
  have hserves : k.Serves (ProcessId.self.next 0) k := .inl rfl
  obtain ⟨hgives, hshows, htakes⟩ := page_calls_exact hk hserves
  obtain ⟨n, hset, hzero, hsole⟩ := (hgives _ _ _).2 _ (hpair halloc)
  have hpage : VirtAddr.page ⟨0x10000⟩ = 16 := by decide
  rw [hpage] at hset hsole
  obtain ⟨s, e, hs, he, hset', -⟩ := (hshows _ _ _ _ _).2 _ (hpair hmap)
  obtain ⟨p, hp⟩ := Option.isSome_iff_exists.1 hlive
  obtain ⟨k₄, htaken⟩ := (htakes .self (.ofNat stackPage)).1.2 ⟨by decide, p, hp, .inl rfl⟩
  have hset'' := (htakes .self (.ofNat stackPage)).2 k₄ htaken
  exact ⟨k, _, _, k₄, s, n, e, hk, hserves, hpair halloc, hset, hzero 7 (by decide), hsole s hs,
    hpair hmap, he, hset', fun ⟨k', hok⟩ => hrefused (congrArg Prod.fst hok), htaken, hset''⟩

end Exokernel
