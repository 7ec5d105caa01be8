/-
What a fork does to memory.

* `UserContext.mem_pages_iff`, `pages_apart`: the list of pages that a fork goes through;
* `UserContext.Splits`: **a fork on its way**: the pages of the parent are as they were, and so are
  those of the child that are shown in it already;
* `Splits.duplicate`, `Splits.duplicateAll`: one page, and all of them;
* `UserContext.Forked`, `Placed.fork`: **after a fork** parent and child have the memory that the
  parent had, and nobody else can write it. If the child has taken the place of the parent's address
  space, neither has anything.
-/
import Exokernel.Proofs.Bench.Requests

namespace Exokernel

open Layout Kernel

/-- A page that is shared until it is written can only be read. -/
lemma Program.readOnlyCopy_reads (p : Perm) :
    (readOnlyCopy p).contains .writable = false := by
  rw [Bool.eq_false_iff, Ne, Perm.contains_iff, readOnlyCopy, Perm.bits_or, Perm.bits_sub,
    Perm.or_and_bits, UInt32.and_assoc, UInt32.not_and_self, UInt32.and_zero]
  decide

namespace Machine

variable {m : Machine} {s page : Nat} {va : VirtAddr} {e : Mapping} {kept loose : List Nat}

/-- **The pages of an address space** are those that show something, each by its address. -/
lemma mem_userPages_iff (hacc : m.Accounted kept loose) : (va, e) ∈ m.userPages s ↔
    m.mapping? s va.page = some e ∧ va = .ofNat (va.page * pageSize) := by
  rw [userPages, mapping?]
  cases hspace : m.space? s with
  | none => simp
  | some a =>
    have hbelow : ∀ page e, a.pages.find? page = some e → page * pageSize < userTop :=
      fun page e he => hacc.below s page e (by rw [mapping?, hspace]; exact he)
    simp only [List.mem_map, Prod.exists, SortedMap.mem_entries_iff, Prod.mk.injEq,
      Option.bind_some]
    constructor
    · rintro ⟨page, e', he', rfl, rfl⟩
      rw [VirtAddr.page_ofNat_mul (hbelow page e' he')]
      exact ⟨he', rfl⟩
    · rintro ⟨he, hva⟩
      exact ⟨va.page, e, he, hva.symm, rfl⟩

/-- They are listed once each. -/
lemma userPages_apart (hacc : m.Accounted kept loose) :
    (m.userPages s).Pairwise fun a b => a.1.page ≠ b.1.page := by
  rw [userPages]
  cases hspace : m.space? s with
  | none => exact .nil
  | some a =>
    have hbelow : ∀ x ∈ a.pages.entries, (VirtAddr.ofNat (x.1 * pageSize)).page = x.1 :=
      fun x hx => VirtAddr.page_ofNat_mul (hacc.below s x.1 x.2 (by
        rw [mapping?, hspace]; exact SortedMap.mem_entries_iff.1 hx))
    refine List.pairwise_map.2 ((a.pages.ascending.imp_of_mem fun {x y} hx hy hlt => ?_))
    rw [hbelow x hx, hbelow y hy]
    exact Nat.ne_of_lt hlt

end Machine

namespace UserContext

open Program

variable {config : Config} {frames cpu s t : Nat} {id child : ProcessId} {u u' : UserContext}
  {va : VirtAddr} {perm : Perm} {watched : Nat → Prop} {memory : Memory}
  {L : ProcessId → Nat → Prop} {todo : List (VirtAddr × Perm)}

lemma Placed.space? (h : u.Placed config frames cpu id s) : u.space? = some s := by
  rw [UserContext.space?, h.process_eq]
  exact h.space

/-- The pages that a fork goes through: those that show something, each by its address. -/
lemma Placed.mem_pages_iff (h : u.Placed config frames cpu id s) : (va, perm) ∈ u.pages ↔
    (∃ e, u.bed.kernel.machine.mapping? s va.page = some e ∧ e.perm = perm) ∧
      va = .ofNat (va.page * pageSize) := by
  have hacc := h.sound.accounted
  rw [pages, h.space?]
  simp only [List.mem_map, List.mem_filter, Prod.exists, Prod.mk.injEq, decide_eq_true_eq,
    Machine.mem_userPages_iff hacc]
  constructor
  · rintro ⟨va', e, ⟨⟨he, hva⟩, -⟩, rfl, rfl⟩
    exact ⟨⟨e, he, rfl⟩, hva⟩
  · rintro ⟨⟨e, he, rfl⟩, hva⟩
    have hbelow := hacc.below s va.page e he
    refine ⟨va, e, ⟨⟨he, hva⟩, ?_⟩, rfl, rfl⟩
    rw [hva, VirtAddr.toNat_ofNat_mul hbelow]
    exact hbelow

/-- They are listed once each. -/
lemma Placed.pages_apart (h : u.Placed config frames cpu id s) :
    u.pages.Pairwise fun a b => a.1.page ≠ b.1.page := by
  rw [pages, h.space?]
  exact List.pairwise_map.2 ((Machine.userPages_apart h.sound.accounted).filter _)

/-! ### A page that is shown elsewhere -/

/-- **A request to show a page elsewhere** that succeeds puts the frame there. -/
lemma Placed.pageMap (h : u.Placed config frames cpu id s) {srcVa : VirtAddr} {dst : ProcessId}
    (hexec : (pageMap .self srcVa dst va perm : Program UserContext Unit).exec u =
      (.ok (), u')) :
    u'.Placed config frames cpu id s ∧ ∃ (e : Mapping) (k₁ : Kernel) (t : Nat) (m : Machine),
      u.bed.kernel.Drifts k₁ ∧ k₁.Sound ∧ k₁.machine.mapping? s srcVa.page = some e ∧
      k₁.spaceOf? (named id dst) = some t ∧
      k₁.machine.Puts t va.page ⟨e.frame, perm ||| .present⟩ m ∧
      { k₁ with machine := m }.Drifts u'.bed.kernel ∧
      ∀ {L : ProcessId → Nat → Prop} {T : Nat → Nat → Prop} {v : Nat → Memory},
        (∀ t, L (named id dst) t → ¬ T t va.page) →
        (perm.contains .writable = true → ∀ s, L id s → ¬ T s srcVa.page) →
        u.bed.kernel.Tracks L T v → { k₁ with machine := m }.Tracks L T v := by
  obtain ⟨hplaced, k₁, w, k₂, hcarried⟩ := h.request_leavesTable rfl pageMap_leavesTable hexec
  obtain ⟨s₁, e, hs₁, he, t, m, ht, hput, rfl⟩ := executed_pageMap hcarried.executed
  have hs := hcarried.spaceOf? h.space
  obtain rfl : s₁ = s := Option.some.inj (Eq.trans (Eq.symm hs₁) hs)
  exact ⟨hplaced, e, k₁, t, m, hcarried.before, hcarried.sound, he, ht, hput, hcarried.after,
    fun hdst hsrc htracks => (hcarried.before.tracks htracks).executed_pageMap hcarried.sound
      hcarried.executed hdst hsrc⟩

/-- A request for a fresh page that succeeds changes no other page. -/
lemma Placed.pageAlloc (h : u.Placed config frames cpu id s) {target : ProcessId}
    (hexec : (Program.pageAlloc target va perm : Program UserContext Unit).exec u =
      (.ok (), u')) :
    u'.Placed config frames cpu id s ∧
      (∀ {L : ProcessId → Nat → Prop} {T : Nat → Nat → Prop} {v : Nat → Memory},
        (∀ t, L (named id target) t → ¬ T t va.page) →
        u.bed.kernel.Tracks L T v → u'.bed.kernel.Tracks L T v) ∧
      ∀ t page e, page ≠ va.page → u'.bed.kernel.machine.mapping? t page = some e →
        u.bed.kernel.machine.mapping? t page = some e := by
  obtain ⟨hplaced, k₁, w, k₂, hcarried⟩ := h.request_leavesTable rfl pageAlloc_leavesTable hexec
  refine ⟨hplaced, fun hT => hcarried.tracks fun htracks =>
    htracks.executed_pageAlloc hcarried.sound hcarried.executed hT, fun t page e hne he => ?_⟩
  obtain ⟨n, -, t', m, -, hput, rfl⟩ := executed_pageAlloc hcarried.sound hcarried.executed
  have he₂ := hcarried.after.fewer t page e he
  rw [show Machine.mapping? _ t page = _ from hput.mapping t page,
    if_neg fun heq => hne heq.2.symm] at he₂
  exact hcarried.before.fewer t page e he₂

/-! ### A fork on its way -/

/-- The pages that are watched while some are still to be shown in the child, which has address
space `t`. -/
def Family (s t : Nat) (watched : Nat → Prop) (todo : List (VirtAddr × Perm)) (x page : Nat) :
    Prop :=
  watched page ∧ (x = s ∨ x = t ∧ ∀ e ∈ todo, e.1.page ≠ page)

/-- A page that is not watched need not be shown in the child. -/
lemma Family.skip {x page : Nat} (hwatched : ¬ watched va.page)
    (h : Family s t watched todo x page) : Family s t watched ((va, perm) :: todo) x page := by
  refine ⟨h.1, h.2.imp_right fun hx => ⟨hx.1, List.forall_mem_cons.2 ⟨fun heq => ?_, hx.2⟩⟩⟩
  subst heq
  exact hwatched h.1

/-- **A fork on its way**: the pages of the parent are as they were, and so are those of the child
that are shown in it already. -/
structure Splits (config : Config) (frames cpu : Nat) (id : ProcessId) (s t : Nat)
    (L : ProcessId → Nat → Prop) (watched : Nat → Prop) (memory : Memory)
    (todo : List (VirtAddr × Perm)) (u : UserContext) : Prop where
  placed : u.Placed config frames cpu id s
  tracks : u.bed.kernel.Tracks L (Family s t watched todo) fun _ => memory
  listed : ∀ va perm, (va, perm) ∈ todo → ∀ e,
    u.bed.kernel.machine.mapping? s va.page = some e → e.perm = perm

/-- What a fork needs of the pages that it goes through: they are listed once each, and the shared
ones are not watched. Parent and child have two address spaces. -/
structure Listable (id child : ProcessId) (s t : Nat) (L : ProcessId → Nat → Prop)
    (watched : Nat → Prop) (todo : List (VirtAddr × Perm)) : Prop where
  other : t ≠ s
  named : child.isSelf = false
  parent : ∀ s', L id s' → s' = s
  child : ∀ t', L child t' → t' = t
  apart : todo.Pairwise fun a b => a.1.page ≠ b.1.page
  shared : ∀ va perm, (va, perm) ∈ todo → va ≠ exceptionStack →
    perm.contains .share = true → ¬ watched va.page
  stack : ¬ watched exceptionPage

lemma Listable.tail {entry : VirtAddr × Perm}
    (h : Listable id child s t L watched (entry :: todo)) : Listable id child s t L watched todo :=
  ⟨h.other, h.named, h.parent, h.child, (List.pairwise_cons.1 h.apart).2,
    fun va perm hmem => h.shared va perm (List.mem_cons_of_mem _ hmem), h.stack⟩

namespace Splits

variable {k : Kernel}

/-- The page of the parent that comes next is shown in the child as well. -/
lemma mapChild (h : u.Splits config frames cpu id s t L watched memory ((va, perm) :: todo))
    (hlist : Listable id child s t L watched ((va, perm) :: todo)) {given : Perm}
    (hgiven : given.contains .writable = true → ¬ watched va.page)
    (hexec : (Program.pageMap .self va child va given : Program UserContext Unit).exec u =
      (.ok (), u')) :
    u'.Placed config frames cpu id s ∧ ∃ (e : Mapping) (k : Kernel), e.perm = perm ∧
      k.machine.mapping? s va.page = some e ∧
      k.machine.mapping? t va.page = some ⟨e.frame, given ||| .present⟩ ∧
      k.Tracks L (Family s t watched ((va, perm) :: todo)) (fun _ => memory) ∧
      (∀ page e', k.machine.mapping? s page = some e' →
        u.bed.kernel.machine.mapping? s page = some e') ∧
      k.Drifts u'.bed.kernel := by
  obtain ⟨hplaced, e, k₁, t', m, hbefore, hk₁, he, ht', hput, hafter, htracks⟩ :=
    h.placed.pageMap hexec
  rw [named_of_not_self hlist.named] at ht' htracks
  obtain rfl : t' = t := hlist.child t' ((hbefore.tracks h.tracks).lives child t' ht')
  have hmap : ∀ page, m.mapping? s page = k₁.machine.mapping? s page := fun page =>
    (hput.mapping s page).trans (if_neg fun heq => hlist.other heq.1)
  refine ⟨hplaced, e, { k₁ with machine := m },
    h.listed va perm List.mem_cons_self e (hbefore.fewer s _ e he), (hmap _).trans he,
    (hput.mapping t' _).trans (if_pos ⟨rfl, rfl⟩), htracks (fun x hx hT => ?_)
      (fun hwritable _ _ hT => hgiven hwritable hT.1) h.tracks,
    fun page e' he' => hbefore.fewer s page e' ((hmap page).symm.trans he'), hafter⟩
  obtain rfl := hlist.child x hx
  exact (hT.2.resolve_left hlist.other).2 (va, perm) List.mem_cons_self rfl

/-- **A page that is shown in both**, and can be written in neither, is watched in the child as
well. -/
lemma next (hplaced : u.Placed config frames cpu id s) (hafter : k.Drifts u.bed.kernel)
    (htracks : k.Tracks L (Family s t watched ((va, perm) :: todo)) fun _ => memory)
    (hlisted : ∀ va perm, (va, perm) ∈ todo → ∀ e,
      k.machine.mapping? s va.page = some e → e.perm = perm)
    {e : Mapping} (he : k.machine.mapping? s va.page = some e)
    (hread : e.perm.contains .writable = false)
    (hchild : ∀ e', k.machine.mapping? t va.page = some e' → e'.frame = e.frame) :
    u.Splits config frames cpu id s t L watched memory todo := by
  refine ⟨hplaced, hafter.tracks ?_,
    fun va' perm' hmem e' he' => hlisted va' perm' hmem e' (hafter.fewer s _ e' he')⟩
  by_cases hwatched : watched va.page
  · refine (htracks.share ⟨hwatched, .inl rfl⟩ he hread hchild rfl).mono (fun x page hx => ?_)
      fun _ _ _ _ _ => rfl
    obtain ⟨hpage, rfl | ⟨rfl, htodo⟩⟩ := hx
    · exact .inl ⟨hpage, .inl rfl⟩
    · by_cases heq : page = va.page
      · exact .inr ⟨rfl, heq⟩
      · exact .inl ⟨hpage, .inr ⟨rfl, List.forall_mem_cons.2 ⟨Ne.symm heq, htodo⟩⟩⟩
  · exact htracks.mono (fun _ _ => .skip hwatched) fun _ _ _ _ _ => rfl

/-- A page that is not watched is left out, or done. -/
lemma skip (h : u.Splits config frames cpu id s t L watched memory ((va, perm) :: todo))
    (hwatched : ¬ watched va.page) :
    u.Splits config frames cpu id s t L watched memory todo :=
  ⟨h.placed, h.tracks.mono (fun _ _ => .skip hwatched) fun _ _ _ _ _ => rfl,
    fun va' perm' hmem => h.listed va' perm' (List.mem_cons_of_mem _ hmem)⟩

/-- **One page** of the parent is shown in the child. -/
lemma duplicate (h : u.Splits config frames cpu id s t L watched memory ((va, perm) :: todo))
    (hlist : Listable id child s t L watched ((va, perm) :: todo)) (hva : va ≠ exceptionStack)
    (hexec : (Program.duplicate child va perm : Program UserContext Unit).exec u =
      (.ok (), u')) : u'.Splits config frames cpu id s t L watched memory todo := by
  have hlater : ∀ va' perm', (va', perm') ∈ todo → ∀ e,
      u.bed.kernel.machine.mapping? s va'.page = some e → e.perm = perm' :=
    fun va' perm' hmem => h.listed va' perm' (List.mem_cons_of_mem _ hmem)
  rw [Program.duplicate] at hexec
  split at hexec
  · next hshare =>
    rw [Perm.contains_and (by decide)] at hshare
    have hwatched := hlist.shared va perm List.mem_cons_self hva hshare
    obtain ⟨hplaced, e, k, -, -, -, htracks, hfewer, hafter⟩ :=
      h.mapChild hlist (fun _ => hwatched) hexec
    have hstill : u'.Splits config frames cpu id s t L watched memory ((va, perm) :: todo) :=
      ⟨hplaced, hafter.tracks htracks, fun va' perm' hmem e' he' =>
        h.listed va' perm' hmem e' (hfewer _ e' (hafter.fewer s _ e' he'))⟩
    exact hstill.skip hwatched
  · split at hexec
    · obtain ⟨_, u₁, hfirst, hexec⟩ := exec_bind_ok hexec
      obtain ⟨hplaced₁, e, k, -, he, hchild, htracks, hfewer, hafter⟩ := h.mapChild hlist
        (fun hwritable => absurd hwritable (by rw [readOnlyCopy_reads]; nofun)) hfirst
      obtain ⟨hplaced, e₁, k₁, s', m, hbefore, hk₁, he₁, hs', hput, hafter₁, -⟩ :=
        hplaced₁.pageMap hexec
      have htracks₁ := hbefore.tracks (hafter.tracks htracks)
      obtain rfl : s' = s := hlist.parent s' (htracks₁.lives id s' hs')
      have hback : ∀ x page e', k₁.machine.mapping? x page = some e' →
          k.machine.mapping? x page = some e' := fun x page e' he' =>
        hafter.fewer x page e' (hbefore.fewer x page e' he')
      obtain rfl : e = e₁ := Option.some.inj (he.symm.trans (hback _ _ _ he₁))
      -- from now on the page can be read only in the parent, too
      refine next (e := ⟨e.frame, readOnlyCopy (perm &&& .requestable) ||| .present⟩) hplaced
        hafter₁ (htracks₁.remap hk₁ hput he₁ rfl ?_) (fun va' perm' hmem e' he' => ?_)
        ((hput.mapping s' _).trans (if_pos ⟨rfl, rfl⟩)) ?_ fun e' he' => ?_
      · rw [Perm.contains_writable_present, readOnlyCopy_reads]
      · have hne := (List.pairwise_cons.1 hlist.apart).1 _ hmem
        have hold := (hput.mapping s' va'.page).symm.trans he'
        rw [if_neg fun heq => hne heq.2] at hold
        exact hlater va' perm' hmem e' (hfewer _ e' (hback _ _ _ hold))
      · rw [Perm.contains_writable_present, readOnlyCopy_reads]
      · have hold := (hput.mapping t va.page).symm.trans he'
        rw [if_neg fun heq => hlist.other heq.1.symm] at hold
        rw [hback _ _ _ hold, Option.some.injEq] at hchild
        rw [hchild]
    · next hmeets =>
      -- a page that can be written would be shared until it is written
      have hread : perm.contains .writable = false := by
        by_contra hwritable
        rw [Bool.not_eq_false] at hwritable
        refine hmeets (Perm.meets_of_contains (r := .writable) ?_ (by decide) (by decide))
        rwa [Perm.contains_and (by decide)]
      obtain ⟨hplaced, e, k, rfl, he, hchild, htracks, hfewer, hafter⟩ :=
        h.mapChild hlist (fun hwritable => by
          rw [Perm.contains_and (by decide), hread] at hwritable
          cases hwritable) hexec
      refine next hplaced hafter htracks
        (fun va' perm' hmem e' he' => hlater va' perm' hmem e' (hfewer _ e' he')) he hread
        fun e' he' => ?_
      rw [hchild, Option.some.injEq] at he'
      rw [← he']

/-- **All pages**, one after the other. -/
lemma duplicateAll (h : u.Splits config frames cpu id s t L watched memory todo)
    (hlist : Listable id child s t L watched todo)
    (hexec : (Program.duplicateAll child todo : Program UserContext Unit).exec u =
      (.ok (), u')) : u'.Splits config frames cpu id s t L watched memory [] := by
  induction todo generalizing u with
  | nil =>
    cases hexec
    exact h
  | cons entry todo ih =>
    obtain ⟨va, perm⟩ := entry
    rw [Program.duplicateAll] at hexec
    by_cases hva : va = exceptionStack
    · subst hva
      rw [if_neg (by simp)] at hexec
      exact ih (h.skip hlist.stack) hlist.tail hexec
    · rw [if_pos hva] at hexec
      obtain ⟨_, u₁, hfirst, hexec⟩ := exec_bind_ok hexec
      exact ih (h.duplicate hlist hva hfirst) hlist.tail hexec

end Splits

/-! ### The whole fork -/

/-- **What installing the handler comes to**: a process that shows nothing at its exception stack
allocates it first. -/
lemma exec_installHandler_cases {r : Except LibError Unit}
    (hexec : (Program.installHandler : Program UserContext Unit).exec u = (r, u')) :
    ((Host.perm? u exceptionStack).isNone ∧ (do
        Program.pageAlloc .self exceptionStack .userWrite
        Program.setFaultHandler .self (.ofNat Bench.handlerEntry) :
          Program UserContext Unit).exec u = (r, u')) ∨
      (¬ (Host.perm? u exceptionStack).isNone ∧
        (Program.setFaultHandler .self (.ofNat Bench.handlerEntry) :
          Program UserContext Unit).exec u = (r, u')) := by
  rw [Program.installHandler, exec_bind, exec_perm?] at hexec
  dsimp only at hexec
  split at hexec
  · next hnone => exact .inl ⟨hnone, hexec⟩
  · next hsome => exact .inr ⟨hsome, hexec⟩

/-- The exception stack and the handler of a process that is about to fork. -/
lemma Placed.installHandler (h : u.Placed config frames cpu id s) {T : Nat → Nat → Prop}
    {v : Nat → Memory} (hT : ∀ x, ¬ T x exceptionPage) (htracks : u.bed.kernel.Tracks L T v)
    (hexec : (Program.installHandler : Program UserContext Unit).exec u = (.ok (), u')) :
    u'.Placed config frames cpu id s ∧ u'.bed.kernel.Tracks L T v ∧
      ∀ t page e, page ≠ exceptionPage → u'.bed.kernel.machine.mapping? t page = some e →
        u.bed.kernel.machine.mapping? t page = some e := by
  have hhandler : ∀ {w : UserContext} {entry : VirtAddr}, w.Placed config frames cpu id s →
      (Program.setFaultHandler .self entry : Program UserContext Unit).exec w = (.ok (), u') →
      u'.Placed config frames cpu id s ∧ w.bed.kernel.Drifts u'.bed.kernel :=
    fun hw => hw.request_drifts rfl answers_setFaultHandler executed_setFaultHandler
  obtain ⟨-, hexec⟩ | ⟨-, hexec⟩ := exec_installHandler_cases hexec
  · obtain ⟨_, u₁, halloc, hexec⟩ := exec_bind_ok hexec
    obtain ⟨h₁, htracks₁, hfewer⟩ := h.pageAlloc halloc
    obtain ⟨h₂, hdrifts⟩ := hhandler h₁ hexec
    exact ⟨h₂, hdrifts.tracks (htracks₁ (fun x _ => hT x) htracks),
      fun t page e hne he => hfewer t page e hne (hdrifts.fewer t page e he)⟩
  · obtain ⟨h₁, hdrifts⟩ := hhandler h hexec
    exact ⟨h₁, hdrifts.tracks htracks, fun t page e _ => hdrifts.fewer t page e⟩

/-- The child is not the caller, which was there before. -/
lemma keepsSpace_exofork : KeepsSpace cpu id .exofork := fun hk hlive hexec hs => by
  obtain ⟨hnone, hspaces, -⟩ := exofork_effect hk (executed_exofork hexec)
  refine (hspaces id _ hs).resolve_left fun heq => ?_
  rw [heq.1, hnone] at hlive
  cases hlive

/-- **A child that is made** has an address space that shows nothing yet. -/
lemma Placed.exofork (h : u.Placed config frames cpu id s)
    (hexec : (Program.exofork : Program UserContext Fork).exec u = (.ok (.parent child), u')) :
    u'.Placed config frames cpu id s ∧ child.isSelf = false ∧ ∃ t,
      (∀ t', u'.bed.kernel.spaceOf? child = some t' → t' = t) ∧
      (∀ page, u'.bed.kernel.machine.mapping? t page = none) ∧
      (∀ x page e, u'.bed.kernel.machine.mapping? x page = some e →
        u.bed.kernel.machine.mapping? x page = some e) ∧
      ∀ {L : ProcessId → Nat → Prop} {T : Nat → Nat → Prop} {v : Nat → Memory},
        u.bed.kernel.Tracks L T v →
        u'.bed.kernel.Tracks (fun x s => u'.bed.kernel.spaceOf? x = some s) T v := by
  obtain ⟨answer, htrap, hok, hself⟩ := exec_exofork_ok hexec
  obtain ⟨hplaced, k₁, k₂, hcarried⟩ := h.trap rfl answers_exofork keepsSpace_exofork htrap hok
  have hfork := executed_exofork hcarried.executed
  obtain ⟨hnone, hspaces, hmap, -⟩ := exofork_effect hcarried.sound hfork
  have hfewer : ∀ x page e, u'.bed.kernel.machine.mapping? x page = some e →
      k₁.machine.spaces.nextId.toNat ≠ x ∧ k₁.machine.mapping? x page = some e :=
    fun x page e he => by
      have he₂ := hcarried.after.fewer x page e he
      rw [hmap] at he₂
      split at he₂
      · cases he₂
      · next hne => exact ⟨hne, he₂⟩
  refine ⟨hplaced, hself, k₁.machine.spaces.nextId.toNat, fun t' ht' => ?_, fun page => ?_,
    fun x page e he => hcarried.before.fewer x page e (hfewer x page e he).2, fun htracks => ?_⟩
  · rcases hspaces child t' (hcarried.after.living child t' ht') with ⟨-, heq⟩ | hold
    · exact heq
    · rw [spaceOf?, hnone] at hold
      cases hold
  · rw [Option.eq_none_iff_forall_ne_some]
    exact fun e he => (hfewer _ page e he).1 rfl
  · exact (hcarried.after.tracks ((hcarried.before.tracks htracks).exofork hcarried.sound
      hfork)).tighten

/-- The child before its first page: it shows nothing. -/
lemma Splits.begin (h : u.Placed config frames cpu id s)
    (htracks : u.bed.kernel.Tracks L (fun x page => watched page ∧ x = s) fun _ => memory)
    (hblank : ∀ page, u.bed.kernel.machine.mapping? t page = none) :
    u.Splits config frames cpu id s t L watched memory u.pages := by
  refine ⟨h, ⟨htracks.lives, ?_⟩, fun va perm hmem e he => ?_⟩
  · rintro x page ⟨hpage, rfl | ⟨rfl, -⟩⟩ hshown
    · exact htracks.pages x page ⟨hpage, rfl⟩ hshown
    · rw [hblank] at hshown
      cases hshown
  · obtain ⟨⟨e', he', hperm⟩, -⟩ := h.mem_pages_iff.1 hmem
    rw [he] at he'
    cases he'
    exact hperm

/-- **Parent and child after a fork**: the child has address space `t`, and both have the memory of
the parent on all pages that are watched, which nobody else can write. Or the child has taken the
place of the parent's address space, and neither shows any such page. -/
structure Forked (config : Config) (frames cpu : Nat) (id child : ProcessId) (s t : Nat)
    (watched : Nat → Prop) (memory : Memory) (u : UserContext) : Prop where
  placed : u.Placed config frames cpu id s
  child : ∀ t', u.bed.kernel.spaceOf? child = some t' → t' = t
  tracks : t ≠ s → u.bed.kernel.Tracks (fun x s => u.bed.kernel.spaceOf? x = some s)
    (fun x page => watched page ∧ (x = s ∨ x = t)) fun _ => memory
  blank : t = s → u.bed.kernel.Tracks (fun x s => u.bed.kernel.spaceOf? x = some s)
    (fun x page => watched page ∧ x = s) fun _ _ => none

/-- **The pages of the parent**, one after the other. -/
lemma Placed.duplicateAll (h : u.Placed config frames cpu id s) (hself : child.isSelf = false)
    (hchild : ∀ t', u.bed.kernel.spaceOf? child = some t' → t' = t)
    (hblank : ∀ page, u.bed.kernel.machine.mapping? t page = none)
    (hstack : ¬ watched exceptionPage)
    (hshared : ∀ page e, page ≠ exceptionPage → u.bed.kernel.machine.mapping? s page = some e →
      e.perm.contains .share = true → ¬ watched page)
    (htracks : u.bed.kernel.Tracks (fun x s => u.bed.kernel.spaceOf? x = some s)
      (fun x page => watched page ∧ x = s) fun _ => memory)
    (hexec : (Program.duplicateAll child u.pages : Program UserContext Unit).exec u =
      (.ok (), u')) : u'.Forked config frames cpu id child s t watched memory := by
  by_cases heq : t = s
  · subst heq
    -- the parent has no pages left
    have hnone : u.pages = [] := List.eq_nil_iff_forall_not_mem.2 fun entry hmem => by
      obtain ⟨⟨e, he, -⟩, -⟩ := h.mem_pages_iff.1 hmem
      rw [hblank] at he
      cases he
    rw [hnone, Program.duplicateAll] at hexec
    cases hexec
    refine ⟨h, hchild, fun hne => absurd rfl hne, fun _ => ⟨htracks.lives, ?_⟩⟩
    rintro x page ⟨-, rfl⟩ hshown
    rw [hblank] at hshown
    cases hshown
  · have hlist : Listable id child s t (fun x s => u.bed.kernel.spaceOf? x = some s) watched
        u.pages := by
      refine ⟨heq, hself, fun s' hs' => ?_, hchild, h.pages_apart,
        fun va perm hmem hva hshare => ?_, hstack⟩
      · exact Option.some.inj (hs'.symm.trans h.space)
      · obtain ⟨⟨e, he, rfl⟩, hplace⟩ := h.mem_pages_iff.1 hmem
        exact hshared va.page e (fun heq => hva (by rw [hplace, heq]; rfl)) he hshare
    obtain ⟨hplaced, htracks', -⟩ := (Splits.begin h htracks hblank).duplicateAll hlist hexec
    refine ⟨hplaced, fun t' ht' => hchild t' (htracks'.lives child t' ht'), fun _ => ?_,
      fun h => absurd h heq⟩
    exact htracks'.tighten.mono (fun x page hx => ⟨hx.1, hx.2.imp_right fun heq => ⟨heq, nofun⟩⟩)
      fun _ _ _ _ _ => rfl

/-- What leaves all watched pages alone, leaves parent and child as they are. -/
lemma Forked.after (h : u.Forked config frames cpu id child s t watched memory)
    (hplaced : u'.Placed config frames cpu id s)
    (htracks : ∀ {T : Nat → Nat → Prop} {v : Nat → Memory}, (∀ x page, T x page → watched page) →
      u.bed.kernel.Tracks (fun x s => u.bed.kernel.spaceOf? x = some s) T v →
      u'.bed.kernel.Tracks (fun x s => u.bed.kernel.spaceOf? x = some s) T v) :
    u'.Forked config frames cpu id child s t watched memory := by
  refine ⟨hplaced, fun t' ht' => h.child t' ?_, fun hne => ?_, fun heq => ?_⟩
  · by_cases heq : t = s
    · exact (htracks (fun _ _ hT => hT.1) (h.blank heq)).lives child t' ht'
    · exact (htracks (fun _ _ hT => hT.1) (h.tracks heq)).lives child t' ht'
  · exact (htracks (fun _ _ hT => hT.1) (h.tracks hne)).tighten
  · exact (htracks (fun _ _ hT => hT.1) (h.blank heq)).tighten

/-- **After a fork** parent and child have the memory that the parent had on all pages that are
watched, and nobody else can write it. -/
lemma Placed.fork (h : u.Placed config frames cpu id s)
    (hwatched : ∀ page, watched page → page ≠ exceptionPage)
    (hshared : ∀ page e, u.bed.kernel.machine.mapping? s page = some e →
      e.perm.contains .share = true → ¬ watched page)
    (htracks : u.bed.kernel.Tracks L (fun x page => watched page ∧ x = s) fun _ => memory)
    (hexec : (Program.fork : Program UserContext Fork).exec u = (.ok (.parent child), u')) :
    ∃ t, u'.Forked config frames cpu id child s t watched memory := by
  have hstack : ¬ watched exceptionPage := fun hT => hwatched _ hT rfl
  obtain ⟨_, u₁, hinstall, hexec⟩ := exec_bind_ok hexec
  obtain ⟨h₁, htracks₁, hfewer₁⟩ := h.installHandler (fun _ hT => hstack hT.1) htracks hinstall
  obtain ⟨side, u₂, hfork, hexec⟩ := exec_bind_ok hexec
  cases side with
  | child => cases hexec
  | parent child' =>
    obtain ⟨h₂, hself, t, hchild, hblank, hfewer₂, htracks₂⟩ := h₁.exofork hfork
    obtain ⟨todo, u₃, hpages, hexec⟩ := exec_bind_ok hexec
    cases hpages
    obtain ⟨_, u₃, hall, hexec⟩ := exec_bind_ok hexec
    have h₃ := h₂.duplicateAll hself hchild hblank hstack (fun page e hne he =>
      hshared page e (hfewer₁ s page e hne (hfewer₂ s page e he))) (htracks₂ htracks₁) hall
    obtain ⟨_, u₄, halloc, hexec⟩ := exec_bind_ok hexec
    obtain ⟨hplaced₄, hkeeps, -⟩ := h₃.placed.pageAlloc halloc
    have h₄ := h₃.after hplaced₄ fun hT => hkeeps fun x _ hx => hstack (hT x _ hx)
    obtain ⟨entry, u₅, hentry, hexec⟩ := exec_bind_ok hexec
    cases hentry
    obtain ⟨_, u₅, hhandler, hexec⟩ := exec_bind_ok hexec
    obtain ⟨hplaced₅, hdrifts₅⟩ := h₄.placed.request_drifts rfl answers_setFaultHandler
      executed_setFaultHandler hhandler
    obtain ⟨_, u₆, hstatus, hexec⟩ := exec_bind_ok hexec
    obtain ⟨hplaced₆, hdrifts₆⟩ :=
      hplaced₅.request_drifts rfl answers_setStatus executed_setStatus hstatus
    cases hexec
    exact ⟨t, h₄.after hplaced₆ fun _ htracks => hdrifts₆.tracks (hdrifts₅.tracks htracks)⟩

end UserContext

end Exokernel
