/-
Pages that nobody else can write, and what the kernel does to them.

* `Kernel.Tracks`: each of the pages that are watched is guarded, as long as it shows anything;
* `Drifts.tracks`: they stay so when memory only drifts;
* `trap_tracks`: **no trap but a system call** touches pages outside the exception stack;
* `Tracks.pageAlloc`, `Tracks.pageMap`, `Tracks.unmap`, `Tracks.exofork`: neither do system
  calls that are about other pages;
* `Tracks.userWrite`: a store goes to the pages of one address space.
-/
import Exokernel.Proofs.Kernel.Drift
import Exokernel.Proofs.Memory.Checks
import Exokernel.Proofs.Memory.Guards
import Exokernel.Proofs.Memory.Ranges

namespace Exokernel.Kernel

open Layout

variable {k k' k'' : Kernel} {id caller target : ProcessId} {p : Process} {cpu n page s : Nat}
  {f : TrapFrame} {va : VirtAddr} {perm : Perm} {L L' : ProcessId → Nat → Prop}
  {T T' : Nat → Nat → Prop} {v w : Nat → Memory}

/-- **Pages that are watched** hold the bytes of a memory, as long as they show anything, and nobody
can write their frames elsewhere. `T` tells which pages of which address spaces are watched, and `L`
who lives in which address space, if he lives. -/
structure Tracks (k : Kernel) (L : ProcessId → Nat → Prop) (T : Nat → Nat → Prop)
    (v : Nat → Memory) : Prop where
  lives : ∀ id s, k.spaceOf? id = some s → L id s
  pages : ∀ s page, T s page → (k.machine.mapping? s page).isSome →
    k.machine.Guards s page (v s)

namespace Tracks

/-- Fewer pages, and memories that agree on them. -/
lemma mono (h : k.Tracks L T v) (hT : ∀ s page, T' s page → T s page)
    (hw : ∀ s page, T' s page → ∀ i < pageSize,
      w s (page * pageSize + i) = v s (page * pageSize + i)) : k.Tracks L T' w :=
  ⟨h.lives, fun s page hpage hshown =>
    (h.pages s page (hT s page hpage) hshown).congr (hw s page hpage)⟩

/-- Who lives where is as it is. -/
lemma tighten (h : k.Tracks L T v) : k.Tracks (fun id s => k.spaceOf? id = some s) T v :=
  ⟨fun _ _ hs => hs, h.pages⟩

/-- Who lives nowhere, has no address space. -/
lemma spaceOf?_none (h : k.Tracks L T v) (hnot : ¬ ∃ s, L id s) : k.spaceOf? id = none := by
  cases hs : k.spaceOf? id with
  | none => rfl
  | some s => exact absurd ⟨s, h.lives id s hs⟩ hnot

/-- A machine that shows at watched pages what it showed, and on which they are guarded. -/
lemma of_machine {m : Machine} (h : k.Tracks L T v)
    (hm : ∀ s page, T s page → (m.mapping? s page).isSome → m.Guards s page (w s)) :
    { k with machine := m }.Tracks L T w :=
  ⟨h.lives, hm⟩

end Tracks

/-- Pages stay guarded while memory drifts. -/
lemma Drifts.tracks (hd : k.Drifts k') (h : k.Tracks L T v) : k'.Tracks L T v := by
  refine ⟨fun id s hs => h.lives id s (hd.living id s hs), fun s page hpage hshown => ?_⟩
  obtain ⟨e, he⟩ := Option.isSome_iff_exists.1 hshown
  have hbefore := hd.fewer s page e he
  refine (h.pages s page hpage (by rw [hbefore]; rfl)).of_fewer (he.trans hbefore.symm)
    (fun e' he' => ?_) hd.fewer
  obtain rfl : e = e' := Option.some.inj (hbefore.symm.trans he')
  exact hd.contents s page e he

/-! ### Faults -/

/-- The page of the exception stack. -/
abbrev exceptionPage : Nat := exceptionStackBottom / pageSize

/-- The exception stack is one page. -/
lemma div_exceptionStack {address : Nat} (hlow : exceptionStackBottom ≤ address)
    (hhigh : address < exceptionStackTop) : address / pageSize = exceptionPage := by
  have hbottom : exceptionStackBottom = 0xEEBFF000 := rfl
  have htop : exceptionStackTop = 0xEEC00000 := rfl
  have hps : pageSize = 4096 := rfl
  simp only [exceptionPage, hps]
  omega

/-- An exception stack that can be written is a page that shows a frame for writing. -/
lemma writable_of_checkUser {m : Machine}
    (h : m.checkUser s (.ofNat (exceptionStackTop - 1)) 1 .writable = .ok ()) :
    ∃ e, m.mapping? s exceptionPage = some e ∧ e.perm.contains .writable = true := by
  have hlast : (VirtAddr.ofNat (exceptionStackTop - 1)).toNat < userTop := by decide
  have hpage : (VirtAddr.ofNat (exceptionStackTop - 1)).page = exceptionPage := by decide
  obtain ⟨-, e, he, hperm⟩ := Machine.checkUser_byte_iff.1 h
  rw [Machine.lookup?_of_lt hlast, hpage] at he
  exact ⟨e, he, Perm.contains_trans hperm rfl⟩

lemma FaultWrite.mapping? {m : Machine} (hm : k.FaultWrite id f m) (s page : Nat) :
    m.mapping? s page = k.machine.mapping? s page := by
  cases hm
  rfl

/-- **A fault frame** that is written leaves guarded pages alone that are no exception stacks. -/
lemma FaultWrite.guards {m : Machine} {v : Memory} (hm : k.FaultWrite id f m)
    (hpage : page ≠ exceptionPage) (h : k.machine.Guards s page v) : m.Guards s page v := by
  cases hm with
  | @mk s₁ entry plan data hs₁ hplan hlen =>
    obtain ⟨hplace, hcheck⟩ := planUpcall_ok hplan
    obtain ⟨hlow, hhigh⟩ := UpcallPlan.frameVa_bounds hplace
    obtain ⟨e', he', hperm⟩ := writable_of_checkUser hcheck
    refine h.of_same rfl (fun e he => ?_) fun _ _ _ _ hw => hw
    refine Machine.contents?_copyOut data fun piece hpiece hframe => ?_
    rw [hlen] at hpiece
    obtain ⟨hstart, hend⟩ := start_lt_of_mem_pieces hpiece
    have hlt := Nat.lt_of_lt_of_le hend hhigh
    obtain ⟨e'', he'', hframe'⟩ := (Machine.mappedFrame_ok_iff hlt).1 hframe
    -- the frame is that of the exception stack, which nobody else may write
    rw [div_exceptionStack (Nat.le_trans hlow hstart) hlt, he'] at he''
    cases he''
    obtain ⟨-, heq⟩ := h.sole e he s₁ exceptionPage ⟨e', he', hframe', hperm⟩
    exact hpage heq.symm

/-- **No trap but a system call** touches guarded pages that are no exception stacks. -/
lemma trap_tracks (hk : k.Sound) (h : k.Tracks L T v)
    (hT : ∀ s page, T s page → page ≠ exceptionPage)
    (hcause : TrapCause.ofNumber f.trapno ≠ .syscall) : (k.trap cpu f).2.Tracks L T v := by
  cases hcur : k.current? cpu with
  | none =>
    refine (trap_drifts hk fun id hid => ?_).tracks h
    rw [hcur] at hid
    cases hid
  | some id =>
    obtain ⟨k₁, hmoves, hgoes⟩ := trap_cases (f := f) hk hcur
    have htracks : k₁.Tracks L T v := by
      refine hmoves.induct (P := fun k₁ => k₁.Tracks L T v) h ?_
      rintro k₁ d k₂ h₁ hd hmove
      cases hd with
      | own hd => exact (hmove.drifts hd.calm).tracks h₁
      | call huser hlive hcall => exact absurd hcall hcause
      | @fault k₀ m hpf hsaved hm =>
        obtain ⟨hmachine, s, hs, rfl⟩ := hmove.work_inv
        refine h₁.of_machine fun s' page hpage hshown => hm.guards (hT s' page hpage) ?_
        rw [hmachine]
        refine h₁.pages s' page hpage ?_
        rwa [← hmachine, ← hm.mapping?]
    rcases hgoes with hgoes | ⟨panic, heq⟩
    · exact hgoes.drifts.tracks htracks
    · rw [heq]
      exact htracks

/-! ### System calls about pages -/

/-- What a page that is put leaves of guarded pages elsewhere. -/
lemma Tracks.puts {m : Machine} {e : Mapping} (h : k.Tracks L T v) (hk : k.Sound)
    (hput : k.machine.Puts s page e m) (hpage : ¬ T s page)
    (hperm : e.perm.contains .writable = true → ∀ s' page' e', T s' page' →
      k.machine.mapping? s' page' = some e' → e.frame ≠ e'.frame) :
    { k with machine := m }.Tracks L T v := by
  refine h.of_machine fun s' page' hother hshown => ?_
  have hne : ¬ (s = s' ∧ page = page') := by
    rintro ⟨rfl, rfl⟩
    exact hpage hother
  rw [hput.mapping, if_neg hne] at hshown
  exact (h.pages s' page' hother hshown).puts hk.accounted hput hne
    fun hwritable e' => hperm hwritable s' page' e' hother

/-- **A fresh page** is put with a frame that was not in use, or no page changes. -/
lemma pageAlloc_effect (hk : k.Sound) :
    (k.pageAlloc caller target va perm).1 = .ok () ∧ (∃ id s n m,
      k.resolve caller target true = .ok id ∧ k.spaceOf? id = some s ∧
      (k.machine.frames.allocated? n).isSome = false ∧
      k.machine.Puts s va.page ⟨n, perm ||| .present⟩ m ∧
      (k.pageAlloc caller target va perm).2 = { k with machine := m }) ∨
    (∃ e, (k.pageAlloc caller target va perm).1 = .error e) ∧
      k.Drifts (k.pageAlloc caller target va perm).2 := by
  rw [pageAlloc]
  split
  · exact .inr ⟨⟨_, rfl⟩, .refl k⟩
  · next s hs =>
    obtain ⟨-, -, id, hres, hs⟩ := allocSpace_ok_iff.1 hs
    rcases Machine.mapZeroed_cases hk.accounted s va perm with
      ⟨hok, n, hfresh, hput⟩ | ⟨⟨e, herror⟩, hmap, hcont⟩
    · refine .inl ⟨?_, id, s, n, _, hres, hs, hfresh, hput, rfl⟩
      dsimp only
      rw [hok]
      rfl
    · refine .inr ⟨⟨e.toKernelError, ?_⟩, fun s' page e he => ?_, fun s' hs' => ?_,
        fun s' page _ => hmap s' page, fun _ _ hs' => hs'⟩
      · dsimp only
        rw [herror]
        rfl
      · exact hcont e.frame (hk.accounted.isSome_of_mapping? ((hmap s' page).symm.trans he))
      · exact Machine.sameShape_mapZeroed.spaces s' ▸ hs'

/-- A fresh page leaves all watched pages alone but the one in whose place it comes. -/
lemma Tracks.pageAlloc (h : k.Tracks L T v) (hk : k.Sound)
    (hT : ∀ id s, k.resolve caller target true = .ok id → L id s → ¬ T s va.page) :
    (k.pageAlloc caller target va perm).2.Tracks L T v := by
  rcases pageAlloc_effect hk with ⟨-, id, s, n, m, hres, hs, hfresh, hput, heq⟩ | ⟨-, hdrifts⟩
  · rw [heq]
    refine h.puts hk hput (hT id s hres (h.lives id s hs)) fun _ s' page e' _ he' hframe => ?_
    obtain rfl : n = e'.frame := hframe
    rw [hk.accounted.isSome_of_mapping? he'] at hfresh
    cases hfresh
  · exact hdrifts.tracks h

/-- **A page that is shown elsewhere** is put with a frame that the source shows, and lets user code
write it only if the source does, or no page changes. -/
lemma pageMap_effect {src : ProcessId} {srcVa : VirtAddr} :
    (k.pageMap caller src srcVa target va perm).1 = .ok () ∧ (∃ owner dst s₁ s₂ e m,
      k.resolve caller src true = .ok owner ∧ k.resolve caller target true = .ok dst ∧
      k.spaceOf? owner = some s₁ ∧ k.spaceOf? dst = some s₂ ∧
      k.machine.mapping? s₁ srcVa.page = some e ∧
      (perm.contains .writable = true → e.perm.contains .writable = true) ∧
      k.machine.Puts s₂ va.page ⟨e.frame, perm ||| .present⟩ m ∧
      (k.pageMap caller src srcVa target va perm).2 = { k with machine := m }) ∨
    (∃ e, (k.pageMap caller src srcVa target va perm).1 = .error e) ∧
      k.Drifts (k.pageMap caller src srcVa target va perm).2 := by
  rw [pageMap]
  split
  · exact .inr ⟨⟨_, rfl⟩, .refl k⟩
  · next frame dst hargs =>
    obtain ⟨hsrc, -, -, owner, howner, hdst, hshare⟩ := mapArguments_ok_iff.1 hargs
    obtain ⟨s₁, e, hs₁, he, rfl, hperm⟩ :=
      (sharable_ok_iff (lt_userTop_of_isMappable hsrc)).1 hshare
    rw [holding]
    cases hkept : mapKept { k with machine := k.machine.retain e.frame } dst e.frame va perm with
    | error error =>
      refine .inr ⟨⟨_, rfl⟩, fun _ _ _ _ => ?_, fun _ hs => hs, fun _ _ _ => rfl,
        fun _ _ hs => hs⟩
      exact FramePool.contents?_release.trans FramePool.contents?_retain
    | ok k₁ =>
      obtain ⟨s₂, m, hs₂, hm, rfl⟩ := mapKept_ok hkept
      exact .inl ⟨rfl, owner, dst, s₁, s₂, e, _, howner, hdst, hs₁, hs₂, he, hperm,
        .of_mapKept hm, rfl⟩

/-- A page that is shown elsewhere leaves all watched pages alone but the one in whose place it
comes, and the one where it comes from if it may be written. -/
lemma Tracks.pageMap {src : ProcessId} {srcVa : VirtAddr} (h : k.Tracks L T v) (hk : k.Sound)
    (hT : ∀ id s, k.resolve caller target true = .ok id → L id s → ¬ T s va.page)
    (hsrc : perm.contains .writable = true → ∀ id s, k.resolve caller src true = .ok id → L id s →
      ¬ T s srcVa.page) :
    (k.pageMap caller src srcVa target va perm).2.Tracks L T v := by
  rcases pageMap_effect with
    ⟨-, owner, dst, s₁, s₂, e, m, howner, hdst, hs₁, hs₂, he, hperm, hput, heq⟩ | ⟨-, hdrifts⟩
  · rw [heq]
    refine h.puts hk hput (hT dst s₂ hdst (h.lives dst s₂ hs₂))
      fun hwritable s page e' hother he' hframe => ?_
    rw [Perm.contains_writable_present] at hwritable
    -- the source can be written, so it is the page that is watched
    obtain ⟨rfl, rfl⟩ := (h.pages s page hother (by rw [he']; rfl)).sole e' he' s₁ srcVa.page
      ⟨e, he, hframe, hperm hwritable⟩
    exact hsrc hwritable owner s₁ howner (h.lives owner s₁ hs₁) hother
  · exact hdrifts.tracks h

/-- A page that is taken away leaves all others alone. -/
lemma Tracks.unmap (h : k.Tracks L T v) (s : Nat) (va : VirtAddr) :
    { k with machine := k.machine.unmap s va }.Tracks L T v := by
  refine h.of_machine fun s' page hpage hshown => ?_
  rw [Machine.mapping?_unmap] at hshown
  split at hshown
  · cases hshown
  · next hne => exact (h.pages s' page hpage hshown).unmap hne

/-! ### Children -/

/-- **A child that is made** has the next address space. That shows nothing, and everything else
stays as it is. -/
lemma exofork_effect (hk : k.Sound) {answer : UInt32} (h : k.exofork caller = .ok (answer, k')) :
    k.live? ⟨answer⟩ = none ∧ (∀ other s, k'.spaceOf? other = some s →
      other = ⟨answer⟩ ∧ s = k.machine.spaces.nextId.toNat ∨ k.spaceOf? other = some s) ∧
      (∀ s page, k'.machine.mapping? s page =
        if k.machine.spaces.nextId.toNat = s then none else k.machine.mapping? s page) ∧
      ∀ n, k'.machine.frames.contents? n = k.machine.frames.contents? n := by
  obtain ⟨parent, child, k₁, -, hmade, rfl, rfl⟩ := exofork_cases h
  obtain ⟨hnone, hspaces, hmap, hcont⟩ := allocateAs_effect hk hmade
  obtain ⟨s, hlive⟩ := live?_of_allocateAs hk rfl hmade
  have hframe : k₁.Move (.edit child) (k₁.modify child fun p =>
      { p with frame := parent.frame.withResult 0 }) :=
    .edit_of_same hlive rfl rfl rfl rfl rfl rfl
  have hlog : (k₁.modify child fun p => { p with frame := parent.frame.withResult 0 }).Quiet _ :=
    quiet_log .debug s!"[{caller}] exofork -> {child}"
  have hdrifts := (hframe.drifts trivial).trans hlog.drifts
  refine ⟨hnone, fun other s hs => hspaces other s (hdrifts.living other s hs),
    fun s page => (hlog.mapping? s page).trans (hmap s page), fun n => ?_⟩
  rw [hlog.frames]
  exact hcont n

/-- A child that is made leaves all watched pages alone that are still there. -/
lemma Tracks.exofork (h : k.Tracks L T v) (hk : k.Sound) {answer : UInt32}
    (hfork : k.exofork caller = .ok (answer, k')) :
    k'.Tracks (fun id s => k'.spaceOf? id = some s) T v := by
  obtain ⟨-, -, hmap, hcont⟩ := exofork_effect hk hfork
  have hfewer : ∀ s page e, k'.machine.mapping? s page = some e →
      k.machine.mapping? s page = some e := fun s page e he => by
    rw [hmap] at he
    split at he
    · cases he
    · exact he
  refine ⟨fun _ _ hs => hs, fun s page hpage hshown => ?_⟩
  obtain ⟨e, he⟩ := Option.isSome_iff_exists.1 hshown
  have hbefore := hfewer s page e he
  exact (h.pages s page hpage (by rw [hbefore]; rfl)).of_fewer (he.trans hbefore.symm)
    (fun e' _ => hcont e'.frame) hfewer

/-! ### Memory accesses -/

/-- **A store** in an address space goes to the watched pages of that, and to no others. -/
lemma Tracks.userWrite (h : k.Tracks L T v) (hk : k.Sound) (s : Nat) (data : List UInt8) :
    { k with machine := (k.machine.userWrite s va data).2 }.Tracks L T
      (Function.update v s
        ((v s).store va.toNat (data.take (k.machine.userWritten s va data)))) := by
  refine h.of_machine fun s' page hother hshown => ?_
  have hguards := h.pages s' page hother hshown
  by_cases heq : s' = s
  · subst heq
    rw [Function.update_self]
    exact hguards.userWrite hk.accounted data
  · rw [Function.update_of_ne heq]
    exact hguards.userWrite_of_ne hk.accounted (Ne.symm heq) data

/-- **A load** from a watched page gives the bytes of its memory. -/
lemma Tracks.userRead (h : k.Tracks L T v) (hk : k.Sound) {len : Nat}
    {absent : UInt8} {bytes : List UInt8} (hread : k.machine.userRead s va len absent = .ok bytes) :
    bytes.length = len ∧ ∀ i < len, va.toNat + i < userTop →
      T s ((va.toNat + i) / pageSize) → bytes[i]? = v s (va.toNat + i) := by
  obtain ⟨hlen, hbytes⟩ := Machine.userRead_getElem? hk.accounted hread
  refine ⟨hlen, fun i hi hlt hpage => ?_⟩
  have hbyte := hbytes i hi hlt
  have hplace : (va.toNat + i) / pageSize * pageSize + (va.toNat + i) % pageSize = va.toNat + i :=
    Nat.div_add_mod' ..
  cases he : k.machine.mapping? s ((va.toNat + i) / pageSize) with
  | none =>
    -- what is read is there
    rw [Machine.byte?, he, Option.bind_none, List.getElem?_eq_getElem (hlen ▸ hi)] at hbyte
    cases hbyte
  | some e =>
    have hguards := (h.pages s _ hpage (by rw [he]; rfl)).bytes ((va.toNat + i) % pageSize)
      (Nat.mod_lt _ (by decide))
    rw [hplace] at hguards
    exact hbyte.trans hguards

end Exokernel.Kernel
