/-
What the handler of copy-on-write faults does to memory.

A copy of the page is prepared at the scratch page, takes the place of the page, and then the
scratch page is given up. While the copy can be written through both pages, the page is not guarded.

* `Memory.moved`, `Machine.Twins`: the copy before it takes its place, and while it is in both;
* `Kernel.Watchable`: pages that the handler may be trusted with;
* `UserContext.Runs`: a process that runs, with the requests that it makes;
* `Runs.mend`: **a fault that is mended** leaves every watched page as it is. If the handler fails,
  the pages of all other address spaces are as they were.
-/
import Exokernel.Proofs.Bench.Requests

namespace Exokernel

open Layout

/-- The number of the scratch page. -/
abbrev scratchNumber : Nat := scratchPage / pageSize

/-- A memory that has at page `page'` what `v` has at page `page`. -/
def Memory.moved (v : Memory) (page page' : Nat) : Memory :=
  fun a => v (page * pageSize + (a - page' * pageSize))

lemma Memory.moved_place (v : Memory) (page page' i : Nat) :
    v.moved page page' (page' * pageSize + i) = v (page * pageSize + i) := by
  rw [moved, Nat.add_sub_cancel_left]

/-- A store within one page leaves every other page alone. -/
lemma Memory.store_of_ne (v : Memory) {page page' i : Nat} {data : List UInt8} (hne : page' ≠ page)
    (hlen : data.length ≤ pageSize) (hi : i < pageSize) :
    v.store (page * pageSize) data (page' * pageSize + i) = v (page' * pageSize + i) := by
  have hps : pageSize = 4096 := rfl
  rw [store, if_neg]
  simp only [hps] at hlen hi ⊢
  omega

/-- A store of a whole page leaves its bytes there. -/
lemma Memory.store_page {v : Memory} {page i : Nat} {data : List UInt8}
    (hlen : data.length = pageSize) (hi : i < pageSize)
    (hv : (v (page * pageSize + i)).isSome) :
    v.store (page * pageSize) data (page * pageSize + i) = data[i]? := by
  obtain ⟨b, hb⟩ := Option.isSome_iff_exists.1 hv
  rw [store, if_pos ⟨Nat.le_add_right _ _, by omega⟩, hb, Option.bind_some,
    Nat.add_sub_cancel_left]

namespace Machine

variable {m : Machine} {s s' page twin : Nat} {v : Memory} {e : Mapping} {va : VirtAddr}

/-- **A page that holds the bytes of a memory**, and whose frame can be written through another page
of its address space as well. -/
structure Twins (m : Machine) (s page twin : Nat) (v : Memory) : Prop where
  bytes : ∀ i < pageSize, m.byte? s (page * pageSize + i) = v (page * pageSize + i)
  sole : ∀ e, m.mapping? s page = some e → ∀ s' page', m.Writes e.frame s' page' →
    s' = s ∧ (page' = page ∨ page' = twin)

/-- A page that comes to show the frame of a guarded page, and its bytes. -/
lemma Guards.twins {m' : Machine} {e' : Mapping} {kept loose : List Nat}
    (h : m.Guards s twin (v.moved page twin)) (hacc : m.Accounted kept loose)
    (he : m.mapping? s twin = some e) (hput : m.Puts s page e' m')
    (hframe : e'.frame = e.frame) : m'.Twins s page twin v := by
  have hself : m'.mapping? s page = some e' := (hput.mapping s page).trans (if_pos ⟨rfl, rfl⟩)
  refine ⟨fun i hi => ?_, fun e₂ he₂ s' page' hw => ?_⟩
  · rw [byte?_of_mapping? hself hi, hframe, ← Memory.moved_place v page twin, ← h.bytes i hi,
      byte?_of_mapping? he hi]
    exact FramePool.byte?_eq_of_contents? (hput.contents _ (hacc.isSome_of_mapping? he)) i
  · rw [hself] at he₂
    cases he₂
    rw [hframe] at hw
    rcases hput.writes hw with hw | ⟨⟨rfl, rfl⟩, -⟩
    · obtain ⟨rfl, rfl⟩ := h.sole e he s' page' hw
      exact ⟨rfl, .inr rfl⟩
    · exact ⟨rfl, .inl rfl⟩

/-- Without its twin, the page is guarded. -/
lemma Twins.unmap (h : m.Twins s page va.page v) (hne : page ≠ va.page) :
    (m.unmap s va).Guards s page v := by
  have hmap : ∀ s' page', (m.unmap s va).mapping? s' page' =
      if s = s' ∧ va.page = page' then none else m.mapping? s' page' :=
    fun s' page' => mapping?_unmap s' page'
  have hself : (m.unmap s va).mapping? s page = m.mapping? s page :=
    (hmap s page).trans (if_neg fun h => hne h.2.symm)
  refine ⟨fun i hi => ?_, fun e he s' page' ⟨e', he', hw⟩ => ?_⟩
  · rw [← h.bytes i hi]
    cases he : m.mapping? s page with
    | none => rw [byte?_of_none he hi, byte?_of_none (hself.trans he) hi]
    | some e =>
      rw [byte?_of_mapping? he hi, byte?_of_mapping? (hself.trans he) hi]
      exact FramePool.byte?_eq_of_contents? (contents?_unmap _) i
  · rw [hself] at he
    rw [hmap] at he'
    split at he'
    · cases he'
    · next hnot =>
      obtain ⟨rfl, hpage⟩ := h.sole e he s' page' ⟨e', he', hw⟩
      exact ⟨rfl, hpage.resolve_right fun heq => hnot ⟨rfl, heq.symm⟩⟩

end Machine

namespace Kernel

variable {k k' : Kernel} {id : ProcessId} {s page twin n : Nat} {v : Nat → Memory}
  {w : Memory} {perm : Perm} {L : ProcessId → Nat → Prop} {T : Nat → Nat → Prop}

lemma Drifts.writes (hd : k.Drifts k') {s' page' : Nat} (h : k'.machine.Writes n s' page') :
    k.machine.Writes n s' page' := by
  obtain ⟨e, he, hrest⟩ := h
  exact ⟨e, hd.fewer s' page' e he, hrest⟩

/-- The bytes of a page that is still shown. -/
lemma Drifts.byte? (hd : k.Drifts k') {e : Mapping} (he : k'.machine.mapping? s page = some e)
    {i : Nat} (hi : i < pageSize) :
    k'.machine.byte? s (page * pageSize + i) = k.machine.byte? s (page * pageSize + i) := by
  rw [Machine.byte?_of_mapping? he hi, Machine.byte?_of_mapping? (hd.fewer s page e he) hi]
  exact FramePool.byte?_eq_of_contents? (hd.contents s page e he) _

lemma Drifts.twins (hd : k.Drifts k')
    (h : (k.machine.mapping? s page).isSome → k.machine.Twins s page twin w)
    (hshown : (k'.machine.mapping? s page).isSome) : k'.machine.Twins s page twin w := by
  obtain ⟨e, he⟩ := Option.isSome_iff_exists.1 hshown
  have hbefore := hd.fewer s page e he
  have htwins := h (by rw [hbefore]; rfl)
  refine ⟨fun i hi => (hd.byte? he hi).trans (htwins.bytes i hi), fun e' he' s' page' hw => ?_⟩
  exact htwins.sole e' (hd.fewer s page e' he') s' page' (hd.writes hw)

/-- A page that shows, if anything, a frame which cannot be written elsewhere. -/
def Sole (k : Kernel) (s page : Nat) : Prop :=
  ∀ e, k.machine.mapping? s page = some e → ∀ s' page', k.machine.Writes e.frame s' page' →
    s' = s ∧ page' = page

lemma Drifts.sole (hd : k.Drifts k') (h : k.Sole s page) : k'.Sole s page :=
  fun e he s' page' hw => h e (hd.fewer s page e he) s' page' (hd.writes hw)

/-- A frame that was not in use cannot be written elsewhere. -/
lemma sole_of_puts {m : Machine} (hput : k.machine.Puts s page ⟨n, perm⟩ m) (hk : k.Sound)
    (hfresh : (k.machine.frames.allocated? n).isSome = false) :
    { k with machine := m }.Sole s page := by
  intro e he s' page' hw
  have hself := (hput.mapping s page).trans (if_pos ⟨rfl, rfl⟩)
  obtain rfl : ⟨n, perm⟩ = e := Option.some.inj (hself.symm.trans he)
  rcases hput.writes hw with ⟨e', he', hframe, -⟩ | ⟨⟨rfl, rfl⟩, -⟩
  · have hin := hk.accounted.isSome_of_mapping? he'
    rw [hframe, hfresh] at hin
    cases hin
  · exact ⟨rfl, rfl⟩

/-- **Pages that the handler may be trusted with**: what user code owns, without the exception
stacks. -/
structure Watchable (T : Nat → Nat → Prop) : Prop where
  below : ∀ s page, T s page → page * pageSize < userTop
  apart : ∀ s page, T s page → page ≠ exceptionPage

/-- The watched pages without the scratch page of an address space. -/
def offScratch (T : Nat → Nat → Prop) (s x page : Nat) : Prop :=
  T x page ∧ ¬ (x = s ∧ page = scratchNumber)

/-- The watched pages without the scratch page and one other page of an address space. -/
def offPage (T : Nat → Nat → Prop) (s page x q : Nat) : Prop :=
  offScratch T s x q ∧ ¬ (x = s ∧ q = page)

lemma toNat_scratchPage : (VirtAddr.ofNat scratchPage).toNat = scratchNumber * pageSize := by
  decide

/-- A store into the scratch page leaves the other watched pages alone. -/
lemma Tracks.storeScratch (h : k.Tracks L (offScratch T s) v) (hk : k.Sound) {bytes : List UInt8}
    (hlen : bytes.length = pageSize) :
    { k with machine := (k.machine.userWrite s (.ofNat scratchPage) bytes).2 }.Tracks L
      (offScratch T s) v := by
  refine (h.userWrite hk s bytes).mono (fun _ _ hx => hx) fun x page hx i hi => ?_
  by_cases hid : x = s
  · subst hid
    rw [Function.update_self, toNat_scratchPage,
      Memory.store_of_ne _ (fun heq => hx.2 ⟨rfl, heq⟩) _ hi]
    rw [List.length_take, hlen]
    exact Nat.min_le_right _ _
  · rw [Function.update_of_ne hid]

/-- **A store that fills the scratch page** leaves its bytes there, if the frame is shown nowhere
else for writing. -/
lemma Sole.storeScratch (h : k.Sole s scratchNumber) (hk : k.Sound) {bytes : List UInt8}
    (hlen : bytes.length = pageSize)
    (hdone : (k.machine.userWrite s (.ofNat scratchPage) bytes).1 = .ok ())
    (hw : ∀ i < pageSize, bytes[i]? = w (scratchNumber * pageSize + i)) {e : Mapping}
    (he : k.machine.mapping? s scratchNumber = some e) :
    (k.machine.userWrite s (.ofNat scratchPage) bytes).2.Guards s scratchNumber w := by
  have hguards : k.machine.Guards s scratchNumber (k.machine.byte? s) := ⟨fun _ _ => rfl, h⟩
  have hstored : (k.machine.userWrite s (.ofNat scratchPage) bytes).2.Guards s scratchNumber _ :=
    hguards.userWrite hk.accounted bytes
  rw [Machine.userWritten_of_ok hdone, List.take_length] at hstored
  refine hstored.congr fun i hi => ?_
  obtain ⟨b, hb⟩ := FramePool.exists_byte? (hk.accounted.isSome_of_mapping? he) hi
  have hsome : (k.machine.byte? s (scratchNumber * pageSize + i)).isSome := by
    rw [Machine.byte?_of_mapping? he hi, hb]
    rfl
  rw [toNat_scratchPage, Memory.store_page hlen hi hsome, hw i hi]

end Kernel

namespace UserContext

open Bench Kernel Program

variable {config : Config} {frames cpu s : Nat} {id : ProcessId} {u u' : UserContext}
  {c : Syscall} {va : VirtAddr} {L : ProcessId → Nat → Prop} {T : Nat → Nat → Prop}
  {v : Nat → Memory}
  {result : Except LibError Unit}

/-- A process that runs on a processor of a bench in a reachable state. -/
structure Runs (config : Config) (frames cpu : Nat) (id : ProcessId) (u : UserContext) : Prop where
  reachable : u.bed.Reachable config frames
  cpu_eq : u.cpu = cpu
  process_eq : u.process = id
  awake : ∃ f, u.bed.Awake cpu id f

namespace Runs

lemma sound (h : u.Runs config frames cpu id) : u.bed.kernel.Sound := h.reachable.sound

/-- A request that leaves the process table alone is answered, and the process runs on. -/
lemma request (h : u.Runs config frames cpu id) (hc : Syscall.decode c.encode = .ok c)
    (htable : LeavesTable cpu id c) (hexec : (Program.request c).exec u = (result, u')) :
    u'.Runs config frames cpu id ∧ ∃ k₁ answered k₂,
      u.bed.kernel.Carried cpu id c k₁ answered k₂ u'.bed.kernel ∧
      (result = .ok () → ∃ v, answered = .ok v) := by
  obtain ⟨hreach, rfl, rfl, f, hawake⟩ := h
  obtain ⟨k₁, answered, k₂, f', hcarried, hok, hcpu, hprocess, hawake'⟩ :=
    request_awake hreach.sound hawake hc htable hexec
  have hreach' : u'.bed.Reachable config frames := by
    have huser := hreach.userTrap c
    have htrap : (u.trap c).2 = u' := by
      have hsnd := congrArg Prod.snd hexec
      rw [exec_request] at hsnd
      split at hsnd <;> exact hsnd
    rwa [htrap] at huser
  exact ⟨⟨hreach', hcpu, hprocess, f', hawake'⟩, k₁, answered, k₂, hcarried, hok⟩

/-- A fresh scratch page. -/
lemma allocScratch (h : u.Runs config frames cpu id) (hL : ∀ s', L id s' → s' = s)
    (htracks : u.bed.kernel.Tracks L T v)
    (hexec : (pageAlloc .self (.ofNat scratchPage) .userWrite : Program UserContext Unit).exec u =
      (result, u')) :
    u'.Runs config frames cpu id ∧ u'.bed.kernel.Tracks L (offScratch T s) v ∧
      (result = .ok () → u'.bed.kernel.Sole s scratchNumber) := by
  obtain ⟨hruns, k₁, answered, k₂, hcarried, hok⟩ := h.request rfl pageAlloc_leavesTable hexec
  have hoff : u.bed.kernel.Tracks L (offScratch T s) v :=
    htracks.mono (fun _ _ hT => hT.1) fun _ _ _ _ _ => rfl
  refine ⟨hruns, hcarried.tracks (fun h₁ => h₁.executed_pageAlloc hcarried.sound
    hcarried.executed fun s' hs' hT => hT.2 ⟨hL s' hs', rfl⟩) hoff, fun hres => ?_⟩
  obtain ⟨w, rfl⟩ := hok hres
  obtain ⟨n, hfresh, s₁, m, hs₁, hput, rfl⟩ := executed_pageAlloc hcarried.sound hcarried.executed
  obtain rfl : s₁ = s := hL s₁ ((hcarried.before.tracks htracks).lives id s₁ hs₁)
  exact hcarried.after.sole (sole_of_puts hput hcarried.sound hfresh)

/-- A copy of a page at the scratch page. -/
lemma copyToScratch (h : u.Runs config frames cpu id) (hL : ∀ s', L id s' → s' = s)
    (hT : Watchable T) (htracks : u.bed.kernel.Tracks L (offScratch T s) v)
    (hsole : u.bed.kernel.Sole s scratchNumber) (hva : va.toNat = va.page * pageSize)
    (hexec : (Program.copyPage (.ofNat scratchPage) va : Program UserContext Unit).exec u =
      (result, u')) :
    u'.Runs config frames cpu id ∧ u'.bed.kernel.Tracks L (offScratch T s) v ∧
      (result = .ok () → u'.bed.kernel.Tracks L
        (fun x page => x = s ∧ page = scratchNumber ∧ offScratch T s s va.page)
        fun _ => (v s).moved va.page scratchNumber) := by
  have hreach' : u'.bed.Reachable config frames := by
    have hcopy := h.reachable.copyPage (.ofNat scratchPage) va
    have hsame : (u.copyPage (.ofNat scratchPage) va).2 = u' := congrArg Prod.snd hexec
    rwa [hsame] at hcopy
  have hk := h.sound
  obtain ⟨hreach, rfl, rfl, f, hawake⟩ := h
  change u.copyPage (.ofNat scratchPage) va = (result, u') at hexec
  rw [UserContext.copyPage, space?] at hexec
  split at hexec
  · cases hexec
    exact ⟨⟨hreach, rfl, rfl, f, hawake⟩, htracks, by rintro ⟨⟩⟩
  · next s' hs' =>
    obtain rfl : s' = s := hL s' (htracks.lives _ s' hs')
    split at hexec
    · cases hexec
      exact ⟨⟨hreach, rfl, rfl, f, hawake⟩, htracks, by rintro ⟨⟩⟩
    · next bytes hread =>
      obtain ⟨hlen, hbytes⟩ := htracks.userRead hk hread
      -- the store is all that happens, whether it succeeds or not
      have hstored := htracks.storeScratch hk hlen
      have hruns : ∀ m : Machine, Awake { u.bed with kernel := { u.bed.kernel with machine := m } }
          u.cpu u.process f := fun m => ⟨hawake.occupant, hawake.runs, hawake.user⟩
      split at hexec
      · next fault m hwrite =>
        cases hexec
        rw [hwrite] at hstored
        exact ⟨⟨hreach', rfl, rfl, f, hruns m⟩, hstored, by rintro ⟨⟩⟩
      · next m hwrite =>
        cases hexec
        rw [hwrite] at hstored
        refine ⟨⟨hreach', rfl, rfl, f, hruns m⟩, hstored, fun _ => ⟨hstored.lives, ?_⟩⟩
        rintro x page ⟨rfl, rfl, hoff⟩ hshown
        obtain ⟨e, he⟩ := Option.isSome_iff_exists.1 hshown
        have hsame : (u.bed.kernel.machine.userWrite x (.ofNat scratchPage) bytes).2 = m :=
          congrArg Prod.snd hwrite
        have hcopied := hsole.storeScratch hk hlen (congrArg Prod.fst hwrite)
          (w := (v x).moved va.page scratchNumber) (fun i hi => by
            have hread := hbytes i hi
            rw [hva, page_place hi] at hread
            rw [hread (place_lt_userTop (hT.below _ _ hoff.1) hi) hoff, Memory.moved_place])
          (show u.bed.kernel.machine.mapping? x scratchNumber = some e by rw [← he, ← hsame]; rfl)
        rwa [hsame] at hcopied

/-- The copy takes the place of the page. -/
lemma mapScratch (h : u.Runs config frames cpu id) (hL : ∀ s', L id s' → s' = s)
    (htracks : u.bed.kernel.Tracks L (offScratch T s) v)
    (hcopy : u.bed.kernel.Tracks L
      (fun x page => x = s ∧ page = scratchNumber ∧ offScratch T s s va.page)
      fun _ => (v s).moved va.page scratchNumber)
    (hexec : (pageMap .self (.ofNat scratchPage) .self va .userWrite :
      Program UserContext Unit).exec u = (result, u')) :
    u'.Runs config frames cpu id ∧ u'.bed.kernel.Tracks L (offPage T s va.page) v ∧
      (result = .ok () → offScratch T s s va.page →
        (u'.bed.kernel.machine.mapping? s va.page).isSome →
        u'.bed.kernel.machine.Twins s va.page scratchNumber (v s)) := by
  obtain ⟨hruns, k₁, answered, k₂, hcarried, hok⟩ := h.request rfl pageMap_leavesTable hexec
  have hoff : u.bed.kernel.Tracks L (offPage T s va.page) v :=
    htracks.mono (fun _ _ hT => hT.1) fun _ _ _ _ _ => rfl
  refine ⟨hruns, hcarried.tracks (fun h₁ => h₁.executed_pageMap hcarried.sound hcarried.executed
    (fun s' hs' hT => hT.2 ⟨hL s' hs', rfl⟩) fun _ s' hs' hT => hT.1.2 ⟨hL s' hs', rfl⟩) hoff,
    fun hres hoff hshown => hcarried.after.twins (fun _ => ?_) hshown⟩
  obtain ⟨w, rfl⟩ := hok hres
  obtain ⟨s₁, e, hs₁, he, s₂, m, hs₂, hput, rfl⟩ := executed_pageMap hcarried.executed
  have hcopy₁ := hcarried.before.tracks hcopy
  obtain rfl : s₁ = s := hL s₁ (hcopy₁.lives id s₁ hs₁)
  obtain rfl : s₂ = s₁ := hL s₂ (hcopy₁.lives id s₂ hs₂)
  have hguards := hcopy₁.pages s₂ scratchNumber ⟨rfl, rfl, hoff⟩ (Option.isSome_of_eq_some he)
  exact hguards.twins hcarried.sound.accounted he hput rfl

/-- **The scratch page is given up**, and the page is guarded again. -/
lemma unmapScratch (h : u.Runs config frames cpu id) (hL : ∀ s', L id s' → s' = s)
    (htracks : u.bed.kernel.Tracks L (offPage T s va.page) v)
    (htwins : offScratch T s s va.page → (u.bed.kernel.machine.mapping? s va.page).isSome →
      u.bed.kernel.machine.Twins s va.page scratchNumber (v s))
    (hexec : (pageUnmap .self (.ofNat scratchPage) : Program UserContext Unit).exec u =
      (result, u')) :
    u'.Runs config frames cpu id ∧ u'.bed.kernel.Tracks L (offPage T s va.page) v ∧
      (result = .ok () → u'.bed.kernel.Tracks L T v) := by
  obtain ⟨hruns, k₁, answered, k₂, hcarried, hok⟩ := h.request rfl pageUnmap_leavesTable hexec
  have htracks₁ := hcarried.before.tracks htracks
  have hothers := htracks₁.executed_pageUnmap hcarried.executed
  refine ⟨hruns, hcarried.after.tracks hothers, fun hres => hcarried.after.tracks ?_⟩
  obtain ⟨w, rfl⟩ := hok hres
  obtain ⟨s₁, hs₁, rfl⟩ := executed_pageUnmap hcarried.executed
  obtain rfl : s₁ = s := hL s₁ (htracks₁.lives id s₁ hs₁)
  refine ⟨htracks₁.lives, fun x page hpage hshown => ?_⟩
  by_cases hx : x = s₁
  · subst hx
    have hmap : (k₁.machine.unmap x (.ofNat scratchPage)).mapping? x page =
        if x = x ∧ scratchNumber = page then none else k₁.machine.mapping? x page :=
      Machine.mapping?_unmap x page
    have hscratch : page ≠ scratchNumber := by
      rintro rfl
      rw [show Machine.mapping? _ x scratchNumber = _ from hmap, if_pos ⟨rfl, rfl⟩] at hshown
      cases hshown
    have hoff : offScratch T x x page := ⟨hpage, fun h => hscratch h.2⟩
    by_cases heq : page = va.page
    · subst heq
      refine (hcarried.before.twins (htwins hoff) ?_).unmap hscratch
      rwa [show Machine.mapping? _ x va.page = _ from hmap,
        if_neg fun h => hscratch h.2.symm] at hshown
    · exact hothers.pages x page ⟨hoff, fun h => heq h.2⟩ hshown
  · exact hothers.pages x page ⟨⟨hpage, fun h => hx h.1⟩, fun h => hx h.1⟩ hshown

/-- **The handler of copy-on-write faults** leaves every watched page as it is if it mends the
fault, and the pages of all other address spaces if it does not. -/
lemma mend (h : u.Runs config frames cpu id) (hL : ∀ s', L id s' → s' = s) (hT : Watchable T)
    (htracks : u.bed.kernel.Tracks L T v) {fault : FaultFrame}
    (hexec : (mendCopyOnWrite fault).exec u = (result, u')) :
    u'.Runs config frames cpu id ∧
      u'.bed.kernel.Tracks L (fun x page => x ≠ s ∧ T x page) v ∧
      (result = .ok () → u'.bed.kernel.Tracks L T v) := by
  have hva : (VirtAddr.mk fault.faultVa).pageBase.toNat =
      (VirtAddr.mk fault.faultVa).pageBase.page * pageSize := by
    rw [VirtAddr.page_pageBase, VirtAddr.toNat_pageBase]
  rw [mendCopyOnWrite, exec_bind, exec_perm?] at hexec
  dsimp only at hexec
  have hothers : ∀ {w : UserContext} {T' : Nat → Nat → Prop},
      w.bed.kernel.Tracks L T' v → (∀ x page, x ≠ s → T x page → T' x page) →
      w.bed.kernel.Tracks L (fun x page => x ≠ s ∧ T x page) v :=
    fun hw hT' => hw.mono (fun x page hx => hT' x page hx.1 hx.2) fun _ _ _ _ _ => rfl
  have hscratch : ∀ {w : UserContext}, w.bed.kernel.Tracks L (offScratch T s) v →
      w.bed.kernel.Tracks L (fun x page => x ≠ s ∧ T x page) v :=
    fun hw => hothers hw fun _ _ hne hx => ⟨hx, fun h => hne h.1⟩
  have hpage : ∀ {w : UserContext} {page : Nat}, w.bed.kernel.Tracks L (offPage T s page) v →
      w.bed.kernel.Tracks L (fun x page => x ≠ s ∧ T x page) v :=
    fun hw => hothers hw fun _ _ hne hx => ⟨⟨hx, fun h => hne h.1⟩, fun h => hne h.1⟩
  split at hexec
  · cases hexec
    exact ⟨h, hothers htracks fun _ _ _ hx => hx, nofun⟩
  -- what the handler leaves behind when it fails depends on how far it gets
  obtain ⟨_, u₁, hstep, hrest⟩ := exec_bind_cases hexec
  obtain ⟨h₁, htracks₁, hsole⟩ := h.allocScratch hL htracks hstep
  obtain ⟨e, -, rfl, rfl⟩ | ⟨_, rfl, hexec⟩ := hrest
  · exact ⟨h₁, hscratch htracks₁, nofun⟩
  obtain ⟨_, u₂, hstep, hrest⟩ := exec_bind_cases hexec
  obtain ⟨h₂, htracks₂, hcopy⟩ := h₁.copyToScratch hL hT htracks₁ (hsole rfl) hva hstep
  obtain ⟨e, -, rfl, rfl⟩ | ⟨_, rfl, hexec⟩ := hrest
  · exact ⟨h₂, hscratch htracks₂, nofun⟩
  obtain ⟨_, u₃, hstep, hrest⟩ := exec_bind_cases hexec
  obtain ⟨h₃, htracks₃, htwins⟩ := h₂.mapScratch hL htracks₂ (hcopy rfl) hstep
  obtain ⟨e, -, rfl, rfl⟩ | ⟨_, rfl, hexec⟩ := hrest
  · exact ⟨h₃, hpage htracks₃, nofun⟩
  obtain ⟨h₄, htracks₄, hdone⟩ := h₃.unmapScratch hL htracks₃ (htwins rfl) hexec
  exact ⟨h₄, hpage htracks₄, hdone⟩

end Runs

end UserContext

end Exokernel
