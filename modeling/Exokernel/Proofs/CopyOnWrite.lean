/-
What parent and child of a fork see of each other's stores: nothing.

* `Event`, `Bench.Acts`, `Bench.Plays`: runs of user code on the bench, and what came of its
  accesses;
* `Event.Leaves`, `Event.explains`: what a run lets a process see, if its memory is its own;
* `Event.Changes`, `Bench.Acts.tracks`: what one step of a run does to the memory in all address
  spaces;
* `Bench.Plays.explains`: a whole run, for a process that has its address space to itself.
  `explains_blank` and `explains_gone` are for those who have no memory;
* `UserContext.memory`, `UserContext.Private`, `UserContext.Lone`: the memory of a process, its
  pages that are not shared, and pages that nobody else can write;
* `Kernel.Together`: two processes that live in one address space, as may be once a number of an
  address space has come back;
* `fork_isolates`: **after a fork** parent and child each start with the memory of the parent, and
  each sees its own stores and nobody else's. `fork_isolates_early` lets everybody act.
-/
import Exokernel.Proofs.Bench.Accesses
import Exokernel.Proofs.Bench.Forking

namespace Exokernel

open Layout Kernel

/-- What user code does in a run, who does it, and what comes of it. -/
inductive Event where
  | load (id : ProcessId) (va : VirtAddr) (len : Nat)
      (result : Except AccessError (List UInt8))
  | store (id : ProcessId) (va : VirtAddr) (data : List UInt8)
      (result : Except AccessError Unit)
  /-- A process gives up its processor, or a timer fires. -/
  | pause

namespace Event

/-- Who accesses memory. -/
def actor? : Event → Option ProcessId
  | .load id _ _ _ | .store id _ _ _ => some id
  | .pause => none

/-- What an event makes of the memory of process `id`, and lets it see on its `own` pages. A store
that fails may have got some way. -/
def Leaves (id : ProcessId) (own : Nat → Prop) (v : Memory) : Event → Memory → Prop
  | .load x va len result, v' => v' = v ∧ (x = id → ∀ bytes, result = .ok bytes →
      bytes.length = len ∧ ∀ i < len, own ((va.toNat + i) / pageSize) →
        bytes[i]? = v (va.toNat + i))
  | .store x va data result, v' => (x ≠ id → v' = v) ∧ (x = id → ∃ n ≤ data.length,
      (result = .ok () → n = data.length) ∧ v' = v.store va.toNat (data.take n))
  | .pause, v' => v' = v

/-- **What process `id` sees** in a run, if it has memory `v` at first and only its own stores
change that. -/
def explains (id : ProcessId) (own : Nat → Prop) (v : Memory) : List Event → Prop
  | [] => True
  | e :: es => ∃ v', e.Leaves id own v v' ∧ explains id own v' es

variable {id : ProcessId} {own : Nat → Prop} {v' : Memory} {e : Event}

/-- What others do leaves a process its memory. -/
lemma Leaves.of_bystander (h : e.actor? ≠ some id) (w : Memory) : e.Leaves id own w w := by
  cases e with
  | load x va len result => exact ⟨rfl, fun hid => absurd (congrArg some hid) h⟩
  | store x va data result => exact ⟨fun _ => rfl, fun hid => absurd (congrArg some hid) h⟩
  | pause => rfl

/-- Who has no memory, can take it for any other. -/
lemma Leaves.of_blank (h : e.Leaves id own (fun _ => none) v') (w : Memory) :
    ∃ w', e.Leaves id own w w' := by
  cases e with
  | load x va len result =>
    refine ⟨w, rfl, fun hid bytes hok => ?_⟩
    obtain ⟨hlen, hbytes⟩ := h.2 hid bytes hok
    refine ⟨hlen, fun i hi hpage => ?_⟩
    -- a byte that is read is there
    have hnone := hbytes i hi hpage
    rw [List.getElem?_eq_getElem (hlen ▸ hi)] at hnone
    cases hnone
  | store x va data result =>
    by_cases hid : x = id
    · obtain ⟨n, hn, hdone, -⟩ := h.2 hid
      exact ⟨_, fun hne => absurd hid hne, fun _ => ⟨n, hn, hdone, rfl⟩⟩
    · exact ⟨w, fun _ => rfl, fun heq => absurd heq hid⟩
  | pause => exact ⟨w, rfl⟩

/-- **What an event changes** in memories that belong to address spaces: nothing, but in that of the
process that acts. `L` tells who lives in which address space, and on which of its pages memory is
known is told by `T`. -/
structure Changes (L : ProcessId → Nat → Prop) (T : Nat → Nat → Prop) (v v' : Nat → Memory)
    (e : Event) : Prop where
  blank : ∀ s, v s = (fun _ => none) → v' s = fun _ => none
  kept : ∀ s, (∀ x, e.actor? = some x → ¬ L x s) → v' s = v s
  acts : ∀ x s, e.actor? = some x → L x s → e.Leaves x (T s) (v s) (v' s)
  gone : ∀ x, e.actor? = some x → (∀ s, ¬ L x s) → ∀ own w, e.Leaves x own w w

variable {L : ProcessId → Nat → Prop} {T : Nat → Nat → Prop} {v : Nat → Memory}

lemma Changes.pause : Event.pause.Changes L T v v :=
  ⟨fun _ hnone => hnone, fun _ _ => rfl, nofun, nofun⟩

/-- Who lives nowhere, changes nothing. -/
lemma Changes.refused (hnot : ¬ ∃ s, L id s) (hid : e.actor? = some id)
    (hleaves : ∀ own w, e.Leaves id own w w) : e.Changes L T v v := by
  refine ⟨fun _ hnone => hnone, fun _ _ => rfl, fun x s hx hs => ?_, fun x hx _ => ?_⟩
  · rw [hid] at hx
    cases hx
    exact absurd ⟨s, hs⟩ hnot
  · rw [hid] at hx
    cases hx
    exact hleaves

end Event

namespace Bench

variable {t t' : Bench} {e : Event} {es : List Event} {config : Config} {frames : Nat}
  {L : ProcessId → Nat → Prop} {T : Nat → Nat → Prop} {v : Nat → Memory}

/-- One step of a run: a process that runs on some processor loads, stores or gives up the
processor, or a timer fires. -/
inductive Acts (t : Bench) : Event → Bench → Prop where
  | load {t' : Bench} {cpu : Nat} {id : ProcessId} {va : VirtAddr} {len : Nat}
      {result : Except AccessError (List UInt8)} (hid : t.current? cpu = some id)
      (h : t.load cpu va len = (result, t')) : Acts t (.load id va len result) t'
  | store {t' : Bench} {cpu : Nat} {id : ProcessId} {va : VirtAddr} {data : List UInt8}
      {result : Except AccessError Unit} (hid : t.current? cpu = some id)
      (h : t.store cpu va data = (result, t')) : Acts t (.store id va data result) t'
  | yield (cpu : Nat) : Acts t .pause (t.call cpu .yield).2
  | tick (cpu : Nat) : Acts t .pause (t.timer cpu).2

/-- A run, with its events in their order. -/
inductive Plays : Bench → List Event → Bench → Prop where
  | done (t : Bench) : Plays t [] t
  | step {t t₁ t' : Bench} {e : Event} {es : List Event} (h : t.Acts e t₁)
      (hrest : Plays t₁ es t') : Plays t (e :: es) t'

/-- **One step** leaves watched pages to the processes that live in their address spaces. -/
lemma Acts.tracks (h : t.Acts e t') (hreach : t.Reachable config frames)
    (hL : ∀ id s s', L id s → L id s' → s' = s) (hT : Watchable T)
    (htracks : t.kernel.Tracks L T v) :
    t'.Reachable config frames ∧ ∃ v', t'.kernel.Tracks L T v' ∧ e.Changes L T v v' := by
  cases h with
  | load hid h =>
    obtain ⟨o, ho, rfl⟩ := Option.map_eq_some_iff.1 hid
    by_cases hlives : ∃ s, L o.id s
    · obtain ⟨s, hs⟩ := hlives
      obtain ⟨hreach', htracks', hbytes⟩ :=
        load_tracks hreach (fun s' => hL o.id s s' hs) hT htracks ho h
      refine ⟨hreach', v, htracks', fun _ hnone => hnone, fun _ _ => rfl, fun x s' hx hs' => ?_,
        fun x hx hnone => ?_⟩
      · cases hx
        obtain rfl := hL o.id s s' hs hs'
        exact ⟨rfl, fun _ => hbytes⟩
      · cases hx
        exact absurd hs (hnone s)
    · rw [load_gone ho (htracks.spaceOf?_none hlives)] at h
      cases h
      exact ⟨hreach, v, htracks, .refused hlives rfl fun _ _ => ⟨rfl, fun _ _ => nofun⟩⟩
  | @store _ cpu id va data result hid h =>
    obtain ⟨o, ho, rfl⟩ := Option.map_eq_some_iff.1 hid
    by_cases hlives : ∃ s, L o.id s
    · obtain ⟨s, hs⟩ := hlives
      obtain ⟨hreach', n, hn, hdone, htracks'⟩ :=
        store_tracks hreach (fun s' => hL o.id s s' hs) hT htracks ho h
      refine ⟨hreach', _, htracks', fun s' hnone => ?_, fun s' hnot => ?_, fun x s' hx hs' => ?_,
        fun x hx hnone => ?_⟩
      · by_cases heq : s' = s
        · subst heq
          rw [Function.update_self, hnone, Memory.store_blank]
        · rw [Function.update_of_ne heq, hnone]
      · refine Function.update_of_ne (fun heq => ?_) _ _
        exact hnot o.id rfl (heq ▸ hs)
      · cases hx
        obtain rfl := hL o.id s s' hs hs'
        exact ⟨fun hne => absurd rfl hne, fun _ => ⟨n, hn, hdone, Function.update_self _ _ _⟩⟩
      · cases hx
        exact absurd hs (hnone s)
    · rw [store_gone ho (htracks.spaceOf?_none hlives)] at h
      cases h
      refine ⟨hreach, v, htracks, .refused hlives rfl fun _ w => ⟨fun _ => rfl, fun _ => ?_⟩⟩
      exact ⟨0, Nat.zero_le _, nofun, by rw [List.take_zero, Memory.store_nil]⟩
  | yield cpu =>
    exact ⟨hreach.call cpu .yield, v, yield_tracks hreach htracks, .pause⟩
  | tick cpu =>
    exact ⟨hreach.timer cpu, v, timer_tracks hreach hT htracks, .pause⟩

section

variable {id : ProcessId} {s : Nat} {w : Memory}

/-- **A whole run** lets a process see on its watched pages what it had there, and its own stores,
if nobody else acts who lives in its address space. -/
lemma Plays.explains (h : t.Plays es t') (hreach : t.Reachable config frames)
    (hL : ∀ id s s', L id s → L id s' → s' = s) (hT : Watchable T)
    (htracks : t.kernel.Tracks L T v) (hs : L id s)
    (halone : ∀ e ∈ es, ∀ x, e.actor? = some x → L x s → x = id) :
    Event.explains id (T s) (v s) es := by
  induction h generalizing v with
  | done => trivial
  | @step _ _ _ e _ hact _ ih =>
    obtain ⟨hreach', v', htracks', hchanges⟩ := hact.tracks hreach hL hT htracks
    obtain ⟨hnow, hlater⟩ := List.forall_mem_cons.1 halone
    refine ⟨v' s, ?_, ih hreach' htracks' hlater⟩
    by_cases hid : e.actor? = some id
    · exact hchanges.acts id s hid hs
    · rw [hchanges.kept s fun x hx hlives => hid (hnow x hx hlives ▸ hx)]
      exact .of_bystander hid _

/-- Where there is no memory, a run shows nothing. -/
lemma Plays.explains_blank (h : t.Plays es t') (hreach : t.Reachable config frames)
    (hL : ∀ id s s', L id s → L id s' → s' = s) (hT : Watchable T)
    (htracks : t.kernel.Tracks L T v) (hs : L id s) (hblank : v s = fun _ => none) :
    Event.explains id (T s) w es := by
  induction h generalizing v w with
  | done => trivial
  | @step _ _ _ e _ hact _ ih =>
    obtain ⟨hreach', v', htracks', hchanges⟩ := hact.tracks hreach hL hT htracks
    have hnow : ∃ w', e.Leaves id (T s) w w' := by
      by_cases hid : e.actor? = some id
      · exact (hblank ▸ hchanges.acts id s hid hs).of_blank w
      · exact ⟨w, .of_bystander hid w⟩
    obtain ⟨w', hw'⟩ := hnow
    exact ⟨w', hw', ih hreach' htracks' (hchanges.blank s hblank)⟩

/-- Neither does it show anything to a process that is gone. -/
lemma Plays.explains_gone {own : Nat → Prop} (h : t.Plays es t')
    (hreach : t.Reachable config frames) (hL : ∀ id s s', L id s → L id s' → s' = s)
    (hT : Watchable T) (htracks : t.kernel.Tracks L T v) (hgone : ∀ s, ¬ L id s) :
    Event.explains id own w es := by
  induction h generalizing v with
  | done => trivial
  | @step _ _ _ e _ hact _ ih =>
    obtain ⟨hreach', v', htracks', hchanges⟩ := hact.tracks hreach hL hT htracks
    refine ⟨w, ?_, ih hreach' htracks'⟩
    by_cases hid : e.actor? = some id
    · exact hchanges.gone id hid hgone own w
    · exact .of_bystander hid w

end

end Bench

namespace UserContext

/-- The memory of a process, page by page what it shows. -/
def memory (u : UserContext) : Memory :=
  fun a => u.space?.bind fun s => u.bed.kernel.machine.byte? s a

/-- The pages that user code owns, without those that stay shared across a fork and without the
exception stack. -/
def Private (u : UserContext) (page : Nat) : Prop :=
  page * pageSize < userTop ∧ page ≠ exceptionPage ∧ ∀ s e, u.space? = some s →
    u.bed.kernel.machine.mapping? s page = some e → e.perm.contains .share = false

/-- A frame that the process shows, unless it stays shared across a fork, can be written through no
other page, of whatever address space. -/
def Lone (u : UserContext) : Prop :=
  ∀ s page e, u.space? = some s → u.bed.kernel.machine.mapping? s page = some e →
    e.perm.contains .share = false → ∀ s' page', u.bed.kernel.machine.Writes e.frame s' page' →
      s' = s ∧ page' = page

variable {config : Config} {frames : Nat} {t : Bench} {cpu : Nat} {u u' : UserContext}

lemma memory_eq {s : Nat} (hs : u.space? = some s) (a : Nat) :
    u.memory a = u.bed.kernel.machine.byte? s a := by
  rw [memory, hs, Option.bind_some]

/-- A process that runs on a processor, and forks with success, is live. -/
lemma placed_of_fork {side : Fork} (hbench : t.Reachable config frames)
    (hu : UserContext.of? t cpu = some u)
    (hfork : (Program.fork : Program UserContext Fork).exec u = (.ok side, u')) :
    ∃ s, u.Placed config frames u.cpu u.process s := by
  obtain ⟨id, hcur, rfl⟩ := Option.map_eq_some_iff.1 hu
  obtain ⟨⟨id, f⟩, ho, rfl⟩ := Option.map_eq_some_iff.1 hcur
  cases hs : t.kernel.spaceOf? id with
  | some s => exact ⟨s, hbench, rfl, rfl, ⟨f, ho⟩, hs⟩
  | none =>
    -- it would ask for an exception stack first, and not be given one
    have hnone : (Host.perm? (⟨t, cpu, id⟩ : UserContext) Program.exceptionStack) = none := by
      change UserContext.perm? _ _ = none
      rw [perm?, space?, hs]
      rfl
    obtain ⟨_, u₁, hinstall, -⟩ := Program.exec_bind_ok hfork
    rw [Program.installHandler, Program.exec_bind, Program.exec_perm?, hnone] at hinstall
    obtain ⟨_, u₂, halloc, -⟩ := Program.exec_bind_ok hinstall
    have hlive := live_of_request (u := ⟨t, cpu, id⟩) hbench ho rfl
      pageAlloc_leavesTable.answers halloc
    obtain ⟨p, hp⟩ := Option.isSome_iff_exists.1 hlive
    obtain ⟨s, hs'⟩ := spaceOf?_of_live? hbench.sound hp
    rw [hs] at hs'
    cases hs'

/-- What an address space shows is listed there. -/
lemma mem_entries_of_mapping? {m : Machine} {s page : Nat} {e : Mapping}
    (he : m.mapping? s page = some e) :
    ∃ a, (s, a) ∈ m.spaces.spaces.entries ∧ (page, e) ∈ a.pages.entries := by
  obtain ⟨a, ha, hpage⟩ := Option.bind_eq_some_iff.1 he
  exact ⟨a, SortedMap.mem_entries_iff.2 ha, SortedMap.mem_entries_iff.2 hpage⟩

/-- Frames that are shown once each are shown by nobody else. -/
lemma Lone.of_entries
    (h : ∀ a ∈ u.bed.kernel.machine.spaces.spaces.entries, ∀ x ∈ a.2.pages.entries,
      ∀ a' ∈ u.bed.kernel.machine.spaces.spaces.entries, ∀ x' ∈ a'.2.pages.entries,
        x'.2.frame = x.2.frame → a'.1 = a.1 ∧ x'.1 = x.1) : u.Lone := by
  rintro s page e - he - s' page' ⟨e', he', hframe, -⟩
  obtain ⟨a, ha, hx⟩ := mem_entries_of_mapping? he
  obtain ⟨a', ha', hx'⟩ := mem_entries_of_mapping? he'
  exact h _ ha _ hx _ ha' _ hx' hframe

end UserContext

/-- Two processes that live in one address space. -/
def Kernel.Together (k : Kernel) (x y : ProcessId) : Prop :=
  ∃ s, k.spaceOf? x = some s ∧ k.spaceOf? y = some s

/-- Where address spaces are separate, nobody lives together with another. -/
lemma Kernel.Separate.eq_of_together {k : Kernel} {n : UInt32} {x y : ProcessId}
    (h : k.Separate n) (htogether : k.Together x y) : x = y := by
  obtain ⟨s, hx, hy⟩ := htogether
  exact h.spaceOf?_inj hx hy

/-- **What parent and child see after a fork**, in every run in which nobody else acts who lives in
the address space of one of them. -/
lemma UserContext.Forked.explains {config : Config} {frames cpu s t : Nat} {u : UserContext}
    {t' : Bench} {id child : ProcessId} {watched : Nat → Prop} {memory : Memory}
    {events : List Event} (h : u.Forked config frames cpu id child s t watched memory)
    (hwatched : ∀ page, watched page → page * pageSize < userTop ∧ page ≠ exceptionPage)
    (hothers : ∀ e ∈ events, ∀ x, e.actor? = some x →
      u.bed.kernel.Together x id ∨ u.bed.kernel.Together x child → x = id ∨ x = child)
    (hrun : u.bed.Plays events t') :
    Event.explains id watched memory events ∧ Event.explains child watched memory events := by
  have hreach := h.placed.reachable
  have hspace := h.placed.space
  have hL : ∀ x s s', u.bed.kernel.spaceOf? x = some s → u.bed.kernel.spaceOf? x = some s' →
      s' = s := fun x s s' hs hs' => Option.some.inj (hs'.symm.trans hs)
  have hgone : u.bed.kernel.spaceOf? child = none → ∀ s, ¬ u.bed.kernel.spaceOf? child = some s :=
    fun hnone s hs => by
      rw [hnone] at hs
      cases hs
  by_cases heq : t = s
  · subst heq
    -- the child has taken the address space of the parent, where no watched page is left
    have hT : Watchable fun x page => watched page ∧ x = t :=
      ⟨fun _ page hpage => (hwatched page hpage.1).1, fun _ page hpage => (hwatched page hpage.1).2⟩
    have htracks := h.blank rfl
    have hown : (fun page => watched page ∧ t = t) = watched :=
      funext fun page => propext ⟨And.left, fun hpage => ⟨hpage, rfl⟩⟩
    refine ⟨hown ▸ hrun.explains_blank hreach hL hT htracks hspace rfl, ?_⟩
    cases hchild : u.bed.kernel.spaceOf? child with
    | none => exact hrun.explains_gone hreach hL hT htracks (hgone hchild)
    | some t' =>
      obtain rfl := h.child t' hchild
      exact hown ▸ hrun.explains_blank hreach hL hT htracks hchild rfl
  · have hT : Watchable fun x page => watched page ∧ (x = s ∨ x = t) :=
      ⟨fun _ page hpage => (hwatched page hpage.1).1, fun _ page hpage => (hwatched page hpage.1).2⟩
    have htracks := h.tracks heq
    have hown : ∀ x, x = s ∨ x = t → (fun page => watched page ∧ (x = s ∨ x = t)) = watched :=
      fun x hx => funext fun page => propext ⟨And.left, fun hpage => ⟨hpage, hx⟩⟩
    constructor
    · rw [← hown s (.inl rfl)]
      refine hrun.explains hreach hL hT htracks hspace fun e he x hx hs => ?_
      refine (hothers e he x hx (.inl ⟨s, hs, hspace⟩)).resolve_right ?_
      rintro rfl
      exact heq (h.child s hs).symm
    · cases hchild : u.bed.kernel.spaceOf? child with
      | none => exact hrun.explains_gone hreach hL hT htracks (hgone hchild)
      | some t' =>
        obtain rfl := h.child t' hchild
        rw [← hown t' (.inr rfl)]
        refine hrun.explains hreach hL hT htracks hchild fun e he x hx hs => ?_
        refine (hothers e he x hx (.inr ⟨t', hs, hchild⟩)).resolve_left ?_
        rintro rfl
        exact heq (hL _ _ _ hspace hs)

/-- The memory of the parent before a fork is that of both after it, on pages that are its own. -/
lemma UserContext.forked_of_fork {config : Config} {frames cpu : Nat} {t : Bench}
    {u u' : UserContext} {child : ProcessId} (hbench : t.Reachable config frames)
    (hu : UserContext.of? t cpu = some u) (hlone : u.Lone)
    (hfork : (Program.fork : Program UserContext Fork).exec u = (.ok (.parent child), u')) :
    ∃ s t, u'.Forked config frames u.cpu u.process child s t u.Private u.memory := by
  obtain ⟨s, hplaced⟩ := placed_of_fork hbench hu hfork
  have hs := hplaced.space?
  have htracks : u.bed.kernel.Tracks (fun x s => u.bed.kernel.spaceOf? x = some s)
      (fun x page => u.Private page ∧ x = s) fun _ => u.memory := by
    refine ⟨fun _ _ hs => hs, ?_⟩
    rintro x page ⟨hprivate, rfl⟩ -
    exact ⟨fun i _ => (memory_eq hs _).symm,
      fun e he => hlone x page e hs he (hprivate.2.2 x e hs he)⟩
  have hshared : ∀ page e, u.bed.kernel.machine.mapping? s page = some e →
      e.perm.contains .share = true → ¬ u.Private page := fun page e he hshare hpage => by
    rw [hpage.2.2 s e hs he] at hshare
    cases hshare
  exact ⟨s, hplaced.fork (fun page hpage => hpage.2.1) hshared htracks hfork⟩

open UserContext in
/-- **Copy-on-write isolation.** Let a process that runs on a processor of the bench fork, and find
itself in the parent. Before that, let the frames that it shows be its own, unless they are shared.
Then in every run that follows, on all pages but shared ones and the exception stack, parent and
child each see what the parent had in its memory, and what they stored themselves: no store of one
is ever visible to the other. Others may act as well, unless they live in an address space of one of
the two. -/
theorem fork_isolates {config : Config} {frames cpu : Nat} {t t' : Bench} {u u' : UserContext}
    {child : ProcessId} {events : List Event} (hbench : t.Reachable config frames)
    (hu : UserContext.of? t cpu = some u) (hlone : u.Lone)
    (hfork : (Program.fork : Program UserContext Fork).exec u = (.ok (.parent child), u'))
    (hothers : ∀ e ∈ events, ∀ x, e.actor? = some x → u'.bed.kernel.Together x u.process ∨
      u'.bed.kernel.Together x child → x = u.process ∨ x = child)
    (hrun : u'.bed.Plays events t') :
    Event.explains u.process u.Private u.memory events ∧
      Event.explains child u.Private u.memory events := by
  obtain ⟨s, t, hforked⟩ := forked_of_fork hbench hu hlone hfork
  exact hforked.explains (fun page hpage => ⟨hpage.1, hpage.2.1⟩) hothers hrun

/-- A program forks and stores into its page of data. The child loads what was there before. -/
theorem fork_isolates_data : ∃ (t t' : Bench) (u u' : UserContext),
    t.Reachable { maxProcesses := 2 } 24 ∧ UserContext.of? t 0 = some u ∧ u.Lone ∧
    (Program.fork : Program UserContext Fork).exec u =
      (.ok (.parent (ProcessId.self.next 1)), u') ∧
    u'.bed.Plays [.store (ProcessId.self.next 0) (.ofNat textBase) [9] (.ok ()), .pause,
      .load (ProcessId.self.next 1) (.ofNat textBase) 1 (.ok [7])] t' ∧
    Event.explains (ProcessId.self.next 1) u.Private u.memory
      [.store (ProcessId.self.next 0) (.ofNat textBase) [9] (.ok ()), .pause,
        .load (ProcessId.self.next 1) (.ofNat textBase) 1 (.ok [7])] := by
  have hboot : Reachable { maxProcesses := 2 } 24 _ := .boot rfl (.refl _) rfl
  have hspawn := hboot.step
    (.spawn ⟨.ofNat textBase, [.readWrite (.ofNat textBase) [7] 1]⟩) trivial
  obtain ⟨t, hbench, hcur, hlone, hfork, hback, hstore, hnext, hload⟩ : ∃ t : Bench,
      t.Reachable { maxProcesses := 2 } 24 ∧ t.current? 0 = some (ProcessId.self.next 0) ∧
      UserContext.Lone ⟨t, 0, ProcessId.self.next 0⟩ ∧
      let r := Program.fork.exec (⟨t, 0, ProcessId.self.next 0⟩ : UserContext)
      let stored := r.2.bed.store 0 (.ofNat textBase) [9]
      let yielded := (stored.2.call 0 .yield).2
      r.1 = .ok (.parent (ProcessId.self.next 1)) ∧
      r.2.bed.current? 0 = some (ProcessId.self.next 0) ∧ stored.1 = .ok () ∧
      yielded.current? 0 = some (ProcessId.self.next 1) ∧
      (yielded.load 0 (.ofNat textBase) 1).1 = .ok [7] :=
    ⟨_, (Bench.Reachable.begin hspawn).schedule 0 rfl, by decide +kernel,
      .of_entries (by decide +kernel), by decide +kernel⟩
  have hu : UserContext.of? t 0 = some ⟨t, 0, ProcessId.self.next 0⟩ := by
    rw [UserContext.of?, hcur]
    rfl
  have hforked : Program.fork.exec (⟨t, 0, ProcessId.self.next 0⟩ : UserContext) =
    (.ok (.parent (ProcessId.self.next 1)), _) := Prod.ext hfork rfl
  have hrun := Bench.Plays.step (.store hback (Prod.ext hstore rfl))
    (.step (.yield 0) (.step (.load hnext (Prod.ext hload rfl)) (.done _)))
  -- nobody acts but these two
  have hothers : ∀ e ∈ [Event.store (ProcessId.self.next 0) (.ofNat textBase) [9] (.ok ()), .pause,
      .load (ProcessId.self.next 1) (.ofNat textBase) 1 (.ok [7])], ∀ x, e.actor? = some x →
      x = ProcessId.self.next 0 ∨ x = ProcessId.self.next 1 := by
    decide
  exact ⟨t, _, _, _, hbench, hu, hlone, hforked, hrun,
    (fork_isolates hbench hu hlone hforked (fun e he x hx _ => hothers e he x hx) hrun).2⟩

open UserContext in
/-- As long as no number of an address space has come back, **everybody may act**: nobody lives in
an address space of another. -/
theorem fork_isolates_early {config : Config} {frames cpu : Nat} {t t' : Bench}
    {u u' : UserContext} {child : ProcessId} {events : List Event}
    (hbench : t.Reachable config frames) (hu : UserContext.of? t cpu = some u) (hlone : u.Lone)
    (hfork : (Program.fork : Program UserContext Fork).exec u = (.ok (.parent child), u'))
    (hearly : Early config frames u'.bed.kernel) (hrun : u'.bed.Plays events t') :
    Event.explains u.process u.Private u.memory events ∧
      Event.explains child u.Private u.memory events := by
  obtain ⟨s, t, hforked⟩ := forked_of_fork hbench hu hlone hfork
  refine hforked.explains (fun page hpage => ⟨hpage.1, hpage.2.1⟩) (fun _ _ x _ => ?_) hrun
  rintro (htogether | htogether)
  · exact .inl (hearly.separate.eq_of_together htogether)
  · exact .inr (hearly.separate.eq_of_together htogether)

end Exokernel
