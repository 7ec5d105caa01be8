/-
What calls about pages leave for processes to see.

* `Kernel.named`: whom a caller means;
* `Kernel.Puts`: a process comes to show a frame at a page;
* `executed_pageAlloc`, `executed_pageMap`, `executed_pageUnmap`: **calls that succeed** put a page
  or take it away;
* `Tracks.executed_pageAlloc` and so on: whatever comes of them, other watched pages stay as they
  are;
* `Tracks.remap`, `Tracks.share`: **a watched page that is shown once more**, to be read only;
* `Kernel.Carried`: a call that was carried out while memory drifted.
-/
import Exokernel.Proofs.Kernel.Answers
import Exokernel.Proofs.Kernel.Tracks

namespace Exokernel

open Layout

namespace Machine

variable {m : Machine} {s s' page : Nat} {v : Memory} {e e' : Mapping}

/-- **A frame that is shown twice**, and for writing neither time, is guarded both times if it is
guarded once. -/
lemma Guards.share (h : m.Guards s page v) (he : m.mapping? s page = some e)
    (hread : e.perm.contains .writable = false) (he' : m.mapping? s' page = some e')
    (hframe : e'.frame = e.frame) : m.Guards s' page v := by
  refine ⟨fun i hi => ?_, fun e₂ he₂ s₂ page₂ hw => ?_⟩
  · rw [byte?_of_mapping? he' hi, hframe, ← byte?_of_mapping? he hi, h.bytes i hi]
  · rw [he'] at he₂
    cases he₂
    rw [hframe] at hw
    obtain ⟨rfl, rfl⟩ := h.sole e he s₂ page₂ hw
    obtain ⟨e₂, he₂, -, hwritable⟩ := hw
    rw [he] at he₂
    cases he₂
    rw [hread] at hwritable
    cases hwritable

end Machine

namespace Kernel

variable {k k' k'' k₁ k₂ : Kernel} {id caller target other : ProcessId} {cpu n page s : Nat}
  {c : Syscall} {va : VirtAddr} {perm : Perm} {L : ProcessId → Nat → Prop} {T : Nat → Nat → Prop}
  {v : Nat → Memory} {e e' : Mapping} {result : Except KernelError UInt32}

/-- Whom `caller` means by an identity. -/
def named (caller target : ProcessId) : ProcessId := if target.isSelf then caller else target

lemma named_of_not_self (h : target.isSelf = false) : named caller target = target :=
  if_neg (by rw [h]; exact Bool.false_ne_true)

lemma eq_named_of_resolve {related : Bool} (h : k.resolve caller target related = .ok id) :
    id = named caller target := by
  rw [resolve, ProcessTable.resolve] at h
  rw [named]
  split at h
  · next hself =>
    cases h
    rw [if_pos hself]
  · next hself =>
    rw [if_neg hself]
    split at h
    · cases h
    · split at h
      · cases h
      · cases h
        rfl

/-! ### Pages that are put -/

/-- A process comes to show `e` at a page, and nothing else changes. -/
def Puts (k : Kernel) (id : ProcessId) (page : Nat) (e : Mapping) (k' : Kernel) : Prop :=
  ∃ s m, k.spaceOf? id = some s ∧ k.machine.Puts s page e m ∧ k' = { k with machine := m }

/-- **A watched page** that comes to show its own frame again, to be read only, is watched on. -/
lemma Tracks.remap {m : Machine} (h : k.Tracks L T v) (hk : k.Sound)
    (hput : k.machine.Puts s page e m) (he' : k.machine.mapping? s page = some e')
    (hframe : e.frame = e'.frame) (hread : e.perm.contains .writable = false) :
    { k with machine := m }.Tracks L T v := by
  refine h.of_machine fun s' page' hT hshown => ?_
  by_cases hsame : s = s' ∧ page = page'
  · obtain ⟨rfl, rfl⟩ := hsame
    have hguards := h.pages s page hT (by rw [he']; rfl)
    refine hput.guards (fun i hi => ?_) fun s₂ page₂ hw => ?_
    · rw [← hguards.bytes i hi, Machine.byte?_of_mapping? he' hi, ← hframe]
      refine FramePool.byte?_eq_of_contents? (hput.contents _ ?_) i
      rw [hframe]
      exact hk.accounted.isSome_of_mapping? he'
    · rw [hframe] at hw
      exact hguards.sole e' he' s₂ page₂ hw
  · rw [hput.mapping, if_neg hsame] at hshown
    refine (h.pages s' page' hT hshown).puts hk.accounted hput hsame fun hwritable => ?_
    rw [hread] at hwritable
    cases hwritable

/-- **A watched page that is shown in another address space**, and for writing in neither, can be
watched there as well. -/
lemma Tracks.share {s' : Nat} (h : k.Tracks L T v) (hT : T s page)
    (he : k.machine.mapping? s page = some e) (hread : e.perm.contains .writable = false)
    (hother : ∀ e', k.machine.mapping? s' page = some e' → e'.frame = e.frame) (hv : v s' = v s) :
    k.Tracks L (fun x q => T x q ∨ x = s' ∧ q = page) v := by
  refine ⟨h.lives, ?_⟩
  rintro x q (hxq | ⟨rfl, rfl⟩) hshown
  · exact h.pages x q hxq hshown
  · obtain ⟨e', he'⟩ := Option.isSome_iff_exists.1 hshown
    rw [hv]
    exact (h.pages s q hT (by rw [he]; rfl)).share he hread he' (hother e' he')

/-! ### Calls about pages -/

/-- **A fresh page** that is asked for and given shows a frame that was not in use. -/
lemma executed_pageAlloc {w : UInt32} (hk : k.Sound)
    (h : k.execute cpu caller (.pageAlloc target va perm) = (.answer (.ok w), k')) :
    ∃ n, (k.machine.frames.allocated? n).isSome = false ∧
      k.Puts (named caller target) va.page ⟨n, perm ||| .present⟩ k' := by
  rw [execute, tell] at h
  simp only [Prod.mk.injEq, Outcome.answer.injEq] at h
  obtain ⟨hw, rfl⟩ := h
  rcases @pageAlloc_effect k caller target va perm hk with
    ⟨-, id, s, n, m, hid, hs, hfresh, hput, heq⟩ | ⟨⟨e, herror⟩, -⟩
  · exact ⟨n, hfresh, s, m, eq_named_of_resolve hid ▸ hs, hput, heq⟩
  · rw [herror] at hw
    cases hw

/-- Whether it is given or not, other watched pages stay as they are. -/
lemma Tracks.executed_pageAlloc (htracks : k.Tracks L T v) (hk : k.Sound)
    (h : k.execute cpu caller (.pageAlloc target va perm) = (.answer result, k'))
    (hT : ∀ s, L (named caller target) s → ¬ T s va.page) : k'.Tracks L T v := by
  rw [execute, tell] at h
  simp only [Prod.mk.injEq, Outcome.answer.injEq] at h
  obtain ⟨-, rfl⟩ := h
  refine htracks.pageAlloc hk fun id s hid => ?_
  rw [eq_named_of_resolve hid]
  exact hT s

/-- **A page that is to be shown elsewhere**, and is, shows the frame that its source shows. -/
lemma executed_pageMap {src dst : ProcessId} {srcVa : VirtAddr} {w : UInt32}
    (h : k.execute cpu caller (.pageMap src srcVa dst va perm) = (.answer (.ok w), k')) :
    ∃ s e, k.spaceOf? (named caller src) = some s ∧ k.machine.mapping? s srcVa.page = some e ∧
      k.Puts (named caller dst) va.page ⟨e.frame, perm ||| .present⟩ k' := by
  rw [execute, tell] at h
  simp only [Prod.mk.injEq, Outcome.answer.injEq] at h
  obtain ⟨hw, rfl⟩ := h
  rcases @pageMap_effect k caller dst va perm src srcVa with
    ⟨-, owner, id, s₁, s₂, e, m, howner, hid, hs₁, hs₂, he, -, hput, heq⟩ | ⟨⟨e, herror⟩, -⟩
  · exact ⟨s₁, e, eq_named_of_resolve howner ▸ hs₁, he, s₂, m, eq_named_of_resolve hid ▸ hs₂,
      hput, heq⟩
  · rw [herror] at hw
    cases hw

/-- Whether it is or not, other watched pages stay as they are. -/
lemma Tracks.executed_pageMap {src dst : ProcessId} {srcVa : VirtAddr} (htracks : k.Tracks L T v)
    (hk : k.Sound)
    (h : k.execute cpu caller (.pageMap src srcVa dst va perm) = (.answer result, k'))
    (hT : ∀ s, L (named caller dst) s → ¬ T s va.page)
    (hsrc : perm.contains .writable = true → ∀ s, L (named caller src) s → ¬ T s srcVa.page) :
    k'.Tracks L T v := by
  rw [execute, tell] at h
  simp only [Prod.mk.injEq, Outcome.answer.injEq] at h
  obtain ⟨-, rfl⟩ := h
  refine htracks.pageMap hk (fun id s hid => ?_) fun hwritable id s hid => ?_
  · rw [eq_named_of_resolve hid]
    exact hT s
  · rw [eq_named_of_resolve hid]
    exact hsrc hwritable s

/-- **A page that is to be taken away**, and is, shows nothing. -/
lemma executed_pageUnmap {w : UInt32}
    (h : k.execute cpu caller (.pageUnmap target va) = (.answer (.ok w), k')) :
    ∃ s, k.spaceOf? (named caller target) = some s ∧
      k' = { k with machine := k.machine.unmap s va } := by
  rw [execute] at h
  obtain ⟨e, -, hw, -⟩ | ⟨hunmap, -⟩ := acknowledge_cases h
  · cases hw
  · obtain ⟨id, s, -, hid, hs, rfl⟩ := pageUnmap_cases hunmap
    exact ⟨s, eq_named_of_resolve hid ▸ hs, rfl⟩

/-- Whether it is or not, watched pages stay as they are that show anything. -/
lemma Tracks.executed_pageUnmap (htracks : k.Tracks L T v)
    (h : k.execute cpu caller (.pageUnmap target va) = (.answer result, k')) :
    k'.Tracks L T v := by
  rw [execute] at h
  obtain ⟨e, -, -, rfl⟩ | ⟨hunmap, -⟩ := acknowledge_cases h
  · exact htracks
  · obtain ⟨id, s, -, -, -, rfl⟩ := pageUnmap_cases hunmap
    exact htracks.unmap s va

/-! ### Other calls -/

lemma executed_exofork {w : UInt32}
    (h : k.execute cpu caller .exofork = (.answer (.ok w), k')) :
    k.exofork caller = .ok (w, k') := by
  rw [execute] at h
  exact answer_ok h

/-- Who is let run, or held, keeps its memory. -/
lemma executed_setStatus {status : ProcessStatus}
    (h : k.execute cpu caller (.setStatus target status) = (.answer result, k')) :
    k.Drifts k' := by
  rw [execute] at h
  obtain ⟨e, -, -, rfl⟩ | ⟨hset, -⟩ := acknowledge_cases h
  · exact .refl _
  · obtain ⟨id, p, hs, -, hp, rfl⟩ := setStatus_cases hset
    exact .edit hp (edit_withStatus (live?_eq_some_iff.1 hp).2.2 hs)

/-- Neither does a fault handler that is set change memory. -/
lemma executed_setFaultHandler {entry : VirtAddr}
    (h : k.execute cpu caller (.setFaultHandler target entry) = (.answer result, k')) :
    k.Drifts k' := by
  rw [execute] at h
  obtain ⟨e, -, -, rfl⟩ | ⟨hset, -⟩ := acknowledge_cases h
  · exact .refl _
  · obtain ⟨id, p, -, -, rfl⟩ := setFaultHandler_cases hset
    exact .of_modify fun q _ hlive => ⟨hlive, rfl, rfl⟩

/-! ### Calls that were carried out -/

/-- **A call that was carried out** by kernel `k₁`, with kernel `k₂` as its outcome, while memory
drifted from `k` to `k₁` and from `k₂` to `k'`. -/
structure Carried (k : Kernel) (cpu : Nat) (id : ProcessId) (c : Syscall) (k₁ : Kernel)
    (result : Except KernelError UInt32) (k₂ k' : Kernel) : Prop where
  before : k.Drifts k₁
  sound : k₁.Sound
  live : (k₁.live? id).isSome
  executed : k₁.execute cpu id c = (.answer result, k₂)
  after : k₂.Drifts k'

namespace Carried

/-- What the call does to watched pages is all that happens to them. -/
lemma tracks {L' : ProcessId → Nat → Prop} {T' : Nat → Nat → Prop} {w : Nat → Memory}
    (h : k.Carried cpu id c k₁ result k₂ k') (hstep : k₁.Tracks L T v → k₂.Tracks L' T' w)
    (htracks : k.Tracks L T v) : k'.Tracks L' T' w :=
  h.after.tracks (hstep (h.before.tracks htracks))

/-- The caller keeps its address space as long as it is live. -/
lemma spaceOf? (h : k.Carried cpu id c k₁ result k₂ k') (hs : k.spaceOf? id = some s) :
    k₁.spaceOf? id = some s := by
  obtain ⟨p, hp⟩ := Option.isSome_iff_exists.1 h.live
  obtain ⟨s', hs'⟩ := spaceOf?_of_live? h.sound hp
  rw [h.before.living id s' hs'] at hs
  rwa [hs] at hs'

end Carried

lemma Saved.drifts {f : TrapFrame} (h : k.Saved id f k') {p : Process}
    (hp : k.live? id = some p) : k.Drifts k' :=
  (h.moves hp fun _ hd => hd).drifts fun _ hd => hd.calm

end Kernel

end Exokernel
