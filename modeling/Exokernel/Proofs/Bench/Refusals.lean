/-
Requests of user code that are refused.

* `Machine.Untouched`: **memory that is as it was**, page by page and frame by frame;
* `Machine.mapZeroed_refused`: a fresh page for which there is no frame;
* `Active.request_refused`: **a request that is refused** changes nothing but the registers of the
  process that makes it;
* `Active.pageAlloc_refused`: so does a request for a fresh page that there is no frame for.
-/
import Exokernel.Proofs.Bench.Active
import Exokernel.Proofs.PageCalls
import Exokernel.Proofs.Refusals

namespace Exokernel

open Layout

namespace Machine

variable {m m' m'' : Machine} {s : Nat} {va : VirtAddr} {perm : Perm}

/-! ### Memory that is as it was -/

/-- **Memory is as it was**: every page and every window shows what it showed, the same frames are
free, and the same frames are in use, with the same counts of references and the same contents. -/
structure Untouched (m m' : Machine) : Prop where
  spaces : m'.spaces = m.spaces
  windows : m'.windows = m.windows
  frames : m.frames.Agrees m'.frames

namespace Untouched

lemma trans (h : m.Untouched m') (h' : m'.Untouched m'') : m.Untouched m'' :=
  ⟨h'.spaces.trans h.spaces, h'.windows.trans h.windows, h.frames.trans h'.frames⟩

lemma of_same (hframes : m'.frames = m.frames) (hspaces : m'.spaces = m.spaces)
    (hwindows : m'.windows = m.windows) : m.Untouched m' :=
  ⟨hspaces, hwindows, hframes ▸ .refl _⟩

end Untouched

/-! ### Pages for which there is no frame -/

lemma allocFrame_error {e : MachineError} (h : m.allocFrame = .error e) : e = .outOfMemory := by
  rw [allocFrame] at h
  split at h <;> cases h
  rfl

lemma allocOwned_error {e : MachineError} (h : m.allocOwned = .error e) : e = .outOfMemory := by
  rw [allocOwned] at h
  split at h <;> cases h
  rfl

/-- In an address space that exists, a page table is refused for want of a frame only. -/
lemma ensureTable_error {e : MachineError} (hspace : (m.space? s).isSome)
    (h : m.ensureTable s va = .error e) : e = .outOfMemory := by
  obtain ⟨a, ha⟩ := Option.isSome_iff_exists.1 hspace
  rw [ensureTable, ha] at h
  dsimp only at h
  split at h
  · cases h
  · split at h
    · next e' he' =>
      cases h
      exact allocOwned_error he'
    · cases h

/-- So is a fresh page. -/
lemma mapZeroed_error {e : MachineError} (hspace : (m.space? s).isSome) (hlt : va.toNat < userTop)
    (h : (m.mapZeroed s va perm).1 = .error e) : e = .outOfMemory := by
  rw [mapZeroed] at h
  cases hall : m.allocFrame with
  | error e' =>
    rw [hall] at h
    cases h
    exact allocFrame_error hall
  | ok r =>
    obtain ⟨n, m₁⟩ := r
    obtain ⟨frames, -, rfl⟩ := allocFrame_cases hall
    rw [hall] at h
    dsimp only at h
    rw [Machine.map, if_neg (Nat.not_le.2 hlt)] at h
    cases hens : ensureTable (clear { m with frames } n) s va with
    | error e' =>
      rw [hens] at h
      cases h
      exact ensureTable_error (m := clear { m with frames } n) hspace hens
    | ok m₂ =>
      rw [hens] at h
      cases h

/-- **A fresh page for which there is no frame**, or none for its page table, is refused. -/
lemma mapZeroed_refused (hspace : (m.space? s).isSome) (hlt : va.toNat < userTop)
    (h : ¬ m.Provided s va.page 1) : (m.mapZeroed s va perm).1 = .error .outOfMemory := by
  cases hresult : (m.mapZeroed s va perm).1 with
  | ok _ => exact absurd ((mapZeroed_iff hlt).1 hresult) h
  | error e => rw [mapZeroed_error hspace hlt hresult]

end Machine

namespace Kernel

variable {k k' k₁ k₂ : Kernel} {id : ProcessId} {cpu s : Nat} {f : TrapFrame} {c : Syscall}
  {va : VirtAddr} {perm : Perm} {e : KernelError}

lemma Unchanged.untouched (h : k.Unchanged k') : k.machine.Untouched k'.machine := by
  obtain ⟨console, frames, hmachine, hagrees⟩ := h.machine
  rw [hmachine]
  exact ⟨rfl, rfl, hagrees⟩

lemma Saved.untouched (h : k.Saved id f k') : k.machine.Untouched k'.machine :=
  .of_same h.memory.1 h.memory.2.1 h.memory.2.2

/-- A call that is answered with an error leaves everything but the registers as it was. -/
lemma Served.refused (h : k.Served cpu id f c k₁ (.error e) k₂ k') :
    Renews id k k' ∧ k.machine.Untouched k'.machine := by
  have hsame : k₁.Unchanged k₂ := by
    have herror := execute_error (e := e) h.sound (congrArg Prod.fst h.executed)
    rwa [h.executed] at herror
  exact ⟨((Renews.of_saved h.saved).trans (.of_table hsame.table)).trans (.of_saved h.answered),
    (h.saved.untouched.trans hsame.untouched).trans h.answered.untouched⟩

/-- A process that asks for a fresh page of its own for which there is no frame. -/
lemma executed_pageAlloc_refused (hs : k.spaceOf? id = some s)
    (hthere : (k.machine.space? s).isSome) (hva : va.isMappable = true)
    (hperm : perm.isRequestable = true) (h : ¬ k.machine.Provided s va.page 1) :
    (k.execute cpu id (.pageAlloc .self va perm)).1 = .answer (.error .outOfMemory) := by
  have hrefused : (k.machine.mapZeroed s va perm).1 = .error .outOfMemory :=
    Machine.mapZeroed_refused hthere (lt_userTop_of_isMappable hva) h
  have hspace : k.allocSpace id .self va perm = .ok s :=
    allocSpace_ok_iff.2 ⟨hva, hperm, id, rfl, hs⟩
  rw [execute, pageAlloc, hspace]
  dsimp only
  rw [hrefused]
  rfl

end Kernel

namespace UserContext.Active

open Kernel Program

variable {config : Config} {frames cpu s : Nat} {id : ProcessId} {u u' : UserContext}
  {f : TrapFrame} {c : Syscall} {va : VirtAddr} {perm : Perm} {e : LibError}

/-- **A request that is refused**, if the call tells no more than that it succeeded: its caller is
told the error of the call, and nothing changes but the registers. -/
lemma request_refused (h : u.Active config frames cpu id s f)
    (hc : Syscall.decode c.encode = .ok c) (hpersists : Persists cpu id c)
    (hplain : ∀ (k k' : Kernel) v, k.execute cpu id c = (.answer (.ok v), k') → v = 0)
    (hexec : (Program.request c).exec u = (.error e, u')) :
    ∃ e' f', e = .kernel e' ∧ u'.Active config frames cpu id s f' ∧
      (∀ c, callFrame f' c = callFrame f c) ∧ Renews id u.bed.kernel u'.bed.kernel ∧
      u.bed.kernel.machine.Untouched u'.bed.kernel.machine := by
  obtain ⟨k₁, result, k₂, u₁, hserved, hactive, heq⟩ := h.request hc hpersists
  rw [heq, Prod.mk.injEq] at hexec
  obtain ⟨herror, rfl⟩ := hexec
  cases result with
  | ok v =>
    obtain rfl := hplain k₁ k₂ v hserved.executed
    cases herror
  | error e' =>
    obtain ⟨hrenews, huntouched⟩ := hserved.refused
    refine ⟨e', _, ?_, hactive, callFrame_answeredFrame, hrenews, huntouched⟩
    rw [decodeResult_encodeResult_error] at herror
    cases herror
    rfl

/-- **A fresh page that there is no frame for** is refused, and nothing changes but the
registers. -/
lemma pageAlloc_refused (h : u.Active config frames cpu id s f)
    (hthere : (u.bed.kernel.machine.space? s).isSome) (hva : va.isMappable = true)
    (hperm : perm.isRequestable = true) (hout : ¬ u.bed.kernel.machine.Provided s va.page 1) :
    ∃ u', (Program.pageAlloc .self va perm : Program UserContext Unit).exec u =
        (.error (.kernel .outOfMemory), u') ∧ Renews id u.bed.kernel u'.bed.kernel ∧
      u.bed.kernel.machine.Untouched u'.bed.kernel.machine := by
  obtain ⟨k₁, result, k₂, u', hserved, -, hexec⟩ := h.request (c := .pageAlloc .self va perm) rfl
    pageAlloc_leavesTable.persists
  obtain ⟨hframes, hspaces, -⟩ := hserved.saved.memory
  have hthere₁ : (k₁.machine.space? s).isSome := by rwa [Machine.space?, hspaces]
  have hout₁ : ¬ k₁.machine.Provided s va.page 1 := fun hprovided => by
    refine hout (hprovided.mono hspaces.symm (Nat.le_of_eq ?_))
    rw [Machine.freeFrames, Machine.freeFrames, hframes]
  have hresult : (k₁.execute cpu id (.pageAlloc .self va perm)).1 = .answer (.error .outOfMemory) :=
    executed_pageAlloc_refused (hserved.saved.spaceOf?_eq h.space) hthere₁ hva hperm hout₁
  rw [hserved.executed, Outcome.answer.injEq] at hresult
  subst hresult
  obtain ⟨hrenews, huntouched⟩ := hserved.refused
  refine ⟨u', hexec, hrenews, huntouched⟩

end UserContext.Active

end Exokernel
