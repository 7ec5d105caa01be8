/-
The identities that the slots of the process table issue.

* `ProcessId.iterate_next`: the identities that follow one another in a slot, in closed form;
* `ProcessId.iterate_next_inj`: **a slot repeats an identity** after a full period and not before;
* `Operation.issue?_iff`: an operation issues an identity if and only if it stamps it on a slot;
* `issues`, `History.issues_eq`: the identities that a slot issues in a row of transitions;
* `identities_unique`: **what identities are worth**: nobody is taken for somebody else.
-/
import Mathlib.Algebra.Ring.Nat
import Mathlib.Logic.Function.Iterate
import Exokernel.Proofs.Alterations

namespace Exokernel

/-! ### Generations -/

namespace ProcessId

variable {previous id : ProcessId} {slot n : Nat}

/-- How many identities a slot issues before it repeats the first. -/
abbrev period : Nat := 524287

/-- An identity is its slot and its generation, which counts up and skips zero. -/
lemma next_eq_ofParts (previous : ProcessId) (slot : Nat) :
    previous.next slot = ofParts slot (previous.generation % generationCount % period + 1) := by
  rw [next]
  dsimp only [generationCount, period]
  congr 1
  split <;> omega

/-- **The identities that a slot issues one after another**, from the last one on. -/
lemma iterate_next (previous : ProcessId) (slot n : Nat) :
    (fun id => next id slot)^[n + 1] previous =
      ofParts slot ((previous.generation % generationCount + n) % period + 1) := by
  induction n with
  | zero => exact next_eq_ofParts previous slot
  | succ n ih =>
    rw [Function.iterate_succ_apply', ih, next_eq_ofParts, generation_ofParts]
    congr 1
    dsimp only [generationCount, period]
    omega

/-- What a slot issues is not the identity of whoever is asking, is positive as a signed number, and
names the slot. -/
lemma iterate_next_bounds (previous : ProcessId) (hslot : slot < slotCount) (n : Nat) :
    (fun id => next id slot)^[n + 1] previous ≠ .self ∧
      ((fun id => next id slot)^[n + 1] previous).raw.toNat < 2 ^ 31 ∧
      ((fun id => next id slot)^[n + 1] previous).slot = slot := by
  refine ⟨?_, ?_, ?_⟩
  · rw [Function.iterate_succ_apply']
    exact Kernel.next_ne_self _ slot
  · rw [iterate_next, ofParts]
    simp only [UInt32.toNat_ofNat', generationCount, slotCount, period]
    omega
  · rw [iterate_next, slot_ofParts, Nat.mod_eq_of_lt hslot]

/-- **A slot repeats an identity** if and only if a whole number of periods lies in between. -/
lemma iterate_next_inj (previous : ProcessId) (slot : Nat) {i j : Nat} (hij : i ≤ j) :
    (fun id => next id slot)^[i + 1] previous = (fun id => next id slot)^[j + 1] previous ↔
      period ∣ j - i := by
  rw [iterate_next, iterate_next]
  constructor
  · intro h
    have hgen := congrArg generation h
    rw [generation_ofParts, generation_ofParts] at hgen
    dsimp only [generationCount, period] at hgen ⊢
    omega
  · intro h
    congr 2
    dsimp only [period] at h ⊢
    omega

/-- In less than a period a slot does not come back to the identity that it has issued last. -/
lemma iterate_next_ne (previous : ProcessId) (slot : Nat) (hn : n + 1 < period) :
    (fun id => next id slot)^[n + 1] previous ≠ previous := by
  intro h
  have hgen := congrArg generation h
  rw [iterate_next, generation_ofParts] at hgen
  dsimp only [generationCount, period] at hgen hn
  omega

lemma next_ne (previous : ProcessId) (slot : Nat) : previous.next slot ≠ previous :=
  iterate_next_ne (n := 0) previous slot (by decide)

end ProcessId

/-! ### One operation -/

namespace Kernel

variable {k k' : Kernel} {id : ProcessId} {p : Process} {slot : Nat} {d : Deed} {A : Deed → Prop}

/-- A process that is made stamps its identity on its slot. -/
lemma record_of_allocateAs (hk : k.Sound) {parent : ProcessId} {status : ProcessStatus}
    (h : k.allocateAs parent status = .ok (id, k')) (hslot : k.table.free.head? = some slot) :
    ∃ p', k'.table.records[slot]? = some p' ∧ p'.id = id := by
  obtain ⟨head, rest, space, machine, hfree, -, -, rfl⟩ := allocateAs_cases h
  rw [hfree, List.head?_cons, Option.some.injEq] at hslot
  subst hslot
  obtain ⟨p, hp, -⟩ := (hk.tables.mem_free_iff head).1 (hfree ▸ List.mem_cons_self)
  refine ⟨fresh _ parent status space, ?_, rfl⟩
  change (k.table.modify head _).records[head]? = _
  rw [ProcessTable.getElem?_modify, if_pos rfl, hp]
  rfl

lemma lastId_eq (hp : k.table.records[slot]? = some p) : k.table.lastId slot = p.id := by
  rw [ProcessTable.lastId, hp]

end Kernel

namespace Operation

open Kernel (Course)

variable {k k' : Kernel} {op : Operation} {id : ProcessId} {p p' : Process} {slot : Nat}

/-- A step of a record keeps its identity, or stamps one that the operation issues. -/
lemma Alters.sameId (h : op.Alters k slot p p') :
    p'.id = p.id ∨ op.issue? k = some (slot, p'.id) := by
  cases h with
  | called hcur hcalls hsaved hp h =>
    cases h with
    | setStatus =>
      rw [Kernel.withStatus]
      split
      · exact .inl rfl
      · split <;> exact .inl rfl
    | yield => left; dsimp only; split <;> rfl
    | _ => exact .inl rfl
  | made hfree hp hissue hs => exact .inr hissue
  | _ => exact .inl rfl

/-- Who lives after a step, did so before it under the same name, or has been given its identity. -/
lemma Alters.live (h : op.Alters k slot p p') (hlive : p'.status.isLive) :
    p.status.isLive ∧ p'.id = p.id ∨ op.issue? k = some (slot, p'.id) := by
  have hid := h.sameId
  cases h with
  | made hfree hp hissue hs => exact .inr hissue
  | called hcur hcalls hsaved hp h => exact hid.imp_left (⟨(Kernel.live?_eq_some_iff.1 hp).2.2, ·⟩)
  | dispatched hready houtcome => exact hid.imp_left (⟨Kernel.isLive_of_dispatchable hready, ·⟩)
  | paused hcause hcur hrun hres => exact .inl ⟨by rw [hrun]; rfl, rfl⟩
  | loaded hheld hok hissue => exact .inl ⟨by rw [hheld]; rfl, rfl⟩
  | doomed | cleared => cases hlive
  | _ => exact .inl ⟨hlive, rfl⟩

/-- What an operation issues, follows the last identity of a slot that was free. -/
lemma issue?_next (h : op.issue? k = some (slot, id)) :
    id = (k.table.lastId slot).next slot ∧ slot ∈ k.table.free := by
  cases op with
  | spawn image =>
    rw [issue?] at h
    split at h
    · exact Kernel.issue?_eq_some h
    · cases h
  | allocate parent => exact Kernel.issue?_eq_some h
  | trap cpu f =>
    obtain ⟨s, -, h⟩ := Option.bind_eq_some_iff.1 h
    split at h
    · exact Kernel.issue?_eq_some h
    · cases h
  | destroy | schedule | latch | store => cases h

/-- The record of a slot keeps its identity. -/
def SameId (_ : Nat) (p p' : Process) : Prop := p'.id = p.id

lemma ends_sameId : Kernel.Ends SameId := ⟨fun _ _ _ => rfl, fun _ _ _ => rfl⟩

lemma record_of_sameId (h : Course SameId k k')
    (hp : ∃ p, k.table.records[slot]? = some p ∧ p.id = id) :
    ∃ p', k'.table.records[slot]? = some p' ∧ p'.id = id := by
  obtain ⟨p, hp, hid⟩ := hp
  obtain ⟨p', hp', -⟩ := h.steps slot p hp
  refine ⟨p', hp', h.induct (P := fun q => q.id = id) hp' (fun q hq => ?_)
    fun q q' hstep hq => hstep.trans hq⟩
  rw [hp] at hq
  cases hq
  exact hid

/-- What comes of a process that was made to run a program keeps all identities. -/
lemma spawn_sameId {image : Image} {k₁ : Kernel} (hloadable : image.isLoadable = true)
    (hmade : k.allocateAs .self .notRunnable = .ok (id, k₁)) :
    Course SameId k₁ (k.spawn image).2 := by
  have hload : Course SameId k₁ (k₁.load id image).2 := Kernel.course_load fun _ _ _ _ => rfl
  rw [Kernel.spawn, if_pos hloadable, hmade]
  dsimp only
  split
  · next e k₂ heq =>
    rw [heq] at hload
    exact hload.trans (Kernel.course_free ends_sameId)
  · next k₂ heq =>
    rw [heq] at hload
    refine hload.trans (Course.trans (.modify id.slot _ rfl fun p _ => .single ?_)
      (.quiet (Kernel.quiet_log _ _)))
    rfl

/-- So does what comes of a child. -/
lemma exofork_sameId {k₁ : Kernel} (cpu : Nat) {s : ProcessId} {p : Process}
    (hp : k.live? s = some p) (hmade : k.allocateAs s .notRunnable = .ok (id, k₁)) :
    Course SameId k₁ (k.execute cpu s .exofork).2 := by
  have hget : k.table.get s = .ok p := by
    rw [Kernel.live?] at hp
    rw [ProcessTable.get, hp]
  rw [Kernel.execute, Kernel.exofork, hget]
  change Course SameId k₁ (k.answer (k.allocateAs s .notRunnable >>= _)).2
  rw [hmade]
  refine Course.trans (.modify id.slot (fun q => { q with frame := p.frame.withResult 0 }) rfl
    fun q _ => .single ?_) (.quiet (Kernel.quiet_log _ _))
  rfl

/-- **An operation stamps what it issues** on the slot. -/
lemma record_of_issue? (hk : k.Sound) (h : op.issue? k = some (slot, id)) :
    ∃ p', (op.apply k).table.records[slot]? = some p' ∧ p'.id = id := by
  cases op with
  | spawn image =>
    rw [issue?] at h
    split at h
    · next hloadable =>
      obtain ⟨⟨k₁, hmade⟩, hslot⟩ := Kernel.allocateAs_of_issue? h
      exact record_of_sameId (spawn_sameId hloadable hmade)
        (Kernel.record_of_allocateAs hk hmade hslot)
    · cases h
  | allocate parent =>
    obtain ⟨⟨k₁, hmade⟩, hslot⟩ := Kernel.allocateAs_of_issue? h
    refine record_of_sameId ?_ (Kernel.record_of_allocateAs hk hmade hslot)
    rw [apply, Kernel.allocate, hmade]
    exact .quiet (Kernel.quiet_log _ _)
  | trap cpu f =>
    obtain ⟨s, hcur, h⟩ := Option.bind_eq_some_iff.1 h
    split at h
    · next hcalls =>
      obtain ⟨k₁, p, request, hsaved, hp, -, hres, htrap⟩ := Kernel.trap_call hk hcur hcalls
      obtain ⟨p₀, hp₀⟩ := Option.isSome_iff_exists.1 hcalls.2.1
      rw [← hsaved.issue?] at h
      obtain ⟨⟨k₂, hmade⟩, hslot⟩ := Kernel.allocateAs_of_issue? h
      refine record_of_sameId ?_ (Kernel.record_of_allocateAs (hsaved.sound hk hp₀) hmade hslot)
      have hfork := exofork_sameId cpu hp hmade
      rw [apply, htrap]
      exact (hfork.trans (Kernel.course_conclude ends_sameId fun _ _ _ => rfl)).trans
        (Kernel.course_leave ends_sameId (fun _ _ _ => rfl) fun _ _ _ _ => rfl)
    · cases h
  | destroy | schedule | latch | store => cases h

/-- Whoever is in a slot after an operation has its last name, or one that the operation issues. -/
lemma id_or_issue? (hk : k.Sound) (hp' : (op.apply k).table.records[slot]? = some p') :
    p'.id = k.table.lastId slot ∨ op.issue? k = some (slot, p'.id) :=
  (op.course hk).induct (P := fun q => q.id = k.table.lastId slot ∨
      op.issue? k = some (slot, q.id)) hp' (fun _ hp => .inl (Kernel.lastId_eq hp).symm)
    fun _ _ hstep hq => hstep.sameId.elim (fun heq => heq ▸ hq) .inr

/-- **What an operation issues, it stamps on the slot**, and it stamps nothing else. -/
lemma issue?_iff (hk : k.Sound) : op.issue? k = some (slot, id) ↔
    (op.apply k).table.lastId slot = id ∧ k.table.lastId slot ≠ id := by
  constructor
  · intro h
    obtain ⟨p', hp', hid⟩ := record_of_issue? hk h
    refine ⟨(Kernel.lastId_eq hp').trans hid, ?_⟩
    rw [(issue?_next h).1]
    exact (ProcessId.next_ne _ slot).symm
  · rintro ⟨rfl, hne⟩
    cases hp' : (op.apply k).table.records[slot]? with
    | none =>
      -- there is no such slot, before or after
      have hout : k.table.records[slot]? = none := by
        rw [Array.getElem?_eq_none_iff] at hp' ⊢
        rwa [← (op.course hk).capacity]
      rw [ProcessTable.lastId, ProcessTable.lastId, hp', hout] at hne
      exact absurd rfl hne
    | some p' =>
      rw [Kernel.lastId_eq hp'] at hne ⊢
      exact (id_or_issue? hk hp').resolve_left hne.symm

/-- The slot of a process that an operation ends holds nobody, under the same name. -/
lemma record_of_gone {t : ProcessId} (hk : k.Sound) (hlive : (k.live? t).isSome)
    (hgone : (op.apply k).live? t = none) :
    ∃ p', (op.apply k).table.records[t.slot]? = some p' ∧ p'.id = t ∧ ¬ p'.status.isLive := by
  obtain ⟨p, hp⟩ := Option.isSome_iff_exists.1 hlive
  obtain ⟨hrec, hid, hs⟩ := Kernel.live?_eq_some_iff.1 hp
  obtain ⟨p', hp', -⟩ := (op.course hk).steps _ p hrec
  rcases id_or_issue? hk hp' with hsame | hissue
  · rw [Kernel.lastId_eq hrec, hid] at hsame
    refine ⟨p', hp', hsame, fun hlive' => ?_⟩
    rw [Kernel.live?_eq_some_iff.2 ⟨hp', hsame, hlive'⟩] at hgone
    cases hgone
  · -- the slot was in use, so it was not given to anybody else
    obtain ⟨q, hq, hfree⟩ := (hk.tables.mem_free_iff t.slot).1 (issue?_next hissue).2
    rw [hrec] at hq
    cases hq
    exact absurd hfree (ProcessStatus.ne_free_of_isLive hs)

end Operation

/-! ### Any run -/

/-- The identities that a slot issues in a row of transitions, in their order. -/
def issues (slot : Nat) (es : List Transition) : List ProcessId :=
  es.filterMap fun e =>
    (e.op.issue? e.before).bind fun (other, id) => if other = slot then some id else none

lemma issues_append (slot : Nat) (es es' : List Transition) :
    issues slot (es ++ es') = issues slot es ++ issues slot es' :=
  List.filterMap_append ..

namespace History

variable {config : Config} {frames : Nat} {k k' : Kernel} {es : List Transition} {slot : Nat}

/-- What a slot issues in one transition: nothing, or what follows its last identity. -/
lemma issues_singleton (hk : k.Sound) (op : Operation) :
    issues slot [⟨k, op⟩] = [] ∧ (op.apply k).table.lastId slot = k.table.lastId slot ∨
      issues slot [⟨k, op⟩] = [(k.table.lastId slot).next slot] ∧
        (op.apply k).table.lastId slot = (k.table.lastId slot).next slot := by
  by_cases h : ∃ id, op.issue? k = some (slot, id)
  · obtain ⟨id, hid⟩ := h
    refine .inr ⟨?_, ?_⟩
    · simp [issues, hid, (op.issue?_next hid).1]
    · rw [((op.issue?_iff hk).1 hid).1, (op.issue?_next hid).1]
  · refine .inl ⟨?_, ?_⟩
    · cases hop : op.issue? k with
      | none => simp [issues, hop]
      | some r =>
        have hne : r.1 ≠ slot := fun heq => h ⟨r.2, by rw [hop, ← heq]⟩
        simp [issues, hop, hne]
    · by_contra hne
      exact h ⟨_, (op.issue?_iff hk).2 ⟨rfl, Ne.symm hne⟩⟩

/-- **A slot issues one identity after another**, and the last one is stamped on it. -/
lemma issues_eq (h : History k es k') (hk : Reachable config frames k) (slot : Nat) :
    issues slot es = (List.range (issues slot es).length).map
        (fun i => (fun id => ProcessId.next id slot)^[i + 1] (k.table.lastId slot)) ∧
      k'.table.lastId slot =
        (fun id => ProcessId.next id slot)^[(issues slot es).length] (k.table.lastId slot) := by
  induction h with
  | nil => exact ⟨rfl, rfl⟩
  | snoc hhist op hlegal ih =>
    rw [issues_append]
    rcases issues_singleton (hhist.reachable hk).sound op with
      ⟨hnone, hlast⟩ | ⟨hone, hlast⟩
    · rw [hnone, List.append_nil, hlast]
      exact ih
    · rw [hone, hlast, ih.2, List.length_append, List.length_singleton, List.range_succ,
        List.map_append, ← ih.1, List.map_singleton, Function.iterate_succ_apply']
      exact ⟨rfl, rfl⟩

/-- The identity that a slot issues as number `i`. -/
lemma issues_getElem? (h : History k es k') (hk : Reachable config frames k) {i : Nat}
    {id : ProcessId} (hid : (issues slot es)[i]? = some id) :
    id = (fun id => ProcessId.next id slot)^[i + 1] (k.table.lastId slot) := by
  have hlt := (List.getElem?_eq_some_iff.1 hid).1
  rw [(h.issues_eq hk slot).1, List.getElem?_map, List.getElem?_range hlt] at hid
  exact (Option.some.inj hid).symm

/-- **Nobody comes back to life**: who lives in a slot that held nobody, has been given its identity
since. -/
lemma revived (h : History k es k') (hk : Reachable config frames k) {p p' : Process}
    (hp : k.table.records[slot]? = some p) (hdead : ¬ p.status.isLive)
    (hp' : k'.table.records[slot]? = some p') (hlive : p'.status.isLive) :
    ∃ e ∈ es, e.op.issue? e.before = some (slot, p'.id) := by
  induction h generalizing p' with
  | nil =>
    rw [hp] at hp'
    cases hp'
    exact absurd hlive hdead
  | @snoc es₁ k₁ hhist op hlegal ih =>
    have hk₁ := (hhist.reachable hk).sound
    refine (op.course hk₁).induct (P := fun q => q.status.isLive →
      ∃ e ∈ es₁ ++ [⟨k₁, op⟩], e.op.issue? e.before = some (slot, q.id)) hp' (fun q hq hlive => ?_)
      (fun q q' hstep hq hlive => ?_) hlive
    · obtain ⟨e, he, hissue⟩ := ih hq hlive
      exact ⟨e, List.mem_append_left _ he, hissue⟩
    · rcases hstep.live hlive with ⟨hlive, hid⟩ | hissue
      · exact hid ▸ hq hlive
      · exact ⟨_, List.mem_append_right _ (List.mem_singleton.2 rfl), hissue⟩

/-- **An identity whose process is gone** is nobody's, until its slot has come round to it again. -/
lemma gone (h : History k es k') (hk : Reachable config frames k) {t : ProcessId} {p : Process}
    (hp : k.table.records[t.slot]? = some p) (hid : p.id = t) (hdead : ¬ p.status.isLive)
    (hfew : (issues t.slot es).length < ProcessId.period) : k'.live? t = none := by
  rw [Option.eq_none_iff_forall_ne_some]
  intro p' hp'
  obtain ⟨hrec, hid', hlive⟩ := Kernel.live?_eq_some_iff.1 hp'
  obtain ⟨e, he, hissue⟩ := h.revived hk hp hdead hrec hlive
  have hmem : p'.id ∈ issues t.slot es :=
    List.mem_filterMap.2 ⟨e, he, by simp [hissue]⟩
  obtain ⟨n, hn⟩ := Nat.exists_eq_succ_of_ne_zero (Nat.ne_of_gt (List.length_pos_of_mem hmem))
  have hlast := (h.issues_eq hk t.slot).2
  rw [Kernel.lastId_eq hrec, Kernel.lastId_eq hp, hid, hid', hn] at hlast
  exact ProcessId.iterate_next_ne t t.slot (by rwa [hn] at hfew) hlast.symm

/-- The slot that a history issues an identity from is one that identities can name. -/
lemma slot_lt_of_mem (h : History k es k') (hk : Reachable config frames k) {id : ProcessId}
    (hid : id ∈ issues slot es) : slot < ProcessId.slotCount := by
  obtain ⟨e, he, hissue⟩ := List.mem_filterMap.1 hid
  obtain ⟨⟨other, id'⟩, hother, hslot⟩ := Option.bind_eq_some_iff.1 hissue
  dsimp only at hslot
  split at hslot
  · next heq =>
    subst heq
    obtain ⟨es₁, es₂, rfl⟩ := List.append_of_mem he
    obtain ⟨hbefore, -, -⟩ := h.split
    have ht := (hbefore.reachable hk).sound.tables
    obtain ⟨p, hp, -⟩ := (ht.mem_free_iff other).1 (e.op.issue?_next hother).2
    exact Nat.lt_of_lt_of_le (Array.getElem?_eq_some_iff.1 hp).1 ht.small
  · cases hslot

end History

/-- **What identities are worth.** In any run, what an operation issues is what it stamps on a slot
that had another name before. An identity that is issued is not the one that stands for whoever is
asking, is positive as a signed number, and names its slot; and a slot issues the same identity
twice if and only if a multiple of `2 ^ 19 - 1` allocations lies in between. So whoever asks for a
process that is gone is refused, with and without a check of the family, until the slot has come
round to its identity again; and no two live processes have one name. -/
theorem identities_unique {config : Config} {frames : Nat} {k k' : Kernel} {es : List Transition}
    (hk : Reachable config frames k) (h : History k es k') :
    (∀ e ∈ es, ∀ slot id, e.op.issue? e.before = some (slot, id) ↔
      e.after.table.lastId slot = id ∧ e.before.table.lastId slot ≠ id) ∧
    (∀ slot, ∀ id ∈ issues slot es, id ≠ .self ∧ id.raw.toNat < 2 ^ 31 ∧ id.slot = slot) ∧
    (∀ slot i j id id', i ≤ j → (issues slot es)[i]? = some id → (issues slot es)[j]? = some id' →
      (id = id' ↔ 2 ^ 19 - 1 ∣ j - i)) ∧
    (∀ es₁ e es₂ t, es = es₁ ++ e :: es₂ → (e.before.live? t).isSome → e.after.live? t = none →
      (issues t.slot es₂).length < 2 ^ 19 - 1 → k'.table.get t = .error .badProcess ∧
        ∀ caller related, k'.resolve caller t related = .error .badProcess) ∧
    (∀ (slot slot' : Nat) (p p' : Process), k'.table.records[slot]? = some p →
      k'.table.records[slot']? = some p' → p.status.isLive → p'.status.isLive → p.id = p'.id →
      slot = slot') := by
  have hk' := (h.reachable hk).sound
  refine ⟨fun e he slot id => ?_, fun slot id hid => ?_, fun slot i j id id' hij hi hj => ?_,
    fun es₁ e es₂ t hes hlive hgone hfew => ?_, fun slot slot' p p' hp hp' hlive hlive' hid => ?_⟩
  · obtain ⟨es₁, es₂, rfl⟩ := List.append_of_mem he
    obtain ⟨hbefore, hlegal, -⟩ := h.split
    exact e.op.issue?_iff (hbefore.reachable hk).sound
  · obtain ⟨i, hi⟩ := List.mem_iff_getElem?.1 hid
    rw [h.issues_getElem? hk hi]
    exact ProcessId.iterate_next_bounds _ (h.slot_lt_of_mem hk hid) i
  · rw [h.issues_getElem? hk hi, h.issues_getElem? hk hj]
    exact ProcessId.iterate_next_inj _ slot hij
  · subst hes
    obtain ⟨hbefore, hlegal, hafter⟩ := h.split
    have hreach := hbefore.reachable hk
    obtain ⟨p, hp, hid, hdead⟩ := e.op.record_of_gone hreach.sound hlive hgone
    have hnone : k'.table.find? t = none :=
      hafter.gone (hreach.step e.op hlegal) hp hid hdead hfew
    -- the identity is not the one that stands for whoever is asking
    have hself : t.isSelf = false := by
      obtain ⟨q, hq⟩ := Option.isSome_iff_exists.1 hlive
      obtain ⟨hrec, hqid, hqs⟩ := Kernel.live?_eq_some_iff.1 hq
      have hne := (hreach.sound.tables.sound _ q hrec).id_ne (ProcessStatus.ne_free_of_isLive hqs)
      rw [hqid] at hne
      exact decide_eq_false hne
    refine ⟨by rw [ProcessTable.get, hnone], fun caller related => ?_⟩
    rw [Kernel.resolve, ProcessTable.resolve, hself, hnone]
    rfl
  · have hslot := (hk'.tables.sound slot p hp).slot_eq (ProcessStatus.ne_free_of_isLive hlive)
    have hslot' := (hk'.tables.sound slot' p' hp').slot_eq (ProcessStatus.ne_free_of_isLive hlive')
    rw [← hslot, ← hslot', hid]

/-- A process is destroyed and its slot is given to another one. Whoever asks for the first one is
refused, although the slot is in use. -/
theorem identities_unique_reused : ∃ (k k' : Kernel) (es : List Transition),
    Reachable { maxProcesses := 2 } 16 k ∧ History k es k' ∧
    issues 0 es = [ProcessId.self.next 0, (ProcessId.self.next 0).next 0] ∧
    (k'.live? ((ProcessId.self.next 0).next 0)).isSome ∧
    ∀ caller related, k'.resolve caller (ProcessId.self.next 0) related = .error .badProcess := by
  have hboot : Reachable { maxProcesses := 2 } 16 _ := .boot rfl (.refl _) rfl
  have hbegin : ∀ {k : Kernel}, Reachable { maxProcesses := 2 } 16 k → History k [] k :=
    fun _ => .nil
  have hhist := (((hbegin hboot).snoc (.spawn ⟨⟨0⟩, []⟩) trivial).snoc
    (.destroy 0 (ProcessId.self.next 0)) trivial).snoc (.spawn ⟨⟨0⟩, []⟩) trivial
  obtain ⟨-, -, -, hgone, -⟩ := identities_unique hboot hhist
  obtain ⟨-, hrefused⟩ := hgone [_] _ [_] (ProcessId.self.next 0) rfl (by decide +kernel)
    (by decide +kernel) (by decide +kernel)
  exact ⟨_, _, _, hboot, hhist, by decide +kernel, by decide +kernel, hrefused⟩

end Exokernel
