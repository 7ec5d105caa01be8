/-
When the process table and the claims of the processors agree.

* `Process.Sound`: what a record has to do with its slot and its own status;
* `ProcessTable.Consistent`: every record is sound, the free slots are on the free list, each of
  them once, and a processor claims a process exactly if the process says that it is bound there;
* `Consistent.update`: what a change of one record may do;
* `Consistent.edit`, `Consistent.unbind`, `Consistent.bind`, `Consistent.clear`,
  `Consistent.occupy`: the changes that the kernel makes.
-/
import Mathlib.Tactic.Common
import Exokernel.Process.Table

namespace Exokernel

/-- **A record is sound in its slot**: a process has an identity that names the slot and an address
space, a free slot has no address space and is bound nowhere, who runs or dies is bound somewhere,
and who receives is blocked. -/
structure Process.Sound (p : Process) (slot : Nat) : Prop where
  slot_eq : p.status ≠ .free → p.id.slot = slot
  id_ne : p.status ≠ .free → p.id ≠ .self
  space_iff : p.space.isSome ↔ p.status ≠ .free
  idle : p.status = .free → p.resident = none
  bound : p.status = .running ∨ p.status = .dying → p.resident.isSome
  blocked : p.mailbox.receiving → p.status = .notRunnable

/-- The record of a slot that was cleared. -/
def Process.cleared (p : Process) : Process :=
  { p with status := .free, space := none, resident := none, faultHandler := none, mailbox := {} }

namespace ProcessTable

variable {t : ProcessTable} {claim claim' : Nat → Option ProcessId} {slot : Nat} {p : Process}
  {f : Process → Process}

/-- **The table and the claims agree.** -/
structure Consistent (t : ProcessTable) (claim : Nat → Option ProcessId) : Prop where
  small : t.capacity ≤ ProcessId.slotCount
  free_nodup : t.free.Nodup
  mem_free_iff : ∀ slot, slot ∈ t.free ↔
    ∃ p : Process, t.records[slot]? = some p ∧ p.status = .free
  sound : ∀ slot (p : Process), t.records[slot]? = some p → p.Sound slot
  claim_iff : ∀ cpu id, claim cpu = some id ↔
    ∃ p : Process, t.records[id.slot]? = some p ∧ p.id = id ∧ p.resident = some cpu

namespace Consistent

/-- Nothing matters but the records, the free list and the claims. -/
lemma congr {t' : ProcessTable} (h : t.Consistent claim) (hr : t'.records = t.records)
    (hf : t'.free = t.free) (hc : ∀ cpu, claim' cpu = claim cpu) : t'.Consistent claim' := by
  obtain ⟨records, free, cursor⟩ := t
  obtain ⟨records', free', cursor'⟩ := t'
  obtain rfl : records' = records := hr
  obtain rfl : free' = free := hf
  exact ⟨h.small, h.free_nodup, h.mem_free_iff, h.sound, fun cpu id => hc cpu ▸ h.claim_iff cpu id⟩

/-- A process that is bound somewhere is claimed there. -/
lemma claim_eq (h : t.Consistent claim) (hp : t.records[slot]? = some p) {cpu : Nat}
    (hres : p.resident = some cpu) : claim cpu = some p.id := by
  have hs : p.status ≠ .free := fun hfree => by
    rw [(h.sound slot p hp).idle hfree] at hres
    cases hres
  have hslot := (h.sound slot p hp).slot_eq hs
  exact (h.claim_iff cpu p.id).2 ⟨p, hslot ▸ hp, rfl, hres⟩

/-- In one slot, a processor claims what says that it is bound there. -/
lemma claim_iff_of_slot (h : t.Consistent claim) {cpu : Nat} {id : ProcessId}
    (hp : t.records[id.slot]? = some p) :
    claim cpu = some id ↔ p.id = id ∧ p.resident = some cpu := by
  rw [h.claim_iff, hp]
  constructor
  · rintro ⟨q, hq, hid, hres⟩
    cases hq
    exact ⟨hid, hres⟩
  · rintro ⟨hid, hres⟩
    exact ⟨p, rfl, hid, hres⟩

/-- **A change of one record** leaves table and claims in agreement if the new record is sound, and
if the free list and the claims follow. -/
lemma update (h : t.Consistent claim) (hp : t.records[slot]? = some p) {free : List Nat}
    (hsound : (f p).Sound slot) (hnodup : free.Nodup)
    (hfree : ∀ i, i ∈ free ↔ if slot = i then (f p).status = .free else i ∈ t.free)
    (hclaim : ∀ cpu id, claim' cpu = some id ↔
      if slot = id.slot then (f p).id = id ∧ (f p).resident = some cpu else claim cpu = some id) :
    ({ t.modify slot f with free } : ProcessTable).Consistent claim' := by
  have hget : ∀ i, (t.modify slot f).records[i]? =
      if slot = i then some (f p) else t.records[i]? := fun i => by
    rw [getElem?_modify]
    split
    · next hi => rw [← hi, hp]; rfl
    · rfl
  refine ⟨?_, hnodup, fun i => ?_, fun i q hq => ?_, fun cpu id => ?_⟩
  · exact Nat.le_trans (Nat.le_of_eq Array.size_modify) h.small
  · rw [hfree]
    change _ ↔ ∃ q, (t.modify slot f).records[i]? = some q ∧ q.status = .free
    rw [hget]
    split
    · exact ⟨fun hs => ⟨f p, rfl, hs⟩, fun ⟨q, hq, hs⟩ => by cases hq; exact hs⟩
    · exact h.mem_free_iff i
  · change (t.modify slot f).records[i]? = some q at hq
    rw [hget] at hq
    split at hq
    · next hi =>
      cases hq
      exact hi ▸ hsound
    · exact h.sound i q hq
  · rw [hclaim]
    change _ ↔ ∃ q, (t.modify slot f).records[id.slot]? = some q ∧ q.id = id ∧ _
    rw [hget]
    split
    · exact ⟨fun hs => ⟨f p, rfl, hs⟩, fun ⟨q, hq, hs⟩ => by cases hq; exact hs⟩
    · exact h.claim_iff cpu id

/-- A change of one record that keeps its slot in use, or free. -/
lemma amend (h : t.Consistent claim) (hp : t.records[slot]? = some p) (hsound : (f p).Sound slot)
    (hstatus : (f p).status = .free ↔ p.status = .free)
    (hclaim : ∀ cpu id, claim' cpu = some id ↔
      if slot = id.slot then (f p).id = id ∧ (f p).resident = some cpu else claim cpu = some id) :
    (t.modify slot f).Consistent claim' := by
  refine h.update hp hsound h.free_nodup (fun i => ?_) hclaim
  split
  · next hi =>
    rw [← hi, h.mem_free_iff, hp, hstatus]
    exact ⟨fun ⟨q, hq, hfree⟩ => by cases hq; exact hfree, fun hfree => ⟨p, rfl, hfree⟩⟩
  · rfl

/-- Claims in the slot of a record that changes. -/
lemma claim_iff_update (h : t.Consistent claim) (hp : t.records[slot]? = some p)
    (hid : (f p).id = p.id) (hres : (f p).resident = p.resident) (cpu : Nat) (id : ProcessId) :
    claim cpu = some id ↔
      if slot = id.slot then (f p).id = id ∧ (f p).resident = some cpu
      else claim cpu = some id := by
  split
  · next hslot =>
    rw [hid, hres]
    exact h.claim_iff_of_slot (hslot ▸ hp)
  · rfl

/-- **An edit** of a process leaves its identity and its processor alone. -/
lemma edit (h : t.Consistent claim) (hp : t.records[slot]? = some p) (hs : p.status ≠ .free)
    (hsound : (f p).Sound slot) (hid : (f p).id = p.id) (hres : (f p).resident = p.resident)
    (hstatus : (f p).status ≠ .free) : (t.modify slot f).Consistent claim :=
  h.amend hp hsound ⟨fun hfree => absurd hfree hstatus, fun hfree => absurd hfree hs⟩
    (h.claim_iff_update hp hid hres)

/-- **A processor gives up** a process that does not run. -/
lemma unbind (h : t.Consistent claim) (hp : t.records[slot]? = some p) (hlive : p.status.isLive)
    (hrun : p.status ≠ .running) {cpu : Nat} (hcpu : p.resident = some cpu)
    (hclaim : ∀ c, claim' c = if c = cpu then none else claim c) :
    (t.modify slot fun p => { p with resident := none }).Consistent claim' := by
  have hs : p.status ≠ .free := fun hfree => by rw [hfree] at hlive; cases hlive
  have hold := h.sound slot p hp
  have hdying : p.status ≠ .dying := fun hdie => by rw [hdie] at hlive; cases hlive
  refine h.amend hp ?_ .rfl fun c id => ?_
  · exact ⟨hold.slot_eq, hold.id_ne, hold.space_iff, fun _ => rfl,
      fun hb => absurd hb (not_or.2 ⟨hrun, hdying⟩), hold.blocked⟩
  · rw [hclaim]
    split
    · next hc =>
      -- the processor claimed this process, and so none in another slot
      have hthis : claim c = some p.id := hc ▸ h.claim_eq hp hcpu
      split
      · exact ⟨fun hn => (nomatch hn), fun hn => (nomatch hn.2)⟩
      · next hslot =>
        refine ⟨fun hn => (nomatch hn), fun hn => ?_⟩
        rw [hthis, Option.some.injEq] at hn
        exact absurd ((hold.slot_eq hs).symm.trans (congrArg ProcessId.slot hn)) hslot
    · next hc =>
      split
      · next hslot =>
        rw [h.claim_iff_of_slot (hslot ▸ hp), hcpu, Option.some.injEq]
        exact ⟨fun hn => absurd hn.2.symm hc, fun hn => (nomatch hn.2)⟩
      · rfl

/-- **A processor that claims nothing** is given a process that is ready and bound nowhere. -/
lemma bind (h : t.Consistent claim) (hp : t.records[slot]? = some p) (hready : p.dispatchable)
    {cpu : Nat} (hcpu : claim cpu = none)
    (hclaim : ∀ c, claim' c = if c = cpu then some p.id else claim c) :
    (t.modify slot fun p => { p with status := .running, resident := some cpu,
                                     runs := p.runs + 1 }).Consistent claim' := by
  simp only [Process.dispatchable, Bool.and_eq_true, decide_eq_true_eq] at hready
  obtain ⟨hrunnable, hnone⟩ := hready
  have hs : p.status ≠ .free := by simp [hrunnable]
  have hold := h.sound slot p hp
  have hslot := hold.slot_eq hs
  refine h.amend hp ?_ ⟨fun hfree => (nomatch hfree), fun hfree => absurd hfree hs⟩ fun c id => ?_
  · refine ⟨fun _ => hslot, fun _ => hold.id_ne hs, ?_, fun hfree => (nomatch hfree), fun _ => rfl,
      fun hrec => ?_⟩
    · exact ⟨fun _ hfree => (nomatch hfree), fun _ => hold.space_iff.2 hs⟩
    · have hblocked := hold.blocked hrec
      rw [hrunnable] at hblocked
      cases hblocked
  · rw [hclaim]
    split
    · next hc =>
      subst hc
      split
      · simp
      · next hne =>
        rw [hcpu, Option.some.injEq]
        exact ⟨fun hid => absurd (hid ▸ hslot.symm) hne, fun hn => nomatch hn⟩
    · next hc =>
      split
      · next hthis =>
        rw [h.claim_iff_of_slot (hthis ▸ hp), hnone, Option.some.injEq]
        exact ⟨fun hn => (nomatch hn.2), fun hn => absurd hn.2.symm hc⟩
      · rfl

/-- **A process goes**: its slot is free, and who had it bound claims nothing. -/
lemma clear (h : t.Consistent claim) (hp : t.records[slot]? = some p) (hs : p.status ≠ .free)
    (hclaim : ∀ c, claim' c = if p.resident = some c then none else claim c) :
    ({ t.modify slot Process.cleared with free := slot :: t.free } : ProcessTable).Consistent
      claim' := by
  have hold := h.sound slot p hp
  have hnot : slot ∉ t.free := fun hmem => by
    obtain ⟨q, hq, hfree⟩ := (h.mem_free_iff slot).1 hmem
    rw [hp] at hq
    cases hq
    exact hs hfree
  refine h.update hp ?_ (List.nodup_cons.2 ⟨hnot, h.free_nodup⟩) (fun i => ?_) (fun c id => ?_)
  · exact ⟨fun hn => absurd rfl hn, fun hn => absurd rfl hn, by simp [Process.cleared],
      fun _ => rfl, by simp [Process.cleared], by simp [Process.cleared]⟩
  · rw [List.mem_cons]
    split
    · next hi => simp [hi, Process.cleared]
    · next hi => exact ⟨fun hmem => hmem.resolve_left (Ne.symm hi), .inr⟩
  · rw [hclaim]
    split
    · next hc =>
      have hthis := h.claim_eq hp hc
      split
      · simp [Process.cleared]
      · next hne =>
        refine ⟨fun hn => (nomatch hn), fun hn => ?_⟩
        rw [hthis, Option.some.injEq] at hn
        exact absurd ((hold.slot_eq hs).symm.trans (congrArg ProcessId.slot hn)) hne
    · next hc =>
      split
      · next hthis =>
        rw [h.claim_iff_of_slot (hthis ▸ hp)]
        exact ⟨fun hn => absurd hn.2 hc, fun hn => (nomatch hn.2)⟩
      · rfl

/-- **A process comes**: the first free slot holds it, and it is bound nowhere. -/
lemma occupy (h : t.Consistent claim) {rest : List Nat} (hfree : t.free = slot :: rest)
    {q : Process} (hsound : q.Sound slot) (hstatus : q.status ≠ .free) (hres : q.resident = none) :
    ({ t.modify slot fun _ => q with free := rest } : ProcessTable).Consistent claim := by
  have hnodup := h.free_nodup
  rw [hfree, List.nodup_cons] at hnodup
  obtain ⟨p, hp, hs⟩ := (h.mem_free_iff slot).1 (hfree ▸ List.mem_cons_self)
  refine h.update hp hsound hnodup.2 (fun i => ?_) (fun c id => ?_)
  · split
    · next hi => exact ⟨fun hmem => absurd (hi ▸ hmem) hnodup.1, fun hc => absurd hc hstatus⟩
    · next hi =>
      rw [hfree, List.mem_cons]
      exact ⟨.inr, fun hmem => hmem.resolve_left (Ne.symm hi)⟩
  · split
    · next hthis =>
      rw [h.claim_iff_of_slot (hthis ▸ hp), (h.sound slot p hp).idle hs, hres]
      exact ⟨fun hn => (nomatch hn.2), fun hn => (nomatch hn.2)⟩
    · rfl

end Consistent

/-- A table of free slots agrees with processors that claim nothing. -/
lemma consistent_ofCapacity {capacity : Nat} (h : capacity ≤ ProcessId.slotCount)
    (hclaim : ∀ cpu, claim cpu = none) : (ofCapacity capacity).Consistent claim := by
  have hget : ∀ i (p : Process), (ofCapacity capacity).records[i]? = some p ↔
      i < capacity ∧ p = {} := fun i p => by
    rw [ofCapacity, Array.getElem?_replicate]
    split
    · next hi => simp [hi, eq_comm]
    · next hi => simp [hi]
  refine ⟨?_, List.nodup_range, fun i => ?_, fun i p hp => ?_, fun cpu id => ?_⟩
  · exact Nat.le_trans (Nat.le_of_eq Array.size_replicate) h
  · rw [ofCapacity, List.mem_range]
    change _ ↔ ∃ p, (ofCapacity capacity).records[i]? = some p ∧ _
    exact ⟨fun hi => ⟨{}, (hget i {}).2 ⟨hi, rfl⟩, rfl⟩, fun ⟨p, hp, _⟩ => ((hget i p).1 hp).1⟩
  · obtain ⟨-, rfl⟩ := (hget i p).1 hp
    exact ⟨fun hn => absurd rfl hn, fun hn => absurd rfl hn, by simp, fun _ => rfl, by simp,
      by simp⟩
  · rw [hclaim]
    refine ⟨fun hn => (nomatch hn), fun ⟨p, hp, _, hres⟩ => ?_⟩
    obtain ⟨-, rfl⟩ := (hget _ p).1 hp
    cases hres

end ProcessTable

end Exokernel
