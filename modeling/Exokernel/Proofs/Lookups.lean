/-
Two ways to look a process up.

* `Kernel.process?_eq_some_iff`, `Kernel.processInfo?_eq_some_iff`: what a copy of the tables tells
  of an identity, and what the kernel does;
* `Kernel.unclaimed_iff`: a processor claims a process that is not live exactly if the process is
  dying there;
* `lookups_agree`: **both tell the same of everybody who is live**, and differ only about who was
  destroyed and is not given up yet;
* `lookups_differ`: they do differ about one of these.
-/
import Exokernel.Proofs.Endings

namespace Exokernel

namespace Kernel

variable {k : Kernel} {id : ProcessId} {p : Process} {row : ProcessInfo} {cpu : Nat} {f : TrapFrame}

/-! ### Either lookup -/

/-- A copy of the tables tells of every process that takes up a slot. -/
lemma process?_eq_some_iff : k.snapshot.process? id = some row ↔ ∃ p : Process,
    k.table.records[id.slot]? = some p ∧ p.id = id ∧ p.status ≠ .free ∧ p.info id.slot = row := by
  rw [Snapshot.process?, snapshot, Option.filter_eq_some_iff, List.getElem?_mapIdx,
    Array.getElem?_toList]
  cases k.table.records[id.slot]? with
  | none => simp
  | some p =>
    simp only [Option.map_some, Option.some.injEq, decide_eq_true_eq, exists_eq_left']
    constructor
    · rintro ⟨rfl, hid, hs⟩
      exact ⟨hid, hs, rfl⟩
    · rintro ⟨hid, hs, rfl⟩
      exact ⟨rfl, hid, hs⟩

/-- The kernel tells of every live process. -/
lemma processInfo?_eq_some_iff : k.processInfo? id = some row ↔ ∃ p : Process,
    k.table.records[id.slot]? = some p ∧ p.id = id ∧ p.status.isLive ∧ p.info id.slot = row := by
  rw [processInfo?, Option.map_eq_some_iff]
  simp only [live?_eq_some_iff, and_assoc]

/-- The kernel tells what the copy tells, but of nobody who is dying. -/
lemma processInfo?_iff : k.processInfo? id = some row ↔
    k.snapshot.process? id = some row ∧ row.status ≠ .dying := by
  have hlive : ∀ p : Process, p.status.isLive ↔ p.status ≠ .free ∧ p.status ≠ .dying := fun p => by
    cases p.status <;> decide
  rw [processInfo?_eq_some_iff, process?_eq_some_iff]
  constructor
  · rintro ⟨p, hrec, hid, hl, rfl⟩
    obtain ⟨hfree, hdying⟩ := (hlive p).1 hl
    exact ⟨⟨p, hrec, hid, hfree, rfl⟩, hdying⟩
  · rintro ⟨⟨p, hrec, hid, hfree, rfl⟩, hdying⟩
    exact ⟨p, hrec, hid, (hlive p).2 ⟨hfree, hdying⟩, rfl⟩

/-- So they differ exactly about who is dying. -/
lemma process?_ne_processInfo?_iff : k.snapshot.process? id ≠ k.processInfo? id ↔
    ∃ row, k.snapshot.process? id = some row ∧ row.status = .dying := by
  constructor
  · intro hne
    by_contra hnone
    refine hne (Option.ext fun row => ?_)
    rw [processInfo?_iff]
    exact ⟨fun h => ⟨h, fun hs => hnone ⟨row, h, hs⟩⟩, And.left⟩
  · rintro ⟨row, hrow, hs⟩ heq
    exact (processInfo?_iff.1 (heq ▸ hrow)).2 hs

/-! ### Who is dying -/

/-- **A processor claims a process that is not live** exactly if the process is dying there. -/
lemma unclaimed_iff (hk : k.Sound) : k.current? cpu = some id ∧ k.live? id = none ↔
    ∃ p : Process, k.table.records[id.slot]? = some p ∧ p.id = id ∧ p.status = .dying ∧
      p.resident = some cpu := by
  constructor
  · rintro ⟨hcur, hgone⟩
    obtain ⟨p, hrec, hid, hres⟩ := (hk.tables.claim_iff cpu id).1 hcur
    refine ⟨p, hrec, hid, ?_, hres⟩
    cases hs : p.status with
    | dying => rfl
    | free =>
      rw [(hk.tables.sound _ p hrec).idle hs] at hres
      cases hres
    | runnable | running | notRunnable =>
      rw [live?_eq_some_iff.2 ⟨hrec, hid, by rw [hs]; rfl⟩] at hgone
      cases hgone
  · rintro ⟨p, hrec, hid, hs, hres⟩
    exact ⟨(hk.tables.claim_iff cpu id).2 ⟨p, hrec, hid, hres⟩,
      live?_eq_none hrec (by rw [hs]; nofun)⟩

/-- Whoever a copy of the tables tells of as dying is claimed by a processor. -/
lemma process?_dying_iff (hk : k.Sound) :
    (∃ row, k.snapshot.process? id = some row ∧ row.status = .dying) ↔
      ∃ cpu, k.current? cpu = some id ∧ k.live? id = none := by
  simp only [unclaimed_iff hk]
  constructor
  · rintro ⟨row, hrow, hs⟩
    obtain ⟨p, hrec, hid, -, rfl⟩ := process?_eq_some_iff.1 hrow
    obtain ⟨cpu, hres⟩ := Option.isSome_iff_exists.1
      ((hk.tables.sound _ p hrec).bound (.inr hs))
    exact ⟨cpu, p, hrec, hid, hs, hres⟩
  · rintro ⟨cpu, p, hrec, hid, hs, -⟩
    exact ⟨p.info id.slot,
      process?_eq_some_iff.2 ⟨p, hrec, hid, by rw [hs]; nofun, rfl⟩, hs⟩

/-- Nobody is found in a free slot. -/
lemma lookups_of_free (hrec : k.table.records[id.slot]? = some p) (hs : p.status = .free) :
    k.snapshot.process? id = none ∧ k.processInfo? id = none := by
  have hnone : k.snapshot.process? id = none := by
    refine Option.eq_none_iff_forall_ne_some.2 fun row hrow => ?_
    obtain ⟨q, hq, -, hnot, -⟩ := process?_eq_some_iff.1 hrow
    rw [hrec] at hq
    cases hq
    exact hnot hs
  refine ⟨hnone, Option.eq_none_iff_forall_ne_some.2 fun row hrow => ?_⟩
  rw [(processInfo?_iff.1 hrow).1] at hnone
  cases hnone

end Kernel

/-- **Both lookups tell the same of everybody who is live.** The kernel tells of a process what a
copy of the tables tells, unless the process is dying. So the two differ exactly about a process
that some processor still claims although it is not live: the copy tells of it, and the kernel does
not. They do so until the next trap of that processor, but for exceptions inside the kernel, and
from then on neither tells of it. -/
theorem lookups_agree {config : Config} {frames : Nat} {k : Kernel} (h : Reachable config frames k)
    (id : ProcessId) :
    (∀ row, k.processInfo? id = some row ↔
      k.snapshot.process? id = some row ∧ row.status ≠ .dying) ∧
    (k.snapshot.process? id ≠ k.processInfo? id ↔
      ∃ cpu, k.current? cpu = some id ∧ k.live? id = none) ∧
    ∀ cpu, k.current? cpu = some id → k.live? id = none → ∃ row,
      row.status = .dying ∧ row.resident = some cpu ∧
      ∀ k', Run (fun _ op => ¬ op.Wakes cpu) k k' →
        k'.snapshot.process? id = some row ∧ k'.processInfo? id = none ∧
        ∀ f, (Operation.trap cpu f).Wakes cpu →
          (k'.trap cpu f).2.snapshot.process? id = none ∧
          (k'.trap cpu f).2.processInfo? id = none := by
  have hk := h.sound
  refine ⟨fun row => Kernel.processInfo?_iff, ?_, fun cpu hcur hgone => ?_⟩
  · rw [Kernel.process?_ne_processInfo?_iff, Kernel.process?_dying_iff hk]
  · obtain ⟨p, hrec, hid, hs, hres⟩ := (Kernel.unclaimed_iff hk).1 ⟨hcur, hgone⟩
    refine ⟨p.info id.slot, hs, hres, fun k' hrun => ?_⟩
    have hreach := hrun.reachable h
    have hrec' := hrun.record_dying h hrec hs hres
    refine ⟨Kernel.process?_eq_some_iff.2 ⟨p, hrec', hid, by rw [hs]; nofun, rfl⟩, ?_,
      fun f hwakes => ?_⟩
    · rw [Kernel.processInfo?, Kernel.live?_eq_none hrec' (by rw [hs]; nofun)]
      rfl
    · obtain ⟨q, hq, hfree⟩ :=
        Kernel.trap_vacates hreach.sound hreach.loaded hrec' hid hs hres hwakes.2
      exact Kernel.lookups_of_free hq hfree

/-- A process that runs on one processor is destroyed by another, and the first then traps. -/
theorem lookups_agree_elsewhere : ∃ (k : Kernel) (f : TrapFrame),
    Reachable { maxProcesses := 2, cpus := 2 } 16 k ∧
    k.snapshot.process? (ProcessId.self.next 0) ≠ k.processInfo? (ProcessId.self.next 0) ∧
    (k.trap 0 f).2.snapshot.process? (ProcessId.self.next 0) =
      (k.trap 0 f).2.processInfo? (ProcessId.self.next 0) := by
  have hboot : Reachable { maxProcesses := 2, cpus := 2 } 16 _ := .boot rfl (.refl _) rfl
  have hreach := ((hboot.step (.spawn ⟨⟨0⟩, []⟩) trivial).step (.schedule 0) rfl).step
    (.destroy 1 (ProcessId.self.next 0)) trivial
  obtain ⟨-, hdiffer, huntil⟩ := lookups_agree hreach (ProcessId.self.next 0)
  obtain ⟨row, -, -, hrun⟩ := huntil 0 (by decide +kernel) (by decide +kernel)
  obtain ⟨-, -, hwoken⟩ := hrun _ .refl
  obtain ⟨hcopy, hkernel⟩ := hwoken (.initial 0) ⟨rfl, .inl rfl⟩
  exact ⟨_, .initial 0, hreach, hdiffer.2 ⟨0, by decide +kernel, by decide +kernel⟩,
    hcopy.trans hkernel.symm⟩

/-- **The lookups do not agree** about a process that another processor has destroyed. -/
theorem lookups_differ : ∃ (k : Kernel) (id : ProcessId) (row : ProcessInfo),
    Reachable { maxProcesses := 2, cpus := 2 } 16 k ∧ k.snapshot.process? id = some row ∧
    row.status = .dying ∧ k.processInfo? id = none := by
  have hboot : Reachable { maxProcesses := 2, cpus := 2 } 16 _ := .boot rfl (.refl _) rfl
  have hreach := ((hboot.step (.spawn ⟨⟨0⟩, []⟩) trivial).step (.schedule 0) rfl).step
    (.destroy 1 (ProcessId.self.next 0)) trivial
  exact ⟨_, ProcessId.self.next 0, _, hreach, rfl, rfl, rfl⟩

end Exokernel
