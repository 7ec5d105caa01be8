/-
The tables of the kernel are healthy between any two operations.

* `Snapshot.tally_getD`: the free list is counted right;
* `Kernel.freeListViolations_nil`, `Kernel.residencyViolations_nil` and their like: a sound kernel
  obeys each of the rules;
* `Kernel.violations_nil`: a sound kernel has nothing wrong with it;
* `reachable_healthy`: **nothing is wrong in any reachable state**, and processes and processors
  agree on who is bound where.
-/
import Exokernel.Proofs.Runs
import Exokernel.Snapshot.Health

namespace Exokernel

namespace Snapshot

variable {slots i : Nat} {free : List Nat}

/-- How often each slot was counted, beginning with what was counted before. -/
lemma foldl_modify_getD (counts : Array Nat) (hi : i < counts.size) :
    (free.foldl (fun counts slot => counts.modify slot (· + 1)) counts).getD i 0 =
      counts.getD i 0 + free.count i := by
  induction free generalizing counts with
  | nil => simp
  | cons slot free ih =>
    have hone : (counts.modify slot (· + 1)).getD i 0 =
        counts.getD i 0 + if slot = i then 1 else 0 := by
      simp only [Array.getD_eq_getD_getElem?, Array.getElem?_modify]
      split
      · simp [hi]
      · simp
    rw [List.foldl_cons, ih _ (by rwa [Array.size_modify]), hone, List.count_cons]
    simp only [beq_iff_eq]
    omega

/-- **The free list is counted right.** -/
lemma tally_getD (hi : i < slots) : (tally slots free).getD i 0 = free.count i := by
  have hstart : (Array.replicate slots 0).getD i 0 = 0 := by
    simp [Array.getD_eq_getD_getElem?, hi]
  rw [tally, foldl_modify_getD _ (by rwa [Array.size_replicate]), hstart, Nat.zero_add]

/-- No claim is shared if no two processors claim the same. -/
lemma sharedClaims_nil {cpus : List CpuInfo}
    (h : cpus.Pairwise fun a b => ∀ id, a.current = some id → b.current ≠ some id) :
    sharedClaims cpus = [] := by
  induction h with
  | nil => rfl
  | @cons a rest ha _ ih =>
    rw [sharedClaims, ih, List.append_nil]
    cases hid : a.current with
    | none => rfl
    | some id =>
      simp only [List.map_eq_nil_iff, List.filter_eq_nil_iff, decide_eq_true_eq]
      exact fun b hb => ha b hb id hid

end Snapshot

namespace Kernel

variable {k : Kernel}

/-! ### The rows of a snapshot -/

/-- The rows of a snapshot are those of the table. -/
lemma mem_processes_iff {row : ProcessInfo} : row ∈ k.snapshot.processes ↔
    ∃ (slot : Nat) (p : Process), k.table.records[slot]? = some p ∧ row = p.info slot := by
  simp only [snapshot, List.mem_mapIdx, Array.getElem?_eq_some_iff]
  constructor
  · rintro ⟨slot, hslot, rfl⟩
    exact ⟨slot, _, ⟨by simpa using hslot, rfl⟩, rfl⟩
  · rintro ⟨slot, p, ⟨hslot, rfl⟩, rfl⟩
    exact ⟨slot, by simpa using hslot, rfl⟩

lemma length_processes : k.snapshot.processes.length = k.table.capacity := by
  simp [snapshot, ProcessTable.capacity]

/-- The row of a processor says what the processor claims. -/
lemma current_cpus (cpu : Nat) :
    k.snapshot.cpus[cpu]?.bind (·.current) = k.current? cpu := by
  simp only [snapshot, current?, List.getElem?_mapIdx, Array.getElem?_toList]
  cases k.cpus[cpu]? <;> rfl

/-! ### Rule by rule -/

/-- **The free list** names every free slot once, and no other. -/
lemma count_free (hk : k.Sound) {slot : Nat} {p : Process}
    (hp : k.table.records[slot]? = some p) :
    k.table.free.count slot = if p.status = .free then 1 else 0 := by
  have hmem : slot ∈ k.table.free ↔ p.status = .free := by
    rw [hk.tables.mem_free_iff, hp]
    exact ⟨fun ⟨q, hq, hs⟩ => by cases hq; exact hs, fun hs => ⟨p, rfl, hs⟩⟩
  rw [hk.tables.free_nodup.count]
  simp only [hmem]

lemma freeListViolations_nil (hk : k.Sound) : k.snapshot.freeListViolations = [] := by
  have hin : ∀ slot ∈ k.table.free, slot < k.table.capacity := fun slot hslot => by
    obtain ⟨p, hp, -⟩ := (hk.tables.mem_free_iff slot).1 hslot
    exact (Array.getElem?_eq_some_iff.1 hp).1
  rw [Snapshot.freeListViolations, length_processes, List.append_eq_nil_iff]
  constructor
  · rw [List.map_eq_nil_iff, List.filter_eq_nil_iff]
    intro slot hslot
    have hlt := hin slot (List.mem_reverse.1 hslot)
    simpa using hlt
  · rw [List.flatMap_eq_nil_iff]
    intro row hrow
    obtain ⟨slot, p, hp, rfl⟩ := mem_processes_iff.1 hrow
    have hlt : slot < k.table.capacity := (Array.getElem?_eq_some_iff.1 hp).1
    have hcount : (Snapshot.tally k.table.capacity k.snapshot.freeSlots).getD slot 0 =
        if p.status = .free then 1 else 0 := by
      rw [Snapshot.tally_getD hlt, snapshot, List.count_reverse, count_free hk hp]
    change Snapshot.slotViolations (p.info slot) (Array.getD _ slot 0) = []
    rw [hcount, Snapshot.slotViolations, Process.info]
    split
    · next hs => simp [hs]
    · next hs => simp [hs]

/-- A live process has an identity of its own, which names its slot. -/
lemma identityViolations_nil (hk : k.Sound) : k.snapshot.identityViolations = [] := by
  rw [Snapshot.identityViolations, List.map_eq_nil_iff, List.filter_eq_nil_iff]
  intro row hrow hbad
  obtain ⟨slot, p, hp, rfl⟩ := mem_processes_iff.1 hrow
  rw [Bool.and_eq_true, Bool.or_eq_true] at hbad
  obtain ⟨hlive, hself | hslot⟩ := hbad
  · rw [ProcessId.isSelf, decide_eq_true_eq] at hself
    exact (hk.tables.sound slot p hp).id_ne (ProcessStatus.ne_free_of_isLive hlive) hself
  · exact of_decide_eq_true hslot
      ((hk.tables.sound slot p hp).slot_eq (ProcessStatus.ne_free_of_isLive hlive))

/-- **No process is claimed twice.** -/
lemma claimed_once (hk : k.Sound) {cpu cpu' : Nat} {id : ProcessId}
    (h : k.current? cpu = some id) (h' : k.current? cpu' = some id) : cpu = cpu' := by
  obtain ⟨p, hp, -, hres⟩ := (hk.tables.claim_iff cpu id).1 h
  obtain ⟨p', hp', -, hres'⟩ := (hk.tables.claim_iff cpu' id).1 h'
  rw [hp] at hp'
  cases hp'
  exact Option.some.inj (hres.symm.trans hres')

lemma sharedClaims_nil (hk : k.Sound) : Snapshot.sharedClaims k.snapshot.cpus = [] := by
  refine Snapshot.sharedClaims_nil (List.pairwise_iff_getElem.2 ?_)
  intro i j hi hj hij id hid hid'
  have hclaim : ∀ cpu (h : cpu < k.snapshot.cpus.length), k.snapshot.cpus[cpu].current = some id →
      k.current? cpu = some id := fun cpu h hcur => by
    rw [← current_cpus, List.getElem?_eq_getElem h]
    exact hcur
  exact absurd (claimed_once hk (hclaim i hi hid) (hclaim j hj hid')) (Nat.ne_of_lt hij)

lemma residencyViolations_nil (hk : k.Sound) : k.snapshot.residencyViolations = [] := by
  rw [Snapshot.residencyViolations, sharedClaims_nil hk, List.nil_append, List.flatMap_eq_nil_iff]
  intro row hrow
  obtain ⟨slot, p, hp, rfl⟩ := mem_processes_iff.1 hrow
  rw [Snapshot.residenceViolations]
  simp only [Process.info, current_cpus]
  cases hres : p.resident with
  | none =>
    have hrun : p.status ≠ .running := fun hrun => by
      have hsome := (hk.tables.sound slot p hp).bound (.inl hrun)
      rw [hres] at hsome
      cases hsome
    exact if_neg hrun
  | some cpu => exact if_pos (hk.tables.claim_eq hp hres)

lemma spaceViolations_nil (hk : k.Sound) : k.snapshot.spaceViolations = [] := by
  rw [Snapshot.spaceViolations, List.map_eq_nil_iff, List.filter_eq_nil_iff]
  intro row hrow
  obtain ⟨slot, p, hp, rfl⟩ := mem_processes_iff.1 hrow
  have hsound := hk.tables.sound slot p hp
  simp only [Snapshot.spaceFits, Process.info]
  cases hs : p.status with
  | free =>
    have hnone : p.space.isSome ≠ true := fun hsome => hsound.space_iff.1 hsome hs
    simpa using hnone
  | dying =>
    have hres := hsound.bound (.inr hs)
    simp [hres]
  | runnable | running | notRunnable =>
    have hsome : p.space.isSome := hsound.space_iff.2 (by rw [hs]; nofun)
    simp [hsome]

/-- Who receives is blocked. -/
lemma mailboxViolations_nil (hk : k.Sound) : k.snapshot.mailboxViolations = [] := by
  rw [Snapshot.mailboxViolations, List.map_eq_nil_iff, List.filter_eq_nil_iff]
  intro row hrow hbad
  obtain ⟨slot, p, hp, rfl⟩ := mem_processes_iff.1 hrow
  obtain ⟨hrec, hawake⟩ := Bool.and_eq_true_iff.1 hbad
  exact of_decide_eq_true hawake ((hk.tables.sound slot p hp).blocked hrec)

/-- **A sound kernel is healthy.** -/
lemma violations_nil (hk : k.Sound) : k.snapshot.violations = [] := by
  rw [Snapshot.violations, freeListViolations_nil hk, identityViolations_nil hk,
    residencyViolations_nil hk, spaceViolations_nil hk, mailboxViolations_nil hk]
  rfl

end Kernel

/-! ### Any reachable state -/

/-- **Between any two operations the tables are healthy.** A processor claims a process exactly if
its record says that it is bound there, which only a live or a dying process does; no process is
claimed twice; and the free list names every free slot exactly once, and no other. -/
theorem reachable_healthy {config : Config} {frames : Nat} {k : Kernel}
    (h : Reachable config frames k) :
    k.snapshot.violations = [] ∧
    (∀ cpu id, k.current? cpu = some id ↔
      ∃ p : Process, k.table.records[id.slot]? = some p ∧ p.id = id ∧ p.resident = some cpu ∧
        (p.status.isLive ∨ p.status = .dying)) ∧
    (∀ (slot : Nat) (p : Process) (cpu : Nat), k.table.records[slot]? = some p →
      p.resident = some cpu → p.id.slot = slot ∧ k.current? cpu = some p.id) ∧
    (∀ cpu cpu' id, k.current? cpu = some id → k.current? cpu' = some id → cpu = cpu') ∧
    ∀ (slot : Nat) (p : Process), k.table.records[slot]? = some p →
      k.table.free.count slot = if p.status = .free then 1 else 0 := by
  have hk := h.sound
  have hstatus : ∀ (slot : Nat) (p : Process) (cpu : Nat), k.table.records[slot]? = some p →
      p.resident = some cpu → p.status ≠ .free := fun slot p cpu hp hres hs => by
    rw [(hk.tables.sound slot p hp).idle hs] at hres
    cases hres
  refine ⟨Kernel.violations_nil hk, fun cpu id => ?_, fun slot p cpu hp hres => ?_,
    fun cpu cpu' id => Kernel.claimed_once hk, fun slot p => Kernel.count_free hk⟩
  · rw [hk.tables.claim_iff]
    constructor
    · rintro ⟨p, hp, hid, hres⟩
      refine ⟨p, hp, hid, hres, ?_⟩
      have hs := hstatus _ p cpu hp hres
      cases hcase : p.status with
      | free => exact absurd hcase hs
      | dying => exact .inr rfl
      | runnable | running | notRunnable => exact .inl rfl
    · rintro ⟨p, hp, hid, hres, -⟩
      exact ⟨p, hp, hid, hres⟩
  · exact ⟨(hk.tables.sound slot p hp).slot_eq (hstatus slot p cpu hp hres),
      hk.tables.claim_eq hp hres⟩

/-- A machine on which a program runs is healthy. -/
theorem reachable_healthy_running : ∃ k : Kernel, Reachable { maxProcesses := 2 } 16 k ∧
    k.current? 0 = some (ProcessId.self.next 0) ∧ k.snapshot.violations = [] := by
  have hboot : Reachable { maxProcesses := 2 } 16 _ := .boot rfl (.refl _) rfl
  have hspawn := hboot.step (.spawn ⟨⟨0⟩, []⟩) trivial
  have hrun := hspawn.step (.schedule 0) rfl
  exact ⟨_, hrun, rfl, (reachable_healthy hrun).1⟩

end Exokernel
