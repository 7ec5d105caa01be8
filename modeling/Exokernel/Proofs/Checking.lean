/-
What the check of the tables accepts.

* `Snapshot.Indexed`: every row stands at its own place, as in the copies that the kernel makes;
* `Snapshot.Obeys`: what each rule asks of a snapshot, said without the check;
* `Snapshot.violations_of_rule`: the violations of a rule are those that its own part of the check
  finds;
* `Snapshot.freeListViolations_iff` and their like: each part finds nothing exactly if its rule is
  obeyed;
* `Snapshot.Kept`: the half of the residency rule that no part looks at, namely that a processor
  claims only a process whose row says that it is bound there;
* `Kernel.healthy`: a sound kernel obeys the rules, the half that is not looked at included;
* `checked_rules`: **a rule is reported exactly if it is broken**, and a snapshot is healthy exactly
  if nothing is reported and every claim is kept.
-/
import Exokernel.Proofs.Health

namespace Exokernel

namespace Snapshot

variable {s : Snapshot}

/-! ### What the rules ask -/

/-- Every row stands at its own place. -/
structure Indexed (s : Snapshot) : Prop where
  slot_eq : ∀ (i : Nat) (p : ProcessInfo), s.processes[i]? = some p → p.slot = i
  cpu_eq : ∀ (i : Nat) (c : CpuInfo), s.cpus[i]? = some c → c.cpu = i

/-- What a processor claims, if there is one of this number and it claims anything. -/
def claim? (s : Snapshot) (cpu : Nat) : Option ProcessId := s.cpus[cpu]?.bind (·.current)

/-- The free list names every free slot, no other, and none of them twice. -/
structure Listed (s : Snapshot) : Prop where
  nodup : s.freeSlots.Nodup
  inside : ∀ slot ∈ s.freeSlots, slot < s.processes.length
  mem_iff : ∀ p ∈ s.processes, p.slot ∈ s.freeSlots ↔ p.status = .free

/-- The identity of a live process is not zero and names its own slot. -/
def Named (s : Snapshot) : Prop :=
  ∀ p ∈ s.processes, p.status.isLive → p.id.raw ≠ 0 ∧ p.id.slot = p.slot

/-- No two processors claim one process, a bound process is claimed by its processor, and a running
process is bound. -/
structure Bound (s : Snapshot) : Prop where
  once : ∀ cpu cpu' id, s.claim? cpu = some id → s.claim? cpu' = some id → cpu = cpu'
  claimed : ∀ p ∈ s.processes, ∀ cpu, p.resident = some cpu → s.claim? cpu = some p.id
  running : ∀ p ∈ s.processes, p.status = .running → p.resident.isSome

/-- A live process has an address space, a free slot has none, and a dying process has one only
while it is bound. -/
structure Housed (s : Snapshot) : Prop where
  live : ∀ p ∈ s.processes, p.status.isLive → p.hasSpace
  free : ∀ p ∈ s.processes, p.status = .free → p.hasSpace = false
  dying : ∀ p ∈ s.processes, p.status = .dying → p.hasSpace → p.resident.isSome

/-- Who receives is blocked. -/
def Waiting (s : Snapshot) : Prop :=
  ∀ p ∈ s.processes, p.mailbox.receiving → p.status = .notRunnable

/-- What a rule asks of a snapshot. -/
def Obeys (s : Snapshot) : Rule → Prop
  | .freeList => s.Listed
  | .identity => s.Named
  | .residency => s.Bound
  | .spaceLifetime => s.Housed
  | .mailbox => s.Waiting

/-- **Every claim is kept**: what a processor claims is a process whose row says that it is bound
there. -/
def Kept (s : Snapshot) : Prop :=
  ∀ cpu id, s.claim? cpu = some id → ∃ p ∈ s.processes, p.id = id ∧ p.resident = some cpu

/-- **Healthy**: every rule is obeyed, and processes and processors agree both ways on who is bound
where. -/
structure Healthy (s : Snapshot) : Prop where
  obeys : ∀ rule, s.Obeys rule
  kept : s.Kept

/-! ### Rule by rule -/

lemma Indexed.slot_lt (h : s.Indexed) {p : ProcessInfo} (hp : p ∈ s.processes) :
    p.slot < s.processes.length := by
  obtain ⟨i, hi⟩ := List.getElem?_of_mem hp
  rw [h.slot_eq i p hi]
  exact (List.getElem?_eq_some_iff.1 hi).1

/-- A slot is in its place exactly if it is listed once when it is free and never when it is
not. -/
lemma slotViolations_iff {p : ProcessInfo} {times : Nat} :
    slotViolations p times = [] ↔ times ≤ 1 ∧ (0 < times ↔ p.status = .free) := by
  rw [slotViolations, List.append_eq_nil_iff, ite_eq_right_iff, ite_eq_right_iff]
  have hone : ¬times > 1 ↔ times ≤ 1 := Nat.not_lt
  simp only [List.cons_ne_nil, imp_false, hone, ne_eq, not_not, gt_iff_lt, eq_iff_iff,
    @Iff.comm (p.status = .free)]

/-- A list of slots of the table names none twice if it names none of the table's rows twice. -/
lemma Indexed.nodup_iff (h : s.Indexed) (hin : ∀ slot ∈ s.freeSlots, slot < s.processes.length) :
    s.freeSlots.Nodup ↔ ∀ p ∈ s.processes, s.freeSlots.count p.slot ≤ 1 := by
  rw [List.nodup_iff_count]
  refine ⟨fun hone p _ => hone p.slot, fun hone slot => ?_⟩
  by_cases hslot : slot ∈ s.freeSlots
  · have hget := List.getElem?_eq_getElem (hin slot hslot)
    have hrow := hone _ (List.mem_of_getElem? hget)
    rwa [h.slot_eq slot _ hget] at hrow
  · rw [List.count_eq_zero_of_not_mem hslot]
    exact Nat.zero_le 1

/-- **Nothing is wrong with the free list exactly if it names every free slot once**, and no
other. -/
lemma freeListViolations_iff (h : s.Indexed) : s.freeListViolations = [] ↔ s.Listed := by
  have hcount : ∀ p ∈ s.processes,
      (tally s.processes.length s.freeSlots).getD p.slot 0 = s.freeSlots.count p.slot :=
    fun p hp => tally_getD (h.slot_lt hp)
  have hinside : (s.freeSlots.filter (s.processes.length ≤ ·)).map Violation.strayFreeSlot = [] ↔
      ∀ slot ∈ s.freeSlots, slot < s.processes.length := by
    simp only [List.map_eq_nil_iff, List.filter_eq_nil_iff, decide_eq_true_eq, Nat.not_le]
  have hrows : (s.processes.flatMap fun p =>
      slotViolations p ((tally s.processes.length s.freeSlots).getD p.slot 0)) = [] ↔
      ∀ p ∈ s.processes, s.freeSlots.count p.slot ≤ 1 ∧
        (p.slot ∈ s.freeSlots ↔ p.status = .free) := by
    rw [List.flatMap_eq_nil_iff]
    refine forall₂_congr fun p hp => ?_
    rw [hcount p hp, slotViolations_iff, List.count_pos_iff]
  rw [freeListViolations, List.append_eq_nil_iff, hinside, hrows]
  constructor
  · rintro ⟨hin, hall⟩
    exact { nodup := (h.nodup_iff hin).2 fun p hp => (hall p hp).1
            inside := hin
            mem_iff := fun p hp => (hall p hp).2 }
  · intro hl
    exact ⟨hl.inside, fun p hp => ⟨(h.nodup_iff hl.inside).1 hl.nodup p hp, hl.mem_iff p hp⟩⟩

lemma identityViolations_iff : s.identityViolations = [] ↔ s.Named := by
  have hself : ∀ id : ProcessId, id.isSelf = true ↔ id.raw = 0 := fun id => by
    rw [ProcessId.isSelf, decide_eq_true_eq, ProcessId.self, ProcessId.mk.injEq]
  rw [identityViolations, List.map_eq_nil_iff, List.filter_eq_nil_iff]
  refine forall₂_congr fun p _ => ?_
  simp only [Bool.and_eq_true, Bool.or_eq_true, decide_eq_true_eq, hself, not_and, not_or, ne_eq,
    not_not]

/-- Two processors that claim the same are found, whichever comes first. -/
lemma sharedClaims_iff {cpus : List CpuInfo} : sharedClaims cpus = [] ↔
    cpus.Pairwise fun a b => ∀ id, a.current = some id → b.current ≠ some id := by
  induction cpus with
  | nil => simp [sharedClaims]
  | cons a rest ih =>
    rw [sharedClaims, List.append_eq_nil_iff, ih, List.pairwise_cons]
    refine and_congr_left fun _ => ?_
    cases hid : a.current with
    | none => simp
    | some id =>
      simp only [List.map_eq_nil_iff, List.filter_eq_nil_iff, decide_eq_true_eq,
        Option.some.injEq, forall_eq', ne_eq]

/-- No claim is shared exactly if no two places of the list claim one process. -/
lemma sharedClaims_once_iff : sharedClaims s.cpus = [] ↔
    ∀ cpu cpu' id, s.claim? cpu = some id → s.claim? cpu' = some id → cpu = cpu' := by
  have hclaim : ∀ cpu id, s.claim? cpu = some id ↔
      ∃ c, s.cpus[cpu]? = some c ∧ c.current = some id := fun cpu id => Option.bind_eq_some_iff
  rw [sharedClaims_iff, List.pairwise_iff_getElem]
  constructor
  · -- of two places, one comes first
    intro hpair
    have hlt : ∀ cpu cpu' id, cpu < cpu' → s.claim? cpu = some id → s.claim? cpu' ≠ some id := by
      intro cpu cpu' id hord hc hc'
      obtain ⟨c, hget, hid⟩ := (hclaim cpu id).1 hc
      obtain ⟨c', hget', hid'⟩ := (hclaim cpu' id).1 hc'
      obtain ⟨hi, rfl⟩ := List.getElem?_eq_some_iff.1 hget
      obtain ⟨hi', rfl⟩ := List.getElem?_eq_some_iff.1 hget'
      exact hpair cpu cpu' hi hi' hord id hid hid'
    intro cpu cpu' id hc hc'
    rcases Nat.lt_trichotomy cpu cpu' with hord | heq | hord
    · exact absurd hc' (hlt cpu cpu' id hord hc)
    · exact heq
    · exact absurd hc (hlt cpu' cpu id hord hc')
  · intro honce i j hi hj hord id hid hid'
    have hij := honce i j id ((hclaim i id).2 ⟨_, List.getElem?_eq_getElem hi, hid⟩)
      ((hclaim j id).2 ⟨_, List.getElem?_eq_getElem hj, hid'⟩)
    exact absurd hij (Nat.ne_of_lt hord)

/-- What a process says of its processor is right exactly if the processor claims it and it is
bound if it runs. -/
lemma residenceViolations_iff {p : ProcessInfo} : s.residenceViolations p = [] ↔
    (∀ cpu, p.resident = some cpu → s.claim? cpu = some p.id) ∧
    (p.status = .running → p.resident.isSome) := by
  rw [residenceViolations]
  cases p.resident with
  | none => simp
  | some cpu => simp [claim?]

lemma residencyViolations_iff : s.residencyViolations = [] ↔ s.Bound := by
  rw [residencyViolations, List.append_eq_nil_iff, sharedClaims_once_iff, List.flatMap_eq_nil_iff]
  simp only [residenceViolations_iff]
  constructor
  · rintro ⟨honce, hall⟩
    exact { once := honce
            claimed := fun p hp => (hall p hp).1
            running := fun p hp => (hall p hp).2 }
  · intro hb
    exact ⟨hb.once, fun p hp => ⟨hb.claimed p hp, hb.running p hp⟩⟩

lemma spaceViolations_iff : s.spaceViolations = [] ↔ s.Housed := by
  have hfits : ∀ p : ProcessInfo, spaceFits p = true ↔ (p.status.isLive → p.hasSpace) ∧
      (p.status = .free → p.hasSpace = false) ∧
      (p.status = .dying → p.hasSpace → p.resident.isSome) := fun p => by
    rw [spaceFits]
    cases p.status with
    | free => simp [ProcessStatus.isLive]
    | dying => simp [ProcessStatus.isLive, ← Bool.not_eq_true, imp_iff_not_or]
    | runnable | running | notRunnable => simp [ProcessStatus.isLive]
  rw [spaceViolations, List.map_eq_nil_iff, List.filter_eq_nil_iff]
  simp only [Bool.not_eq_true', Bool.not_eq_false, hfits]
  constructor
  · intro hall
    exact { live := fun p hp => (hall p hp).1
            free := fun p hp => (hall p hp).2.1
            dying := fun p hp => (hall p hp).2.2 }
  · intro hs p hp
    exact ⟨hs.live p hp, hs.free p hp, hs.dying p hp⟩

lemma mailboxViolations_iff : s.mailboxViolations = [] ↔ s.Waiting := by
  rw [mailboxViolations, List.map_eq_nil_iff, List.filter_eq_nil_iff]
  refine forall₂_congr fun p _ => ?_
  simp only [Bool.and_eq_true, decide_eq_true_eq, not_and, ne_eq, not_not]

/-! ### The report as a whole -/

/-- The part of the check that is about one rule. -/
def violationsOf (s : Snapshot) : Rule → List Violation
  | .freeList => s.freeListViolations
  | .identity => s.identityViolations
  | .residency => s.residencyViolations
  | .spaceLifetime => s.spaceViolations
  | .mailbox => s.mailboxViolations

lemma rule_slotViolations {p : ProcessInfo} {times : Nat} {v : Violation}
    (hv : v ∈ slotViolations p times) : v.rule = .freeList := by
  rcases List.mem_append.1 hv with h | h <;>
  · rw [List.mem_singleton.1 (List.mem_ite_nil_right.1 h).2]
    rfl

lemma rule_sharedClaims {cpus : List CpuInfo} {v : Violation} (hv : v ∈ sharedClaims cpus) :
    v.rule = .residency := by
  induction cpus with
  | nil => cases hv
  | cons a rest ih =>
    rcases List.mem_append.1 hv with hhere | hlater
    · cases hid : a.current with
      | none => simp [hid] at hhere
      | some id =>
        rw [hid] at hhere
        obtain ⟨b, -, rfl⟩ := List.mem_map.1 hhere
        rfl
    · exact ih hlater

lemma rule_residenceViolations {p : ProcessInfo} {v : Violation}
    (hv : v ∈ s.residenceViolations p) : v.rule = .residency := by
  rw [residenceViolations] at hv
  split at hv
  · rw [List.mem_singleton.1 (List.mem_ite_nil_left.1 hv).2]
    rfl
  · rw [List.mem_singleton.1 (List.mem_ite_nil_right.1 hv).2]
    rfl

/-- Each part of the check reports its own rule. -/
lemma rule_of_mem {rule : Rule} {v : Violation} (hv : v ∈ s.violationsOf rule) :
    v.rule = rule := by
  cases rule with
  | freeList =>
    rcases List.mem_append.1 hv with hstray | hrow
    · obtain ⟨slot, -, rfl⟩ := List.mem_map.1 hstray
      rfl
    · obtain ⟨p, -, hp⟩ := List.mem_flatMap.1 hrow
      exact rule_slotViolations hp
  | identity | spaceLifetime | mailbox =>
    obtain ⟨p, -, rfl⟩ := List.mem_map.1 hv
    rfl
  | residency =>
    rcases List.mem_append.1 hv with hshared | hrow
    · exact rule_sharedClaims hshared
    · obtain ⟨p, -, hp⟩ := List.mem_flatMap.1 hrow
      exact rule_residenceViolations hp

lemma mem_violations_iff {v : Violation} :
    v ∈ s.violations ↔ ∃ rule, v ∈ s.violationsOf rule := by
  simp only [violations, List.mem_append]
  constructor
  · rintro ((((h | h) | h) | h) | h)
    exacts [⟨.freeList, h⟩, ⟨.identity, h⟩, ⟨.residency, h⟩, ⟨.spaceLifetime, h⟩, ⟨.mailbox, h⟩]
  · rintro ⟨rule, h⟩
    cases rule with
    | freeList => exact .inl (.inl (.inl (.inl h)))
    | identity => exact .inl (.inl (.inl (.inr h)))
    | residency => exact .inl (.inl (.inr h))
    | spaceLifetime => exact .inl (.inr h)
    | mailbox => exact .inr h

/-- **The violations of a rule are those that its own part of the check finds.** -/
lemma violations_of_rule {rule : Rule} {v : Violation} :
    v ∈ s.violations ∧ v.rule = rule ↔ v ∈ s.violationsOf rule := by
  rw [mem_violations_iff]
  constructor
  · rintro ⟨⟨other, hv⟩, rfl⟩
    rwa [rule_of_mem hv]
  · exact fun hv => ⟨⟨rule, hv⟩, rule_of_mem hv⟩

/-- **Each part of the check finds nothing exactly if its rule is obeyed.** -/
lemma Indexed.violationsOf_iff (h : s.Indexed) (rule : Rule) :
    s.violationsOf rule = [] ↔ s.Obeys rule := by
  cases rule with
  | freeList => exact freeListViolations_iff h
  | identity => exact identityViolations_iff
  | residency => exact residencyViolations_iff
  | spaceLifetime => exact spaceViolations_iff
  | mailbox => exact mailboxViolations_iff

/-- Nothing is reported exactly if every rule is obeyed. -/
lemma Indexed.violations_iff (h : s.Indexed) : s.violations = [] ↔ ∀ rule, s.Obeys rule := by
  simp only [← h.violationsOf_iff, List.eq_nil_iff_forall_not_mem, mem_violations_iff, not_exists]
  exact forall_comm

end Snapshot

/-! ### The kernel's own copies -/

namespace Kernel

variable {k : Kernel}

/-- The copies that the kernel makes have every row at its place. -/
lemma snapshot_indexed (k : Kernel) : k.snapshot.Indexed where
  slot_eq i p hp := by
    simp only [snapshot, List.getElem?_mapIdx, Option.map_eq_some_iff] at hp
    obtain ⟨q, -, rfl⟩ := hp
    rfl
  cpu_eq i c hc := by
    simp only [snapshot, List.getElem?_mapIdx, Option.map_eq_some_iff] at hc
    obtain ⟨q, -, rfl⟩ := hc
    rfl

/-- **A sound kernel keeps its claims**, which the check does not look at. -/
lemma snapshot_kept (hk : k.Sound) : k.snapshot.Kept := by
  intro cpu id hclaim
  rw [Snapshot.claim?, current_cpus] at hclaim
  obtain ⟨p, hp, rfl, hres⟩ := (hk.tables.claim_iff cpu id).1 hclaim
  exact ⟨p.info p.id.slot, mem_processes_iff.2 ⟨_, p, hp, rfl⟩, rfl, hres⟩

/-- **A sound kernel is healthy in both directions.** -/
lemma healthy (hk : k.Sound) : k.snapshot.Healthy where
  obeys := (k.snapshot_indexed.violations_iff).1 (violations_nil hk)
  kept := snapshot_kept hk

end Kernel

/-! ### Any snapshot -/

/-- **A rule is reported exactly if it is broken.** Of a snapshot whose rows stand at their places,
the check names a rule among its violations exactly if the snapshot does not do what the rule asks.
It reports nothing exactly if every rule is obeyed; for a healthy snapshot every processor must
besides keep its claim, which is asked by no rule. -/
theorem checked_rules {s : Snapshot} (h : s.Indexed) :
    (∀ rule, (∃ v ∈ s.violations, v.rule = rule) ↔ ¬s.Obeys rule) ∧
    (s.violations = [] ↔ s.Listed ∧ s.Named ∧ s.Bound ∧ s.Housed ∧ s.Waiting) ∧
    (s.Healthy ↔ s.violations = [] ∧ s.Kept) := by
  refine ⟨fun rule => ?_, ?_, ?_⟩
  · simp only [Snapshot.violations_of_rule, ← h.violationsOf_iff]
    rw [List.eq_nil_iff_forall_not_mem, not_forall_not]
  · rw [h.violations_iff]
    constructor
    · intro hall
      exact ⟨hall .freeList, hall .identity, hall .residency, hall .spaceLifetime, hall .mailbox⟩
    · rintro ⟨hlisted, hnamed, hbound, hhoused, hwaiting⟩ rule
      cases rule <;> assumption
  · rw [h.violations_iff]
    exact ⟨fun hs => ⟨hs.obeys, hs.kept⟩, fun ⟨hobeys, hkept⟩ => ⟨hobeys, hkept⟩⟩

/-- A process that may run and is bound nowhere, on a machine whose processor claims it. -/
def Snapshot.adrift : Snapshot where
  processes := [{
    slot := 0
    id := ProcessId.self.next 0
    parent := .self
    status := .runnable
    hasSpace := true
    resident := none
    faultHandler := none
    mailbox := {}
    runs := 0 }]
  cpus := [{ cpu := 0, booted := true, current := some (ProcessId.self.next 0), traps := 0 }]
  freeSlots := []
  cursor := 0

lemma Snapshot.adrift_indexed (free : List Nat) :
    Snapshot.Indexed { adrift with freeSlots := free } where
  slot_eq i p hp := by
    obtain ⟨hi, rfl⟩ := List.getElem?_eq_some_iff.1 hp
    obtain rfl : i = 0 := Nat.lt_one_iff.1 hi
    rfl
  cpu_eq i c hc := by
    obtain ⟨hi, rfl⟩ := List.getElem?_eq_some_iff.1 hc
    obtain rfl : i = 0 := Nat.lt_one_iff.1 hi
    rfl

/-- A live process on the free list is reported, under the rule that it breaks. -/
theorem checked_rules_live_listed :
    Snapshot.Indexed { Snapshot.adrift with freeSlots := [0] } ∧
    ¬Snapshot.Listed { Snapshot.adrift with freeSlots := [0] } :=
  ⟨Snapshot.adrift_indexed [0],
    ((checked_rules (Snapshot.adrift_indexed [0])).1 .freeList).1 (by decide)⟩

/-- **A claim that is not kept goes unreported**: the process is bound nowhere, its processor claims
it, and the check finds nothing wrong. -/
theorem unreported_claim :
    Snapshot.adrift.Indexed ∧ Snapshot.adrift.violations = [] ∧ ¬Snapshot.adrift.Healthy := by
  refine ⟨Snapshot.adrift_indexed [], by decide, fun healthy => ?_⟩
  obtain ⟨p, hp, -, hres⟩ := healthy.kept 0 (ProcessId.self.next 0) rfl
  rw [List.mem_singleton.1 hp] at hres
  cases hres

end Exokernel
