/-
Runs of the kernel.

* `Operation`: what the kernel may be asked to do, and what user code and its faults do in between;
* `Operation.Legal`: a processor asks for something to run only if it claims nothing;
* `Reachable`: the states that a kernel reaches between operations, once all its processors have
  joined in;
* `Run`: a run from one state to another by operations of some kind;
* `Kernel.bootAll_induct`, `Kernel.record_start`: processors join a fresh kernel one by one, and at
  first there are no processes;
* `Operation.induct`: what every move keeps, every operation keeps;
* `Operation.numbers`, `Operation.separate`: an operation makes one address space at most, and keeps
  address spaces apart if the next number is free;
* `Reachable.sound`: **every reachable state is sound**;
* `Reachable.fixtures`: the windows and the frames are those of the machine at the start.
-/
import Exokernel.Bench
import Exokernel.Proofs.Kernel.Separate

namespace Exokernel

/-- One operation of a run. -/
inductive Operation where
  | spawn (image : Image)
  | allocate (parent : ProcessId)
  | destroy (cpu : Nat) (id : ProcessId)
  | trap (cpu : Nat) (f : TrapFrame)
  | schedule (cpu : Nat)
  /-- A processor keeps the address of a page fault, just before it traps. -/
  | latch (cpu : Nat) (va : VirtAddr)
  /-- User code writes through the pages of an address space. -/
  | store (s : Nat) (va : VirtAddr) (data : List UInt8)

namespace Operation

/-- What an operation needs: a processor that asks for something to run claims nothing. -/
def Legal (k : Kernel) : Operation → Prop
  | .schedule cpu => k.current? cpu = none
  | _ => True

/-- The kernel after an operation. What fails leaves behind what it did until then. -/
def apply (k : Kernel) : Operation → Kernel
  | .spawn image => (k.spawn image).2
  | .allocate parent =>
    match k.allocate parent with
    | .error _ => k
    | .ok (_, k) => k
  | .destroy cpu id =>
    match k.destroy cpu id with
    | .error _ => k
    | .ok (_, k) => k
  | .trap cpu f => (k.trap cpu f).2
  | .schedule cpu => (k.schedule cpu).2
  | .latch cpu va => { k with machine := k.machine.latchFault cpu va }
  | .store s va data => { k with machine := (k.machine.userWrite s va data).2 }

end Operation

/-- A state between two operations of a kernel that was made for a configuration, on a machine with
so many frames, and whose processors have all joined in, in any order. -/
inductive Reachable (config : Config) (frames : Nat) : Kernel → Prop where
  | boot {k₀ k : Kernel} {order : List Nat}
      (hcreate : Kernel.create (.ofSize config.cpus frames) config = .ok k₀)
      (horder : order.Perm (List.range config.cpus)) (hboot : Bench.bootAll order k₀ = .ok k) :
      Reachable config frames k
  | step {k : Kernel} (h : Reachable config frames k) (op : Operation) (hlegal : op.Legal k) :
      Reachable config frames (op.apply k)

/-- A run from state `k` to another, by operations of which `P` holds in the state that they are
done in. -/
inductive Run (P : Kernel → Operation → Prop) (k : Kernel) : Kernel → Prop where
  | refl : Run P k k
  | step {k' : Kernel} (h : Run P k k') (op : Operation) (hlegal : op.Legal k') (hop : P k' op) :
      Run P k (op.apply k')

/-! ### The start -/

namespace Kernel

variable {k k' : Kernel} {config : Config} {m : Machine}

/-- A kernel is made of a valid configuration. -/
lemma create_ok (h : create m config = .ok k) : config.check = .ok () ∧ k.machine = m ∧
    k.table = .ofCapacity config.maxProcesses ∧ ∀ cpu, k.current? cpu = none := by
  rw [create] at h
  split at h
  · cases h
  · next hcheck =>
    cases h
    refine ⟨hcheck, rfl, rfl, fun cpu => ?_⟩
    rw [current?, Array.getElem?_replicate]
    split <;> rfl

/-- A table is no larger than identities can name. -/
lemma maxProcesses_le (h : config.check = .ok ()) : config.maxProcesses ≤ ProcessId.slotCount := by
  rw [Config.check] at h
  split at h
  · cases h
  · split at h
    · cases h
    · next hle => exact Nat.not_lt.1 hle

/-- A fresh table holds no process. -/
lemma record_of_create (h : create m config = .ok k) {slot : Nat} {p : Process}
    (hp : k.table.records[slot]? = some p) : p = {} := by
  obtain ⟨-, -, htable, -⟩ := create_ok h
  rw [htable, ProcessTable.ofCapacity, Array.getElem?_replicate] at hp
  split at hp
  · exact (Option.some.inj hp).symm
  · cases hp

/-- **A fresh kernel is sound.** -/
lemma create_sound {frames : Nat} (h : create (.ofSize config.cpus frames) config = .ok k) :
    k.Sound := by
  obtain ⟨hcheck, hmachine, htable, hclaim⟩ := create_ok h
  have haccounted : k.machine.Accounted [] [] := by
    rw [hmachine]
    exact Machine.accounted_ofSize ..
  refine ⟨?_, haccounted.settled⟩
  rw [htable]
  exact ProcessTable.consistent_ofCapacity (maxProcesses_le hcheck) hclaim

/-- A fresh kernel has no address spaces. -/
lemma create_separate {frames : Nat} {n : UInt32}
    (h : create (.ofSize config.cpus frames) config = .ok k) : k.Separate n := by
  obtain ⟨-, hmachine, -, -⟩ := create_ok h
  have hempty : ∀ (slot : Nat) (p : Process), k.table.records[slot]? = some p → p.space = none :=
    fun slot p hp => by rw [record_of_create h hp]
  refine ⟨⟨fun slot p s hp hs => ?_, fun s hs => ?_, fun slot slot' p p' s hp hp' hs => ?_⟩, ?_,
    fun _ => ?_⟩
  · rw [hempty slot p hp] at hs
    cases hs
  · rw [hmachine] at hs
    cases hs
  · rw [hempty slot p hp] at hs
    cases hs
  · rw [hmachine]
    exact Machine.accounted_ofSize ..
  · rw [hmachine]
    rfl

/-- A processor that claims nothing joins in quietly. -/
lemma quiet_boot {cpu : Nat} (hnone : k.current? cpu = none) (h : k.boot cpu = .ok k') :
    k.Quiet k' := by
  have hboot : k.Quiet (k.modifyCpu cpu fun c => { c with booted := true, current := none }) := by
    refine .of_processors rfl rfl (fun c => ?_) rfl rfl rfl Array.size_modify rfl
    rw [current?_modifyCpu]
    split
    · next hc =>
      rw [← hc, hnone]
      cases k.cpus[cpu]? <;> rfl
    · rfl
  rw [boot] at h
  split at h
  · cases h
    exact (hboot.trans (quiet_unload ((hboot.current cpu).trans hnone))).trans (quiet_log _ _)
  · cases h

/-- **What is kept when one processor joins in** is kept when they all do. -/
lemma bootAll_induct {P : Kernel → Prop} {order : List Nat} (h : Bench.bootAll order k = .ok k')
    (hP : P k) (hboot : ∀ k₁ cpu k₂, P k₁ → k₁.boot cpu = .ok k₂ → P k₂) : P k' := by
  induction order generalizing k with
  | nil =>
    cases h
    exact hP
  | cons cpu order ih =>
    rw [Bench.bootAll] at h
    split at h
    · cases h
    · next k₁ hjoined => exact ih h (hboot k cpu k₁ hP hjoined)

lemma quiet_bootAll {order : List Nat} (hnone : ∀ cpu, k.current? cpu = none)
    (h : Bench.bootAll order k = .ok k') : k.Quiet k' :=
  bootAll_induct h (.refl k) fun _ cpu _ hquiet hboot =>
    hquiet.trans (quiet_boot ((hquiet.current cpu).trans (hnone cpu)) hboot)

section Start

variable {k₀ : Kernel} {order : List Nat} (hcreate : create m config = .ok k₀)
  (hboot : Bench.bootAll order k₀ = .ok k)
include hcreate hboot

/-- **Processors join a fresh kernel quietly**: it claims nothing on any of them. -/
lemma quiet_start : k₀.Quiet k :=
  quiet_bootAll (create_ok hcreate).2.2.2 hboot

/-- At first there are no processes. -/
lemma record_start {slot : Nat} {p : Process} (hp : k.table.records[slot]? = some p) : p = {} := by
  rw [(quiet_start hcreate hboot).records] at hp
  exact record_of_create hcreate hp

/-- At first the machine shows what it showed when the kernel was made. -/
lemma mapping?_start (s page : Nat) : k.machine.mapping? s page = m.mapping? s page := by
  rw [(quiet_start hcreate hboot).mapping?, (create_ok hcreate).2.1]

end Start

end Kernel

/-! ### One operation -/

namespace Operation

variable {k : Kernel} {op : Operation}

/-- Making an embryo comes to its place in the table at most. -/
lemma allocate_moves {A : Kernel.Deed → Prop} (hquiet : A .quiet)
    (hmake : A (.make none k.machine.spaces.nextId)) (parent : ProcessId) :
    Kernel.Moves A k (apply k (.allocate parent)) := by
  rw [apply]
  split
  · exact .refl
  · next hmade => exact Kernel.allocate_moves hquiet hmake hmade

lemma destroy_moves (hk : k.Sound) (cpu : Nat) (id : ProcessId) :
    Kernel.Moves (k.DestroyDeed cpu id) k (apply k (.destroy cpu id)) := by
  rw [apply]
  split
  · exact .refl
  · next hgone => exact Kernel.destroy_moves hk hgone

/-- An operation of the kernel is a row of moves, which make no address space but the next one. -/
lemma moves (hk : k.Sound) (hlegal : op.Legal k) :
    Kernel.Moves (Kernel.Deed.Numbered k.machine.spaces.nextId) k (op.apply k) ∨
      (∃ cpu va, op = .latch cpu va) ∨ ∃ s va data, op = .store s va data := by
  cases op with
  | spawn image =>
    exact .inl ((Kernel.spawn_moves hk image).mono fun _ => Kernel.SpawnDeed.numbered)
  | allocate parent => exact .inl (allocate_moves (A := Kernel.Deed.Numbered _) trivial rfl parent)
  | destroy cpu id =>
    exact .inl ((destroy_moves hk cpu id).mono fun _ => Kernel.DestroyDeed.numbered)
  | trap cpu f => exact .inl (Kernel.trap_moves hk)
  | schedule cpu => exact .inl (Kernel.schedule_moves hlegal trivial fun _ => trivial)
  | latch cpu va => exact .inr (.inl ⟨cpu, va, rfl⟩)
  | store s va data => exact .inr (.inr ⟨s, va, data, rfl⟩)

/-- **What every move keeps**, and what user code and its faults keep, every operation keeps. -/
lemma induct {P : Kernel → Prop} (hk : k.Sound) (hlegal : op.Legal k) (hP : P k)
    (hmove : ∀ k₁ d k₂, k₁.Sound → d.Numbered k.machine.spaces.nextId → P k₁ → k₁.Move d k₂ → P k₂)
    (hlatch : ∀ cpu va, P (apply k (.latch cpu va)))
    (hstore : ∀ s va data, P (apply k (.store s va data))) : P (op.apply k) := by
  rcases op.moves hk hlegal with hmoves | ⟨cpu, va, rfl⟩ | ⟨s, va, data, rfl⟩
  · exact (hmoves.induct (P := fun k₁ => k₁.Sound ∧ P k₁) ⟨hk, hP⟩
      fun k₁ d k₂ hk₁ hd h => ⟨h.sound hk₁.1, hmove k₁ d k₂ hk₁.1 hd hk₁.2 h⟩).2
  · exact hlatch cpu va
  · exact hstore s va data

/-- **An operation keeps a kernel sound.** -/
lemma sound (hk : k.Sound) (hlegal : op.Legal k) : (op.apply k).Sound :=
  op.induct hk hlegal hk (fun _ _ _ hk₁ _ _ hmove => hmove.sound hk₁)
    (fun _ _ => ⟨hk.tables, .settled (hk.accounted.congr rfl rfl rfl)⟩)
    fun _ _ data => ⟨hk.tables, .settled (hk.accounted.writePieces _ data)⟩

/-- **An operation keeps address spaces apart**, if the next one that is made gets a number that is
free. -/
lemma separate (hk : k.Sound) (hlegal : op.Legal k)
    (hs : k.Separate k.machine.spaces.nextId) :
    (op.apply k).Separate k.machine.spaces.nextId :=
  op.induct (P := (·.Separate k.machine.spaces.nextId)) hk hlegal hs
    (fun _ _ _ hk₁ hd hs₁ hmove => hmove.separate hk₁ hd hs₁)
    (fun _ _ => ⟨hs.housed.of_spaces (fun _ => rfl) fun _ => rfl, hs.accounted.congr rfl rfl rfl,
      hs.free⟩)
    fun _ _ data => ⟨hs.housed.of_spaces (fun _ => rfl) fun _ => rfl,
      hs.accounted.writePieces _ data, hs.free⟩

/-- **The numbers of address spaces**: an operation gives out the next one, and there is an address
space with that number afterwards, or it makes none. -/
lemma numbers (hk : k.Sound) (hlegal : op.Legal k) :
    (op.apply k).machine.spaces.nextId = k.machine.spaces.nextId + 1 ∧
        (∀ s, ((op.apply k).machine.space? s).isSome →
          s = k.machine.spaces.nextId.toNat ∨ (k.machine.space? s).isSome) ∨
      (op.apply k).machine.spaces.nextId = k.machine.spaces.nextId ∧
        ∀ s, ((op.apply k).machine.space? s).isSome → (k.machine.space? s).isSome := by
  refine op.induct (P := fun k₁ => k₁.machine.spaces.nextId = k.machine.spaces.nextId + 1 ∧
        (∀ s, (k₁.machine.space? s).isSome →
          s = k.machine.spaces.nextId.toNat ∨ (k.machine.space? s).isSome) ∨
      k₁.machine.spaces.nextId = k.machine.spaces.nextId ∧
        ∀ s, (k₁.machine.space? s).isSome → (k.machine.space? s).isSome) hk hlegal
    (.inr ⟨rfl, fun _ hs => hs⟩) (fun k₁ d k₂ _ hd hk₁ hmove => ?_)
    (fun _ _ => .inr ⟨rfl, fun _ hs => hs⟩) fun _ _ _ => .inr ⟨rfl, fun _ hs => hs⟩
  rcases hmove.numbers with ⟨⟨caller, rfl⟩, hnext, hspaces⟩ | ⟨-, hnext, hspaces⟩
  · rcases hk₁ with ⟨hadvance, -⟩ | ⟨hsame, hfewer⟩
    · -- the number of this operation was given out before
      rw [hadvance] at hd
      exact absurd hd (by simp [Kernel.Deed.Numbered])
    · refine .inl ⟨hnext.trans (by rw [hsame]), fun s hs => ?_⟩
      rw [hspaces] at hs
      split at hs
      · next heq => exact .inl (heq ▸ congrArg UInt32.toNat hsame)
      · exact .inr (hfewer s hs)
  · rw [hnext]
    exact hk₁.imp (And.imp_right fun h s hs => h s (hspaces s hs))
      (And.imp_right fun h s hs => h s (hspaces s hs))

/-- An operation opens and closes no window, and makes no frames. -/
lemma fixtures (hk : k.Sound) (hlegal : op.Legal k) :
    (op.apply k).machine.windows = k.machine.windows ∧
      (op.apply k).machine.frames.slots.size = k.machine.frames.slots.size :=
  op.induct (P := fun k₁ => k₁.machine.windows = k.machine.windows ∧
      k₁.machine.frames.slots.size = k.machine.frames.slots.size) hk hlegal ⟨rfl, rfl⟩
    (fun _ _ _ _ _ hk₁ hmove => ⟨hmove.fixtures.1.trans hk₁.1, hmove.fixtures.2.trans hk₁.2⟩)
    (fun _ _ => ⟨rfl, rfl⟩) fun _ _ _ => ⟨rfl, size_writePieces ..⟩

end Operation

/-! ### Any run -/

namespace Reachable

variable {config : Config} {frames : Nat} {k : Kernel}

/-- **Every reachable state is sound.** -/
lemma sound (h : Reachable config frames k) : k.Sound := by
  induction h with
  | boot hcreate _ hboot =>
    exact (Kernel.quiet_start hcreate hboot).sound (Kernel.create_sound hcreate)
  | step _ op hlegal ih => exact op.sound ih hlegal

/-- Windows and frames are those of the machine at the start. -/
lemma fixtures (h : Reachable config frames k) :
    k.machine.windows = (Machine.ofSize config.cpus frames).windows ∧
      k.machine.frames.slots.size = (Machine.ofSize config.cpus frames).frames.slots.size := by
  induction h with
  | boot hcreate _ hboot =>
    obtain ⟨-, hmachine, -⟩ := Kernel.create_ok hcreate
    have hquiet := Kernel.quiet_start hcreate hboot
    rw [hquiet.windows, hquiet.frames, hmachine]
    exact ⟨rfl, rfl⟩
  | step hreach op hlegal ih =>
    obtain ⟨hwindows, hsize⟩ := op.fixtures hreach.sound hlegal
    exact ⟨hwindows.trans ih.1, hsize.trans ih.2⟩

end Reachable

namespace Run

variable {P Q : Kernel → Operation → Prop} {config : Config} {frames : Nat} {k k' : Kernel}

/-- **A run leads to reachable states** from reachable states. -/
lemma reachable (h : Run P k k') (hk : Reachable config frames k) : Reachable config frames k' := by
  induction h with
  | refl => exact hk
  | step _ op hlegal _ ih => exact ih.step op hlegal

end Run

end Exokernel
