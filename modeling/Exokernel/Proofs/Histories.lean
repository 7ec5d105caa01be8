/-
Histories: runs that remember what happened.

* `Operation.outcome?`, `Operation.resumed?`: what the processor that performs an operation does,
  and whom it runs next;
* `Transition`, `History`: the operations of a run, each with the state that it was performed in;
* `History.reachable`: **a history leads to reachable states**, and every state in it is one;
* `History.invariant`: **what every transition keeps**, a history keeps;
* `History.split`: a history is cut at any of its transitions;
* `Booted`, `Early`: states in which runs begin, and those that are reached before the numbers of
  address spaces come round;
* `Early.separate`: **until then, address spaces are kept apart**.
-/
import Mathlib.Data.List.Induction
import Exokernel.Proofs.Runs

namespace Exokernel

/-- What the processor that performs an operation does next, if it is an operation after which the
processor has to go on. -/
def Operation.outcome? (k : Kernel) : Operation → Option Resume
  | .trap cpu f => some (k.trap cpu f).1
  | .schedule cpu => some (k.schedule cpu).1
  | .spawn _ | .allocate _ | .destroy _ _ | .latch _ _ | .store _ _ _ => none

/-- Whom a processor runs next. -/
def Resume.process? : Resume → Option ProcessId
  | .user id _ => some id
  | .idle | .halt _ => none

/-- Whom an operation tells its processor to run. -/
def Operation.resumed? (k : Kernel) (op : Operation) : Option ProcessId :=
  (op.outcome? k).bind Resume.process?

/-- An operation in the state that it is performed in. -/
structure Transition where
  before : Kernel
  op : Operation

namespace Transition

/-- The state after a transition. -/
def after (e : Transition) : Kernel := e.op.apply e.before

/-- What the processor of a transition does next. -/
def outcome? (e : Transition) : Option Resume := e.op.outcome? e.before

/-- Whom the processor of a transition is told to run. -/
def resumed? (e : Transition) : Option ProcessId := e.op.resumed? e.before

end Transition

/-- A run from state `k` to another, with its transitions in their order. -/
inductive History (k : Kernel) : List Transition → Kernel → Prop where
  | nil : History k [] k
  | snoc {es : List Transition} {k' : Kernel} (h : History k es k') (op : Operation)
      (hlegal : op.Legal k') : History k (es ++ [⟨k', op⟩]) (op.apply k')

namespace History

variable {config : Config} {frames : Nat} {k k' : Kernel} {es : List Transition}

/-- **A history leads to reachable states** from reachable states. -/
lemma reachable (h : History k es k') (hk : Reachable config frames k) :
    Reachable config frames k' := by
  induction h with
  | nil => exact hk
  | snoc _ op hlegal ih => exact ih.step op hlegal

/-- **What every transition keeps** that meets a condition, a history keeps all of whose transitions
meet it. -/
lemma invariant {C : Transition → Prop} {P : List Transition → Kernel → Prop}
    (h : History k es k') (hk : Reachable config frames k) (hC : ∀ e ∈ es, C e) (hnil : P [] k)
    (hsnoc : ∀ es₁ k₁ op, Reachable config frames k₁ → op.Legal k₁ → C ⟨k₁, op⟩ → P es₁ k₁ →
      P (es₁ ++ [⟨k₁, op⟩]) (op.apply k₁)) : P es k' := by
  induction h with
  | nil => exact hnil
  | @snoc es₁ k₁ hhist op hlegal ih =>
    obtain ⟨hbefore, hlast⟩ := List.forall_mem_append.1 hC
    exact hsnoc es₁ k₁ op (hhist.reachable hk) hlegal (List.forall_mem_singleton.1 hlast)
      (ih hbefore)

/-- A history goes on with another. -/
lemma append {k'' : Kernel} {es' : List Transition} (h : History k es k')
    (h' : History k' es' k'') : History k (es ++ es') k'' := by
  induction h' with
  | nil => rwa [List.append_nil]
  | snoc _ op hlegal ih =>
    rw [← List.append_assoc]
    exact ih.snoc op hlegal

/-- The last transition of a history. -/
lemma concat_iff {e : Transition} : History k (es ++ [e]) k' ↔
    History k es e.before ∧ e.op.Legal e.before ∧ k' = e.after := by
  constructor
  · intro h
    generalize hrow : es ++ [e] = row at h
    cases h with
    | nil => exact absurd hrow (List.append_ne_nil_of_right_ne_nil _ nofun)
    | snoc h op hlegal =>
      obtain ⟨rfl, hlast⟩ := List.append_inj' hrow rfl
      cases hlast
      exact ⟨h, hlegal, rfl⟩
  · rintro ⟨h, hlegal, rfl⟩
    exact h.snoc e.op hlegal

/-- **A history is cut at a transition** into one that leads to it and one that goes on from it. -/
lemma split {es₁ es₂ : List Transition} {e : Transition}
    (h : History k (es₁ ++ e :: es₂) k') :
    History k es₁ e.before ∧ e.op.Legal e.before ∧ History e.after es₂ k' := by
  induction es₂ using List.reverseRecOn generalizing k' with
  | nil =>
    obtain ⟨hbefore, hlegal, rfl⟩ := concat_iff.1 h
    exact ⟨hbefore, hlegal, .nil⟩
  | append_singleton es₂ last ih =>
    rw [← List.cons_append, ← List.append_assoc] at h
    obtain ⟨hrest, hlast, rfl⟩ := concat_iff.1 h
    obtain ⟨hbefore, hlegal, hafter⟩ := ih hrest
    exact ⟨hbefore, hlegal, concat_iff.2 ⟨hafter, hlast, rfl⟩⟩

/-- It leads to the state after its last transition. -/
lemma eq_after (h : History k es k') {e : Transition} (he : es.getLast? = some e) :
    k' = e.after := by
  cases h with
  | nil => cases he
  | snoc hhist op hlegal =>
    rw [List.getLast?_concat, Option.some.injEq] at he
    rw [← he, Transition.after]

/-- Every state after a transition is sound. -/
lemma sound_after (h : History k es k') (hk : Reachable config frames k) {e : Transition}
    (he : e ∈ es) : e.after.Sound := by
  obtain ⟨es₁, es₂, rfl⟩ := List.append_of_mem he
  obtain ⟨hbefore, hlegal, -⟩ := h.split
  exact ((hbefore.reachable hk).step e.op hlegal).sound

end History

/-! ### The numbers of address spaces -/

/-- A state in which runs begin: a fresh kernel, whose processors have all joined in. -/
def Booted (config : Config) (frames : Nat) (k : Kernel) : Prop :=
  ∃ k₀ order, Kernel.create (.ofSize config.cpus frames) config = .ok k₀ ∧
    order.Perm (List.range config.cpus) ∧ Bench.bootAll order k₀ = .ok k

/-- A transition makes an address space if it gives out the next number. -/
def Transition.makesSpace (e : Transition) : Bool :=
  e.after.machine.spaces.nextId ≠ e.before.machine.spaces.nextId

/-- How many address spaces are made in a row of transitions. -/
def spacesMade (es : List Transition) : Nat := es.countP Transition.makesSpace

/-- **A state that is reached before the numbers of address spaces come round**: since all processors
joined in, fewer than `UInt32.size - 1` address spaces have been made, that is `2 ^ 32 - 1`. The
counter of these numbers begins at 1, so that it has not overflowed. -/
def Early (config : Config) (frames : Nat) (k : Kernel) : Prop :=
  ∃ k₀ es, Booted config frames k₀ ∧ History k₀ es k ∧ spacesMade es < UInt32.size - 1

/-- As many address spaces have been made: the next one gets the next number, and no other number
than those that were given out is in use. -/
structure Kernel.Made (k : Kernel) (count : Nat) : Prop where
  next : k.machine.spaces.nextId.toNat = count + 1
  used : ∀ s, (k.machine.space? s).isSome → s ≤ count

section Numbers

variable {config : Config} {frames : Nat} {k k' : Kernel} {es : List Transition}

lemma Booted.reachable (h : Booted config frames k) : Reachable config frames k := by
  obtain ⟨k₀, order, hcreate, horder, hboot⟩ := h
  exact .boot hcreate horder hboot

/-- Nothing has happened at first. -/
lemma Booted.history (_h : Booted config frames k) : History k [] k := .nil

lemma Booted.separate {n : UInt32} (h : Booted config frames k) : k.Separate n := by
  obtain ⟨k₀, order, hcreate, -, hboot⟩ := h
  have hs : k₀.Separate n := Kernel.create_separate hcreate
  have hquiet := Kernel.quiet_start hcreate hboot
  refine ⟨hs.housed.of_spaces (fun _ => by rw [hquiet.records]) fun s => by rw [hquiet.space?],
    hs.accounted.congr hquiet.frames hquiet.spaces hquiet.windows, fun hnext => ?_⟩
  rw [hquiet.space?]
  exact hs.free (hquiet.spaces ▸ hnext)

/-- At first no number was given out. -/
lemma Booted.made (h : Booted config frames k) : k.Made 0 := by
  obtain ⟨k₀, order, hcreate, -, hboot⟩ := h
  have hspaces := (Kernel.quiet_start hcreate hboot).spaces
  rw [(Kernel.create_ok hcreate).2.1] at hspaces
  refine ⟨by rw [hspaces]; rfl, fun s hs => ?_⟩
  rw [Machine.space?, hspaces] at hs
  cases hs

lemma spacesMade_concat (e : Transition) :
    spacesMade (es ++ [e]) = spacesMade es + if e.makesSpace then 1 else 0 := by
  rw [spacesMade, List.countP_append, List.countP_singleton, spacesMade]

/-- A number that is given out was free, as long as the numbers have not come round. -/
lemma Kernel.Made.free {count : Nat} (h : k.Made count) :
    k.machine.space? k.machine.spaces.nextId.toNat = none := by
  cases hspace : k.machine.space? k.machine.spaces.nextId.toNat with
  | none => rfl
  | some a =>
    have hused := h.used _ (by rw [hspace]; rfl)
    rw [h.next] at hused
    exact absurd hused (Nat.not_succ_le_self count)

/-- **An operation counts on**, if it makes an address space. -/
lemma Kernel.Made.step {op : Operation} {count : Nat} (h : k.Made count) (hk : k.Sound)
    (hlegal : op.Legal k)
    (hfew : count + (if Transition.makesSpace ⟨k, op⟩ then 1 else 0) < UInt32.size - 1) :
    (op.apply k).Made (count + if Transition.makesSpace ⟨k, op⟩ then 1 else 0) := by
  have hmakes : Transition.makesSpace ⟨k, op⟩ = true ↔
      (op.apply k).machine.spaces.nextId ≠ k.machine.spaces.nextId := decide_eq_true_iff
  rcases op.numbers hk hlegal with ⟨hnext, hspaces⟩ | ⟨hnext, hspaces⟩
  · rw [if_pos (hmakes.2 (by rw [hnext]; simp))] at hfew ⊢
    refine ⟨?_, fun s hs => ?_⟩
    · rw [hnext, UInt32.toNat_add, h.next, UInt32.toNat_one]
      exact Nat.mod_eq_of_lt (Nat.add_lt_of_lt_sub hfew)
    · rcases hspaces s hs with heq | hold
      · exact Nat.le_of_eq (heq.trans h.next)
      · exact Nat.le_succ_of_le (h.used s hold)
  · rw [if_neg fun hc => hmakes.1 hc hnext]
    exact ⟨hnext ▸ h.next, fun s hs => h.used s (hspaces s hs)⟩

/-- **As long as the numbers have not come round**, address spaces are kept apart. -/
lemma History.made (h : History k es k') (hk : Booted config frames k)
    (hfew : spacesMade es < UInt32.size - 1) :
    k'.Made (spacesMade es) ∧ k'.Separate k'.machine.spaces.nextId := by
  induction h with
  | nil => exact ⟨hk.made, hk.separate⟩
  | @snoc es₁ k₁ hhist op hlegal ih =>
    rw [spacesMade_concat] at hfew ⊢
    obtain ⟨hmade, hs⟩ := ih (Nat.lt_of_le_of_lt (Nat.le_add_right ..) hfew)
    have hk₁ := (hhist.reachable hk.reachable).sound
    have hmade' := hmade.step hk₁ hlegal hfew
    have hs' := op.separate hk₁ hlegal hs
    exact ⟨hmade', hs'.housed, hs'.accounted, fun _ => hmade'.free⟩

/-- No operation makes more than one address space. -/
lemma History.early (h : History k es k') (hk : Booted config frames k)
    (hshort : es.length < UInt32.size - 1) : Early config frames k' :=
  ⟨k, es, hk, h, Nat.lt_of_le_of_lt List.countP_le_length hshort⟩

lemma Early.reachable (h : Early config frames k) : Reachable config frames k := by
  obtain ⟨k₀, es, hk₀, hhist, -⟩ := h
  exact hhist.reachable hk₀.reachable

/-- **Address spaces are kept apart**, and the next number is free. -/
lemma Early.separate (h : Early config frames k) : k.Separate k.machine.spaces.nextId := by
  obtain ⟨k₀, es, hk₀, hhist, hfew⟩ := h
  exact (hhist.made hk₀ hfew).2

end Numbers

end Exokernel
