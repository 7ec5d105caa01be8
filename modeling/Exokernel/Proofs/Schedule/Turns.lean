/-
Whose turn it is on a lap around the table.

* `Lap.ahead`: how many slots a lap that begins behind a position comes to before a given one;
* `Lap.ahead_advance`: one step of the lap brings every slot that it does not reach nearer by one;
* `Lap.find?_slotsFrom`: **the first slot on a lap that meets a condition** comes no later than any
  other that meets it;
* `Kernel.nextSlot?_of_dispatchable`: so it is for the scheduler.
-/
import Exokernel.Kernel.Schedule
import Mathlib.Tactic.Common

namespace Exokernel

namespace Lap

variable {n c q s : Nat} {P : Nat → Bool}

/-- How many slots a lap that begins behind position `c` comes to before slot `q`. The slot at `c`
itself comes last. -/
def ahead (n c q : Nat) : Nat :=
  if c < q then q - c - 1 else q + n - 2 - c

/-- The slot behind the last one is slot 1. -/
lemma advance_eq (hc : c < n) : advance c n = if c + 1 = n then 1 else c + 1 := by
  rw [advance]
  by_cases hlast : c + 1 = n
  · simp [hlast]
  · have hmod : (c + 1) % n = c + 1 := Nat.mod_eq_of_lt (by omega)
    simp [hmod, hlast]

/-- A lap comes to every slot but the idle one. -/
lemma ahead_lt (hq : q < n) (hpos : q ≠ 0) : ahead n c q < n - 1 := by
  rw [ahead]
  split <;> omega

/-- The slots of a lap are those of the table but the idle one. -/
lemma advance_bounds (hc : c < n) (hn : 2 ≤ n) : advance c n ≠ 0 ∧ advance c n < n := by
  rw [advance_eq hc]
  split <;> omega

/-- **One step of a lap** brings every slot nearer by one, but the slot that it comes to. -/
lemma ahead_advance (hc : c < n) (hq : q < n) (hpos : q ≠ 0) (hne : advance c n ≠ q) :
    ahead n (advance c n) q + 1 = ahead n c q := by
  rw [advance_eq hc] at hne ⊢
  simp only [ahead]
  split_ifs at hne ⊢ <;> omega

/-- The slots that are still to come on a lap. -/
lemma mem_slotsFrom (hq : q < n) (hpos : q ≠ 0) {m : Nat} (hc : c < n) (hm : ahead n c q < m) :
    q ∈ slotsFrom n c m := by
  induction m generalizing c with
  | zero => omega
  | succ m ih =>
    rw [slotsFrom]
    by_cases hfirst : advance c n = q
    · simp [hfirst]
    · have hnear := ahead_advance hc hq hpos hfirst
      have hbounds := advance_bounds hc (by omega)
      exact List.mem_cons_of_mem _ (ih hbounds.2 (by omega))

/-- No lap comes to the idle slot. -/
lemma bounds_of_mem_slotsFrom (hn : 2 ≤ n) {m : Nat} (hc : c < n) (hs : s ∈ slotsFrom n c m) :
    s ≠ 0 ∧ s < n := by
  induction m generalizing c with
  | zero => simp [slotsFrom] at hs
  | succ m ih =>
    have hbounds := advance_bounds hc hn
    rw [slotsFrom, List.mem_cons] at hs
    rcases hs with rfl | hlater
    · exact hbounds
    · exact ih hbounds.2 hlater

/-- **The first slot on a lap that meets a condition** is the slot `q` that meets it, or `q` comes
sooner on the lap that begins there. -/
lemma find?_slotsFrom (hq : q < n) (hpos : q ≠ 0) (hPq : P q) {m : Nat} (hc : c < n)
    (hs : (slotsFrom n c m).find? P = some s) : s = q ∨ ahead n s q < ahead n c q := by
  induction m generalizing c with
  | zero => simp [slotsFrom] at hs
  | succ m ih =>
    rw [slotsFrom] at hs
    by_cases hfirst : advance c n = q
    · simp only [hfirst, List.find?_cons, hPq, Option.some.injEq] at hs
      exact .inl hs.symm
    · have hnear := ahead_advance hc hq hpos hfirst
      have hbounds := advance_bounds hc (by omega)
      rw [List.find?_cons] at hs
      cases hP : P (advance c n) with
      | true =>
        simp only [hP, Option.some.injEq] at hs
        subst hs
        exact .inr (by omega)
      | false =>
        simp only [hP] at hs
        exact (ih hbounds.2 hs).imp_right fun hlt => by omega

end Lap

namespace Kernel

variable {k : Kernel} {q s : Nat}

/-- The place of the scheduler on the table. -/
def place (k : Kernel) : Nat := k.table.cursor % k.table.capacity

lemma place_lt (hn : 0 < k.table.capacity) : k.place < k.table.capacity := Nat.mod_lt _ hn

lemma nextSlot?_eq (hn : 0 < k.table.capacity) : k.nextSlot? =
    (Lap.slotsFrom k.table.capacity k.place (k.table.capacity - 1)).find? k.dispatchable := by
  rw [nextSlot?, Lap.start, if_neg (by omega)]
  rfl

/-- A slot that may be dispatched holds a process that may. -/
lemma record_of_dispatchable (h : k.dispatchable q) :
    ∃ p : Process, k.table.records[q]? = some p ∧ p.dispatchable :=
  (Option.any_eq_true ..).1 h

lemma lt_capacity_of_dispatchable (h : k.dispatchable q) : q < k.table.capacity := by
  obtain ⟨p, hp, -⟩ := record_of_dispatchable h
  exact (Array.getElem?_eq_some_iff.1 hp).1

lemma dispatchable_of_nextSlot? (h : k.nextSlot? = some s) : k.dispatchable s :=
  List.find?_some h

/-- **The scheduler passes over nobody twice.** While slot `q` may be dispatched, the scheduler
finds a slot, never the idle one, and that is `q`, or it brings the scheduler nearer to `q`. -/
lemma nextSlot?_of_dispatchable (hq : k.dispatchable q) (hpos : q ≠ idleSlot) :
    ∃ s, k.nextSlot? = some s ∧ s ≠ idleSlot ∧ s < k.table.capacity ∧ (s = q ∨
      Lap.ahead k.table.capacity s q < Lap.ahead k.table.capacity k.place q) := by
  have hlt := lt_capacity_of_dispatchable hq
  have hlarge : 2 ≤ k.table.capacity := by
    have hnot : q ≠ 0 := hpos
    omega
  have hplace : k.place < k.table.capacity := place_lt (by omega)
  have hmem := Lap.mem_slotsFrom hlt hpos hplace (Lap.ahead_lt hlt hpos)
  rw [nextSlot?_eq (by omega)]
  obtain ⟨s, hs⟩ := Option.isSome_iff_exists.1 (List.find?_isSome.2 ⟨q, hmem, hq⟩)
  have hbounds := Lap.bounds_of_mem_slotsFrom hlarge hplace (List.mem_of_find?_eq_some hs)
  exact ⟨s, hs, hbounds.1, hbounds.2, Lap.find?_slotsFrom hlt hpos hq hplace hs⟩

end Kernel

end Exokernel
