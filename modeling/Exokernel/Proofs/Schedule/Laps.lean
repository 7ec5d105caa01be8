/-
The slots that a lap around the table comes to.

* `Lap.slotsFrom_eq`: the slots behind a position go on to the end of the table, and then from
  slot 1 on;
* `Lap.slots_start`: **the slots of a lap**, in their order, and `Lap.slots_start_perm`: every slot
  but the idle one, once;
* `Lap.fst_take`, `Lap.Underway`: the slots that were taken, and the lap that is left then;
* `Lap.nextWithin?`: a step of a lap with numbers that may not get too large;
* `lap_visits`: **a lap visits every slot once**, and its numbers never get larger than the table.
-/
import Exokernel.Proofs.Schedule.Turns
import Mathlib.Data.List.Range

namespace Exokernel

namespace Lap

variable {n c k top cursor : Nat} {lap : Lap}

/-! ### Where a lap goes -/

/-- **The slots behind a position** go on to the end of the table, and then from slot 1 on. -/
lemma slotsFrom_eq (hc : c < n) {m : Nat} (hm : m ≤ n - 1) : slotsFrom n c m =
    List.range' (c + 1) (min m (n - 1 - c)) ++ List.range' 1 (m - (n - 1 - c)) := by
  induction m generalizing c with
  | zero => simp [slotsFrom]
  | succ m ih =>
    rw [slotsFrom, advance_eq hc]
    by_cases hlast : c + 1 = n
    · -- behind the last slot the lap begins again
      have hfirst : slotsFrom n 1 m = List.range' 2 m := by
        rw [ih (by omega) (by omega), Nat.min_eq_left (by omega), Nat.sub_eq_zero_of_le (by omega)]
        simp
      have hnone : n - 1 - c = 0 := by omega
      simp [hlast, hfirst, hnone, List.range'_succ]
    · have hmin : min (m + 1) (n - 1 - c) = min m (n - 1 - (c + 1)) + 1 := by omega
      have hrest : m + 1 - (n - 1 - c) = m - (n - 1 - (c + 1)) := by omega
      rw [if_neg hlast, ih (by omega) (by omega), hmin, hrest, List.range'_succ, List.cons_append]

/-- **The slots of a lap** are those behind the one that it begins at, up to the end of the table,
and then those from slot 1 up to there. -/
lemma slots_start (hn : 0 < n) : (start cursor n).slots =
    List.range' (cursor % n + 1) (n - 1 - cursor % n) ++ List.range' 1 (cursor % n) := by
  have hc : cursor % n < n := Nat.mod_lt _ hn
  have hall : min (n - 1) (n - 1 - cursor % n) = n - 1 - cursor % n := by omega
  have hback : n - 1 - (n - 1 - cursor % n) = cursor % n := by omega
  rw [slots, start, if_neg (by omega), slotsFrom_eq hc (Nat.le_refl _), hall, hback]

/-- **Every slot but the idle one**, once. -/
lemma slots_start_perm (hn : 0 < n) :
    (start cursor n).slots.Perm (List.range' 1 (n - 1)) := by
  have hc : cursor % n < n := Nat.mod_lt _ hn
  have hparts : List.range' 1 (cursor % n) ++
      List.range' (cursor % n + 1) (n - 1 - cursor % n) = List.range' 1 (n - 1) := by
    rw [Nat.add_comm (cursor % n) 1, List.range'_append_1]
    congr 1
    omega
  rw [slots_start hn, ← hparts]
  exact List.perm_append_comm

/-- A lap that begins at a slot ends there. -/
lemma getLast?_slots_start (hn : 0 < n) (hc : cursor % n ≠ 0) :
    (start cursor n).slots.getLast? = some (cursor % n) := by
  obtain ⟨d, hd⟩ := Nat.exists_eq_succ_of_ne_zero hc
  rw [slots_start hn, hd, Nat.succ_eq_add_one, List.range'_1_concat, ← List.append_assoc,
    List.getLast?_concat, Nat.add_comm]

/-! ### Under way -/

/-- The slots that were taken are the first ones of the lap. -/
lemma fst_take (k : Nat) (lap : Lap) : (take k lap).1 = lap.slots.take k := by
  induction k generalizing lap with
  | zero => rfl
  | succ k ih =>
    obtain ⟨position, remaining, capacity⟩ := lap
    cases remaining with
    | zero => rfl
    | succ r => exact congrArg (advance position capacity :: ·) (ih _)

/-- A lap around a table of `n` slots that has `r` of them before it, and stands in the table. -/
structure Underway (n r : Nat) (lap : Lap) : Prop where
  capacity : lap.capacity = n
  remaining : lap.remaining = r
  position : 0 < n → lap.position < n

lemma underway_start (cursor n : Nat) : Underway n (n - 1) (start cursor n) := by
  refine ⟨rfl, rfl, fun hn => ?_⟩
  rw [start, if_neg (by omega)]
  exact Nat.mod_lt _ hn

/-- Every slot that is taken leaves one less. -/
lemma Underway.take {r : Nat} (h : Underway n r lap) (hr : r ≤ n - 1) (k : Nat) :
    Underway n (r - k) (take k lap).2 := by
  induction k generalizing lap r with
  | zero => exact h
  | succ k ih =>
    obtain ⟨position, remaining, capacity⟩ := lap
    obtain ⟨rfl, rfl, hplace⟩ := h
    cases remaining with
    | zero => exact ⟨rfl, by simp [Lap.take, next?], hplace⟩
    | succ r =>
      have hleft : r + 1 ≤ capacity - 1 := hr
      have hmore : 1 < capacity := by omega
      have hstep : Underway capacity r ⟨advance position capacity, r, capacity⟩ :=
        ⟨rfl, rfl, fun hn => (advance_bounds (hplace hn) hmore).2⟩
      have hrest := ih hstep (Nat.le_of_succ_le hleft)
      rw [Nat.add_sub_add_right]
      exact hrest

/-! ### Numbers of a bounded size -/

/-- A step of a lap with numbers that are at most `top`: nothing comes out if one gets larger, or if
there is nothing to divide by. -/
def nextWithin? (top : Nat) (lap : Lap) : Option (Option (Nat × Lap)) :=
  if lap.remaining = 0 then some none
  else if lap.position + 1 ≤ top ∧ lap.capacity ≠ 0 then
    let next := (lap.position + 1) % lap.capacity
    let slot := if next = 0 then 1 else next
    some (some (slot, ⟨slot, lap.remaining - 1, lap.capacity⟩))
  else none

/-- **No number gets larger than the table**, and there is no step in a table without slots. -/
lemma Underway.nextWithin?_eq {r : Nat} (h : Underway n r lap) (hr : r ≤ n - 1) (htop : n ≤ top) :
    lap.nextWithin? top = some lap.next? := by
  obtain ⟨position, remaining, capacity⟩ := lap
  obtain ⟨rfl, rfl, hplace⟩ := h
  cases remaining with
  | zero => rfl
  | succ r =>
    dsimp only at hr hplace htop
    have hpos : 0 < capacity := by omega
    have hlt := hplace hpos
    have hfits : position + 1 ≤ top ∧ capacity ≠ 0 := ⟨by omega, by omega⟩
    rw [nextWithin?, if_neg (Nat.succ_ne_zero r), if_pos hfits]
    rfl

end Lap

/-- **A lap visits every slot but the idle one, once, in order.** In a table of `n` slots, one at
least, it comes to `n - 1` of them: those behind the slot that it begins at, in ascending order, and
then those from slot 1 up to that slot itself, which comes last unless it is the idle one. After `k`
slots, the first `k` of these were taken, and as many as are missing are left. And with numbers of a
size that can hold `n`, no step divides by zero or comes to a number that is too large. In a table
without slots a lap comes to none. -/
theorem lap_visits (cursor n : Nat) :
    (0 < n →
      (Lap.start cursor n).slots.length = n - 1 ∧
      (Lap.start cursor n).slots.Perm (List.range' 1 (n - 1)) ∧
      (Lap.start cursor n).slots =
        List.range' (cursor % n + 1) (n - 1 - cursor % n) ++ List.range' 1 (cursor % n) ∧
      (cursor % n ≠ 0 → (Lap.start cursor n).slots.getLast? = some (cursor % n))) ∧
    (n = 0 → (Lap.start cursor n).slots = []) ∧
    ∀ k, (Lap.take k (Lap.start cursor n)).1 = (Lap.start cursor n).slots.take k ∧
      (Lap.take k (Lap.start cursor n)).2.sizeHint = (n - 1 - k, some (n - 1 - k)) ∧
      ∀ top, n ≤ top → (Lap.take k (Lap.start cursor n)).2.nextWithin? top =
        some (Lap.take k (Lap.start cursor n)).2.next? := by
  refine ⟨fun hn => ⟨?_, ?_, ?_, ?_⟩, ?_, fun k => ?_⟩
  · exact Lap.length_slotsFrom ..
  · exact Lap.slots_start_perm hn
  · exact Lap.slots_start hn
  · exact Lap.getLast?_slots_start hn
  · rintro rfl
    rfl
  · have hleft := (Lap.underway_start cursor n).take (Nat.le_refl _) k
    have hhint : (Lap.take k (Lap.start cursor n)).2.sizeHint = (n - 1 - k, some (n - 1 - k)) := by
      rw [Lap.sizeHint, hleft.remaining]
    refine ⟨Lap.fst_take k _, hhint, fun top htop => ?_⟩
    exact hleft.nextWithin?_eq (Nat.sub_le _ _) htop

/-- A lap around a table of five slots that begins behind slot 2, with numbers up to five. -/
theorem lap_visits_five : 0 < 5 ∧ 2 % 5 ≠ 0 ∧ (Lap.start 2 5).slots = [3, 4, 1, 2] ∧
    (Lap.start 2 5).slots.Perm [1, 2, 3, 4] ∧ (Lap.start 2 5).slots.getLast? = some 2 ∧
    (Lap.take 3 (Lap.start 2 5)).1 = [3, 4, 1] ∧
    (Lap.take 3 (Lap.start 2 5)).2.sizeHint = (1, some 1) ∧
    (Lap.take 3 (Lap.start 2 5)).2.nextWithin? 5 = some (some (2, ⟨2, 0, 5⟩)) ∧
    (Lap.start 2 0).slots = [] := by
  obtain ⟨hvisits, -, htaken⟩ := lap_visits 2 5
  obtain ⟨-, hperm, hslots, hlast⟩ := hvisits (by decide)
  obtain ⟨hfirst, hleft, hfits⟩ := htaken 3
  obtain ⟨-, hnone, -⟩ := lap_visits 2 0
  exact ⟨by decide, by decide, hslots, hperm, hlast (by decide), hfirst, hleft,
    hfits 5 (Nat.le_refl _), hnone rfl⟩

end Exokernel
