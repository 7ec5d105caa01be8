/-
Where the pieces of a range lie.

* `mem_pagesOf_iff`, `start_lt_of_mem_pieces`, `page_mem_pagesOf`: the pages of a range, and where
  its pieces begin;
* `UpcallPlan.frameVa_bounds`: a fault frame lies on the exception stack.
-/
import Mathlib.Tactic.Common
import Exokernel.Machine.Range
import Exokernel.Trap.FaultFrame

namespace Exokernel

open Layout

variable {start len : Nat} {p : Piece}

/-! ### Pieces -/

/-- A range touches the pages from that of its first byte to that of its last. -/
lemma mem_pagesOf_iff {page : Nat} : page ∈ pagesOf start len ↔
    len ≠ 0 ∧ start / pageSize ≤ page ∧ page ≤ (start + len - 1) / pageSize := by
  have hle : len ≠ 0 → start / pageSize ≤ (start + len - 1) / pageSize := fun h =>
    Nat.div_le_div_right (by omega)
  rw [pagesOf]
  split
  · next h => simp [h]
  · next h =>
    have hle := hle h
    simp only [List.mem_range'_1, ne_eq, h, not_false_eq_true, true_and]
    omega

/-- Every piece begins in the range. -/
lemma start_lt_of_mem_pieces (h : p ∈ pieces start len) :
    start ≤ p.start ∧ p.start < start + len := by
  obtain ⟨page, hpage, rfl⟩ := List.mem_map.1 h
  obtain ⟨hlen, hfirst, hlast⟩ := mem_pagesOf_iff.1 hpage
  have hmul : page * pageSize ≤ start + len - 1 := (Nat.le_div_iff_mul_le (by decide)).1 hlast
  simp only [Piece.ofPage]
  omega

/-- The page of a piece is one that the range touches. -/
lemma page_mem_pagesOf (h : p ∈ pieces start len) : p.page ∈ pagesOf start len := by
  obtain ⟨hfirst, hlast⟩ := start_lt_of_mem_pieces h
  refine mem_pagesOf_iff.2 ⟨by omega, Nat.div_le_div_right hfirst, Nat.div_le_div_right ?_⟩
  omega

/-- So is the page of every address in the range. -/
lemma div_mem_pagesOf {a : Nat} (hfirst : start ≤ a) (hlast : a < start + len) :
    a / pageSize ∈ pagesOf start len :=
  mem_pagesOf_iff.2 ⟨by omega, Nat.div_le_div_right hfirst, Nat.div_le_div_right (by omega)⟩

/-! ### Fault frames -/

/-- **A fault frame lies on the exception stack.** -/
lemma UpcallPlan.frameVa_bounds {esp : UInt32} {plan : UpcallPlan}
    (h : UpcallPlan.ofStackPointer esp = .ok plan) :
    exceptionStackBottom ≤ plan.frameVa.toNat ∧
      plan.frameVa.toNat + FaultFrame.size ≤ exceptionStackTop := by
  have hbottom : exceptionStackBottom = 0xEEBFF000 := rfl
  have htop : exceptionStackTop = 0xEEC00000 := rfl
  have hsize : FaultFrame.size = 52 := rfl
  have hcount : addressCount = 0x100000000 := rfl
  have hplace : ∀ n, n < addressCount → (VirtAddr.ofNat n).toNat = n :=
    fun _ => VirtAddr.toNat_ofNat_of_lt
  rw [UpcallPlan.ofStackPointer] at h
  dsimp only at h
  split at h
  · split at h
    · cases h
      dsimp only
      rw [hplace _ (by omega)]
      omega
    · cases h
  · cases h
    dsimp only
    rw [hplace _ (by omega)]
    omega

end Exokernel
