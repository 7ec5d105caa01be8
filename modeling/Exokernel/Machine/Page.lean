/-
The contents of one page of memory.

* `Page`: a byte at each of the 4096 places of a page;
* `Page.write`: replaces the bytes from a place on, as far as the page reaches;
* `Page.byte_write`: what a page holds then.
-/
import Exokernel.Address

namespace Exokernel

open Layout

/-- The contents of a page. -/
structure Page where
  byte : Fin pageSize → UInt8

namespace Page

/-- A page of one byte throughout. -/
def filled (b : UInt8) : Page := ⟨fun _ => b⟩

/-- A page of zeros. -/
def zero : Page := filled 0

instance : Inhabited Page := ⟨zero⟩

/-- The page with `data` from place `start` on, as far as the page reaches. -/
def write (p : Page) (start : Nat) (data : List UInt8) : Page :=
  let bytes := data.toArray
  ⟨fun i =>
    if start ≤ i then
      match bytes[i - start]? with
      | some b => b
      | none => p.byte i
    else p.byte i⟩

/-- The byte at place `i`, if the page reaches so far. -/
def byte? (p : Page) (i : Nat) : Option UInt8 :=
  if h : i < pageSize then some (p.byte ⟨i, h⟩) else none

@[ext] theorem ext {p q : Page} (h : ∀ i, p.byte i = q.byte i) : p = q := by
  obtain ⟨p⟩ := p
  obtain ⟨q⟩ := q
  exact congrArg Page.mk (funext h)

@[simp] theorem byte_filled (b : UInt8) (i : Fin pageSize) : (filled b).byte i = b := rfl

@[simp] theorem byte_zero (i : Fin pageSize) : zero.byte i = 0 := rfl

/-- **What a page holds after a write**: the new bytes where they were written, and what it held
everywhere else. -/
theorem byte_write (p : Page) (start : Nat) (data : List UInt8) (i : Fin pageSize) :
    (p.write start data).byte i =
      if start ≤ i ∧ i < start + data.length then data.getD (i - start) 0 else p.byte i := by
  have hd : ∀ j, data.getD j 0 = (data[j]?).getD 0 := fun j => List.getD_eq_getElem?_getD ..
  simp only [write, List.getElem?_toArray, hd]
  by_cases h : start ≤ i
  · by_cases h' : (i : Nat) - start < data.length
    · simp [h, show (i : Nat) < start + data.length by omega, List.getElem?_eq_getElem h']
    · simp [h, show ¬ (i : Nat) < start + data.length by omega,
        List.getElem?_eq_none (Nat.not_lt.1 h')]
  · simp [h]

theorem write_nil (p : Page) (start : Nat) : p.write start [] = p := by
  apply ext
  intro i
  rw [byte_write, if_neg (by simp only [List.length_nil]; omega)]

end Page

end Exokernel
