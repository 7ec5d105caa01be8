/-
Pools of frames that differ in what their frames hold.

* `Agree`, `Beside`: two answers that come to the same, and leave behind what is related;
* `FramePool.blank`: the pool with nothing but zeros in its frames;
* `FramePool.Like`: pools that are the same but for the contents of some frames. Whatever is done to
  both keeps them so (`Like.retain`, `Like.release`, `Like.writePieces`);
* `Like.alloc?_cases`: **the next free frame is the same in both, and once it is cleared it holds
  the same**;
* `Like.readPieces_eq`: what can be looked at reads the same.
-/
import Exokernel.Proofs.Memory.Pool
import Exokernel.Machine.Range

namespace Exokernel

/-! ### Answers that agree -/

section Answers

variable {ε α β γ δ : Type}

/-- Both fail with the same error, or both succeed with what `R` relates. -/
inductive Agree (R : α → β → Prop) : Except ε α → Except ε β → Prop where
  | error (e : ε) : Agree R (.error e) (.error e)
  | ok {a : α} {b : β} (h : R a b) : Agree R (.ok a) (.ok b)

/-- The same answer, with what `R` relates beside it. -/
inductive Beside (R : α → β → Prop) : γ × α → γ × β → Prop where
  | mk (c : γ) {a : α} {b : β} (h : R a b) : Beside R (c, a) (c, b)

namespace Agree

variable {R S : α → β → Prop} {T : γ → δ → Prop} {x : Except ε α} {y : Except ε β}

@[elab_as_elim]
lemma elim {motive : Except ε α → Except ε β → Prop} (h : Agree R x y)
    (error : ∀ e, motive (.error e) (.error e)) (ok : ∀ a b, R a b → motive (.ok a) (.ok b)) :
    motive x y := by
  cases h with
  | error e => exact error e
  | ok h => exact ok _ _ h

lemma mono (h : Agree R x y) (hRS : ∀ a b, x = .ok a → R a b → S a b) : Agree S x y := by
  cases h with
  | error e => exact .error e
  | ok h => exact .ok (hRS _ _ rfl h)

lemma bind {f : α → Except ε γ} {g : β → Except ε δ} (h : Agree R x y)
    (hfg : ∀ a b, R a b → Agree T (f a) (g b)) : Agree T (x >>= f) (y >>= g) := by
  cases h with
  | error e => exact .error e
  | ok h => exact hfg _ _ h

/-- The first steps of both come to the same. -/
lemma bind_self {f : α → Except ε γ} {g : α → Except ε δ} (x : Except ε α)
    (hfg : ∀ a, x = .ok a → Agree T (f a) (g a)) : Agree T (x >>= f) (x >>= g) := by
  cases x with
  | error e => exact .error e
  | ok a => exact hfg a rfl

end Agree

namespace Beside

variable {R : α → β → Prop} {x : γ × α} {y : γ × β}

@[elab_as_elim]
lemma elim {motive : γ × α → γ × β → Prop} (h : Beside R x y)
    (mk : ∀ c a b, R a b → motive (c, a) (c, b)) : motive x y := by
  cases h with
  | mk c h => exact mk c _ _ h

lemma fst_eq (h : Beside R x y) : y.1 = x.1 := by
  cases h
  rfl

lemma snd (h : Beside R x y) : R x.2 y.2 := by
  cases h with
  | mk c h => exact h

lemma of (hfst : y.1 = x.1) (hsnd : R x.2 y.2) : Beside R x y := by
  obtain ⟨c, a⟩ := x
  obtain ⟨c', b⟩ := y
  obtain rfl : c' = c := hfst
  exact .mk c' hsnd

end Beside

end Answers

/-! ### Pools of frames -/

/-- The frame with zeros in it. -/
def FrameSlot.blank (slot : FrameSlot) : FrameSlot := { slot with page := .zero }

namespace FramePool

variable {P Q : Nat → Prop} {pool pool' : FramePool} {n k : Nat}

/-- The pool with zeros in all its frames. -/
def blank (pool : FramePool) : FramePool := { pool with slots := pool.slots.map FrameSlot.blank }

lemma getElem?_blank : pool.blank.slots[n]? = pool.slots[n]?.map FrameSlot.blank :=
  Array.getElem?_map

lemma allocated?_blank : pool.blank.allocated? n = (pool.allocated? n).map FrameSlot.blank := by
  rw [allocated?, getElem?_blank, allocated?]
  cases pool.slots[n]? with
  | none => rfl
  | some slot => cases h : slot.allocated <;> simp [Option.filter, FrameSlot.blank, h]

lemma isSome_allocated?_blank :
    (pool.blank.allocated? n).isSome = (pool.allocated? n).isSome := by
  rw [allocated?_blank, Option.isSome_map]

lemma refs_blank : pool.blank.refs n = pool.refs n := by
  rw [refs, allocated?_blank, refs]
  cases pool.allocated? n <;> rfl

lemma contents?_blank : pool.blank.contents? n = pool.slots[n]?.map fun _ => .zero := by
  rw [contents?, getElem?_blank, Option.map_map]
  rfl

/-- Zeros come before or after a change of a frame. -/
lemma blank_mk_modify {f g : FrameSlot → FrameSlot} (hfg : ∀ slot, (f slot).blank = g slot.blank)
    (free : List Nat) :
    blank ⟨pool.slots.modify n f, free⟩ = ⟨pool.blank.slots.modify n g, free⟩ := by
  rw [blank, FramePool.mk.injEq]
  refine ⟨Array.ext_getElem? fun k => ?_, rfl⟩
  rw [Array.getElem?_map, Array.getElem?_modify, Array.getElem?_modify, getElem?_blank]
  split
  · rw [Option.map_map, Option.map_map]
    exact congrArg (Option.map · _) (funext hfg)
  · rfl

/-- A change of contents does not show where all frames are blank. -/
lemma blank_mk_modify_page {f : FrameSlot → FrameSlot} (hf : ∀ slot, (f slot).blank = slot.blank) :
    blank ⟨pool.slots.modify n f, pool.free⟩ = pool.blank := by
  rw [blank_mk_modify (g := id) hf, blank, FramePool.mk.injEq]
  refine ⟨Array.ext_getElem? fun k => ?_, rfl⟩
  rw [Array.getElem?_modify]
  split <;> simp

lemma blank_modify {f g : FrameSlot → FrameSlot} (hfg : ∀ slot, (f slot).blank = g slot.blank) :
    (pool.modify n f).blank = pool.blank.modify n g :=
  blank_mk_modify (f := fun slot => if slot.allocated then f slot else slot)
    (g := fun slot => if slot.allocated then g slot else slot) (fun slot => by
      have hkept : slot.blank.allocated = slot.allocated := rfl
      rw [hkept]
      split
      · exact hfg slot
      · rfl) _

lemma blank_retain : (pool.retain n).blank = pool.blank.retain n := blank_modify fun _ => rfl

/-- A frame is marked as used or free, whatever it holds. -/
lemma blank_mark (b : Bool) (free : List Nat) :
    blank ⟨pool.slots.modify n fun slot => { slot with allocated := b, refs := 0 }, free⟩ =
      ⟨pool.blank.slots.modify n fun slot => { slot with allocated := b, refs := 0 }, free⟩ :=
  blank_mk_modify (f := fun slot => { slot with allocated := b, refs := 0 })
    (g := fun slot => { slot with allocated := b, refs := 0 }) (fun _ => rfl) free

lemma blank_alloc? : pool.blank.alloc? = pool.alloc?.map fun r => (r.1, r.2.blank) := by
  rw [alloc?, alloc?, blank]
  dsimp only
  cases pool.free with
  | nil => rfl
  | cons first rest =>
    dsimp only [Option.map_some]
    rw [blank_mark, blank]

lemma blank_reclaim : (pool.reclaim n).blank = pool.blank.reclaim n := by
  rw [reclaim, reclaim, allocated?_blank]
  cases pool.allocated? n with
  | none => rfl
  | some slot => exact blank_mark false _

lemma blank_discard : (pool.discard n).blank = pool.blank.discard n := by
  rw [discard, discard, refs_blank]
  split
  · exact blank_reclaim
  · rfl

lemma blank_release : (pool.release n).blank = pool.blank.release n := by
  have hless : (pool.modify n fun slot => { slot with refs := slot.refs - 1 }).blank =
      pool.blank.modify n fun slot => { slot with refs := slot.refs - 1 } :=
    blank_modify fun _ => rfl
  rw [release, release, blank_discard, hless]

/-- Changes what a frame in use holds. -/
def refill (pool : FramePool) (n : Nat) (g : Page → Page) : FramePool :=
  pool.modify n fun slot => { slot with page := g slot.page }

lemma blank_refill (g : Page → Page) : (pool.refill n g).blank = pool.blank := by
  refine blank_mk_modify_page fun slot => ?_
  split <;> rfl

/-- Contents change only where they are changed, in a frame in use. -/
lemma contents?_refill (g : Page → Page) :
    (pool.refill n g).contents? k =
      if n = k ∧ (pool.allocated? k).isSome then (pool.contents? k).map g
      else pool.contents? k := by
  rw [refill, contents?_modify, contents?, allocated?]
  by_cases hn : n = k
  · cases pool.slots[k]? with
    | none => simp [Option.filter]
    | some slot => cases h : slot.allocated <;> simp [hn, h, Option.filter]
  · rw [if_neg hn, if_neg fun hc => hn hc.1]

/-- A frame that was handed out and cleared holds the same as if it had held zeros. -/
lemma contents?_clear_alloc? (h : pool.alloc? = some (n, pool')) :
    (pool'.clear n).contents? n = pool.blank.contents? n := by
  have hclear : (pool'.clear n).contents? n = _ := contents?_refill fun _ => .zero
  have hin : (pool'.allocated? n).isSome = pool.slots[n]?.isSome := by
    rw [allocated?_alloc? h, if_pos rfl, Option.isSome_map]
  rw [hclear, contents?_alloc? h, contents?_blank, hin, contents?]
  cases pool.slots[n]? <;> simp

/-- **Pools that are the same but for the contents of some frames**: what they hold agrees in the
frames of which `P` holds. -/
structure Like (P : Nat → Prop) (pool pool' : FramePool) : Prop where
  blank : pool'.blank = pool.blank
  contents : ∀ n, P n → pool'.contents? n = pool.contents? n

namespace Like

lemma mono (h : Like P pool pool') (hQ : ∀ n, Q n → P n) : Like Q pool pool' :=
  ⟨h.blank, fun n hn => h.contents n (hQ n hn)⟩

lemma isSome_allocated? (h : Like P pool pool') (n : Nat) :
    (pool'.allocated? n).isSome = (pool.allocated? n).isSome := by
  rw [← isSome_allocated?_blank, h.blank, isSome_allocated?_blank]

/-- What counts references and frames, and touches no contents, keeps pools like each other. -/
lemma of_bookkeeping (h : Like P pool pool') {f : FramePool → FramePool}
    (hblank : ∀ pool, (f pool).blank = f pool.blank)
    (hcontents : ∀ pool n, (f pool).contents? n = pool.contents? n) :
    Like P (f pool) (f pool') where
  blank := by rw [hblank, hblank, h.blank]
  contents n hn := by rw [hcontents, hcontents, h.contents n hn]

lemma retain (h : Like P pool pool') (n : Nat) : Like P (pool.retain n) (pool'.retain n) :=
  h.of_bookkeeping (f := (·.retain n)) (fun _ => blank_retain) fun _ _ => contents?_retain

lemma release (h : Like P pool pool') (n : Nat) : Like P (pool.release n) (pool'.release n) :=
  h.of_bookkeeping (f := (·.release n)) (fun _ => blank_release) fun _ _ => contents?_release

lemma discard (h : Like P pool pool') (n : Nat) : Like P (pool.discard n) (pool'.discard n) :=
  h.of_bookkeeping (f := (·.discard n)) (fun _ => blank_discard) fun _ _ => contents?_discard

lemma releaseAll (h : Like P pool pool') (ns : List Nat) :
    Like P (pool.releaseAll ns) (pool'.releaseAll ns) := by
  induction ns generalizing pool pool' with
  | nil => exact h
  | cons n ns ih => exact ih (h.release n)

lemma refill (h : Like P pool pool') (n : Nat) (g : Page → Page) :
    Like P (pool.refill n g) (pool'.refill n g) where
  blank := by rw [blank_refill, blank_refill, h.blank]
  contents k hk := by
    rw [contents?_refill, contents?_refill, h.isSome_allocated?, h.contents k hk]

lemma write (h : Like P pool pool') (n start : Nat) (data : List UInt8) :
    Like P (pool.write n start data) (pool'.write n start data) :=
  h.refill n (·.write start data)

/-- **The next free frame** is the same in both, and once it is cleared it holds the same, whatever
it held. -/
lemma alloc?_cases (h : Like P pool pool') : (pool.alloc? = none ∧ pool'.alloc? = none) ∨
    ∃ n pool₁ pool₁', pool.alloc? = some (n, pool₁) ∧ pool'.alloc? = some (n, pool₁') ∧
      Like P pool₁ pool₁' ∧ Like (fun k => P k ∨ k = n) (pool₁.clear n) (pool₁'.clear n) := by
  have hboth : pool'.alloc?.map (fun r => (r.1, r.2.blank)) =
      pool.alloc?.map fun r => (r.1, r.2.blank) := by
    rw [← blank_alloc?, ← blank_alloc?, h.blank]
  cases hone : pool.alloc? with
  | none =>
    rw [hone, Option.map_none, Option.map_eq_none_iff] at hboth
    exact .inl ⟨rfl, hboth⟩
  | some r =>
    obtain ⟨n, pool₁⟩ := r
    rw [hone, Option.map_some, Option.map_eq_some_iff] at hboth
    obtain ⟨⟨n', pool₁'⟩, hother, hr⟩ := hboth
    obtain ⟨rfl, hblank⟩ := Prod.mk.inj hr
    have hlike : Like P pool₁ pool₁' := ⟨hblank, fun k hk => by
      rw [contents?_alloc? hone, contents?_alloc? hother, h.contents k hk]⟩
    have hclear : Like P (pool₁.clear n') (pool₁'.clear n') := hlike.refill n' fun _ => .zero
    refine .inr ⟨n', pool₁, pool₁', rfl, hother, hlike, hclear.blank, fun k hk => ?_⟩
    rcases hk with hk | rfl
    · exact hclear.contents k hk
    · rw [contents?_clear_alloc? hone, contents?_clear_alloc? hother, h.blank]

/-- What can be looked at is the same. -/
lemma page?_eq (h : Like P pool pool') (hn : P n) : pool'.page? n = pool.page? n := by
  have hin := h.isSome_allocated? n
  cases hone : pool.allocated? n with
  | none =>
    rw [hone, Option.isSome_none, Option.isSome_eq_false_iff, Option.isNone_iff_eq_none] at hin
    rw [page?, page?, hin, hone]
  | some slot =>
    rw [hone] at hin
    obtain ⟨slot', hother⟩ := Option.isSome_iff_exists.1 hin
    rw [page?_of_allocated? hone, page?_of_allocated? hother, h.contents n hn]

lemma read_eq (h : Like P pool pool') (hn : P n) (start len : Nat) (absent : UInt8) :
    pool'.read n start len absent = pool.read n start len absent := by
  rw [read, read, h.page?_eq hn]

/-- A write through frames comes to the same in both. -/
lemma writePieces {ε : Type} (h : Like P pool pool') (frameOf : Nat → Except ε Nat)
    (ps : List Piece) (data : List UInt8) :
    Beside (Like P) (Exokernel.writePieces frameOf ps data pool)
      (Exokernel.writePieces frameOf ps data pool') := by
  induction ps generalizing data pool pool' with
  | nil => exact .mk _ h
  | cons p ps ih =>
    rw [Exokernel.writePieces, Exokernel.writePieces]
    cases frameOf p.start with
    | error e => exact .mk _ h
    | ok n => exact ih (h.write n _ _) _

/-- A read through frames that can be looked at comes to the same in both. -/
lemma readPieces_eq {ε : Type} (h : Like P pool pool') {frameOf : Nat → Except ε Nat}
    (hshow : ∀ address n, frameOf address = .ok n → P n) (absent : UInt8) (ps : List Piece) :
    readPieces frameOf absent pool' ps = readPieces frameOf absent pool ps := by
  induction ps with
  | nil => rfl
  | cons p ps ih =>
    rw [readPieces, readPieces, ih]
    cases hn : frameOf p.start with
    | error e => rfl
    | ok n =>
      dsimp only
      rw [h.read_eq (hshow _ _ hn)]

end Like

/-- The pool with something else left in a frame, in use or not. -/
def soil (pool : FramePool) (n : Nat) (page : Page) : FramePool :=
  { pool with slots := pool.slots.modify n fun slot => { slot with page } }

lemma like_soil (page : Page) (hn : ¬ P n) : Like P pool (pool.soil n page) where
  blank := blank_mk_modify_page (f := fun slot => { slot with page }) fun _ => rfl
  contents k hk := by
    have hne : n ≠ k := fun heq => hn (heq ▸ hk)
    rw [contents?, contents?, soil, Array.getElem?_modify, if_neg hne]

end FramePool

end Exokernel
