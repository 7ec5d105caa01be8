/-
Pages that nobody else can write.

* `Memory`, `Memory.store`: what a process has at each address, and what a store makes of it;
* `Machine.Guards`: **a page holds given bytes**, and nobody can write its frame through another
  page;
* `Machine.Puts`: a page comes to show a frame, and nothing else changes;
* `mapZeroed_cases`, `Puts.of_mapKept`: fresh pages and pages that are shown elsewhere are put so;
* `Guards.puts`, `Guards.unmap`, `Guards.userWrite`: how a guarded page fares when other pages
  change and when user code writes.
-/
import Exokernel.Proofs.Memory.Allowances
import Exokernel.Proofs.Memory.Bytes

namespace Exokernel

open Layout

/-- What a process has in its memory: a byte at every address, or nothing. -/
abbrev Memory := Nat → Option UInt8

namespace Memory

/-- Memory after `data` was stored at `start`. Where there is no memory, nothing is stored. -/
def store (v : Memory) (start : Nat) (data : List UInt8) : Memory := fun a =>
  if start ≤ a ∧ a < start + data.length then (v a).bind fun _ => data[a - start]? else v a

/-- Where there is no memory, nothing is stored. -/
lemma store_blank (start : Nat) (data : List UInt8) :
    Memory.store (fun _ => none) start data = fun _ => none := by
  funext a
  rw [store]
  split <;> rfl

/-- A store that is done again and gets as far or farther, or not so far, comes to one store that
gets as far as the farther one. -/
lemma store_take_store_take (v : Memory) (start : Nat) (data : List UInt8) (n k : Nat) :
    (v.store start (data.take n)).store start (data.take k) =
      v.store start (data.take (max n k)) := by
  funext a
  have hget : ∀ j, a - start < j → (data.take j)[a - start]? = data[a - start]? :=
    fun j hj => List.getElem?_take_of_lt hj
  simp only [store, List.length_take]
  by_cases hk : start ≤ a ∧ a < start + min k data.length
  · have hmax : start ≤ a ∧ a < start + min (max n k) data.length := by omega
    rw [if_pos hk, if_pos hmax, hget k (by omega), hget (max n k) (by omega)]
    split
    · next hn =>
      rw [hget n (by omega), List.getElem?_eq_getElem (by omega)]
      cases v a <;> rfl
    · rfl
  · rw [if_neg hk]
    by_cases hn : start ≤ a ∧ a < start + min n data.length
    · have hmax : start ≤ a ∧ a < start + min (max n k) data.length := by omega
      rw [if_pos hn, if_pos hmax, hget n (by omega), hget (max n k) (by omega)]
    · have hmax : ¬ (start ≤ a ∧ a < start + min (max n k) data.length) := by omega
      rw [if_neg hn, if_neg hmax]

lemma store_nil (v : Memory) (start : Nat) : v.store start [] = v := by
  funext a
  rw [store, if_neg (by rw [List.length_nil]; omega)]

end Memory

namespace Machine

variable {m m' m'' : Machine} {s s' page page' n frame : Nat} {va : VirtAddr} {perm : Perm}
  {e : Mapping} {v : Memory}

/-- **A page holds the bytes of a memory**, and nobody can write its frame through another page. -/
structure Guards (m : Machine) (s page : Nat) (v : Memory) : Prop where
  bytes : ∀ i < pageSize, m.byte? s (page * pageSize + i) = v (page * pageSize + i)
  sole : ∀ e, m.mapping? s page = some e → ∀ s' page', m.Writes e.frame s' page' →
    s' = s ∧ page' = page

namespace Guards

/-- What a guarded page needs to stay so. -/
lemma of_same (h : m.Guards s page v) (hmap : m'.mapping? s page = m.mapping? s page)
    (hcont : ∀ e, m.mapping? s page = some e →
      m'.frames.contents? e.frame = m.frames.contents? e.frame)
    (hsole : ∀ e, m.mapping? s page = some e → ∀ s' page', m'.Writes e.frame s' page' →
      m.Writes e.frame s' page') : m'.Guards s page v := by
  refine ⟨fun i hi => ?_, fun e he s' page' hw => ?_⟩
  · rw [← h.bytes i hi]
    cases he : m.mapping? s page with
    | none => rw [byte?_of_none he hi, byte?_of_none (hmap.trans he) hi]
    | some e =>
      rw [byte?_of_mapping? he hi, byte?_of_mapping? (hmap.trans he) hi]
      exact FramePool.byte?_eq_of_contents? (hcont e he) i
  · rw [hmap] at he
    exact h.sole e he s' page' (hsole e he s' page' hw)

/-- A page that guards bytes guards them under any memory that agrees there. -/
lemma congr {w : Memory} (h : m.Guards s page v)
    (hw : ∀ i < pageSize, w (page * pageSize + i) = v (page * pageSize + i)) :
    m.Guards s page w :=
  ⟨fun i hi => (h.bytes i hi).trans (hw i hi).symm, h.sole⟩

/-- Pages elsewhere may disappear. -/
lemma of_fewer (h : m.Guards s page v) (hmap : m'.mapping? s page = m.mapping? s page)
    (hcont : ∀ e, m.mapping? s page = some e →
      m'.frames.contents? e.frame = m.frames.contents? e.frame)
    (hfewer : ∀ s' page' e, m'.mapping? s' page' = some e → m.mapping? s' page' = some e) :
    m'.Guards s page v :=
  h.of_same hmap hcont fun _ _ _ _ ⟨e', he', hrest⟩ => ⟨e', hfewer _ _ e' he', hrest⟩

/-- A page that is guarded and shows nothing has no bytes. -/
lemma none_of_mapping? (h : m.Guards s page v) (hnone : m.mapping? s page = none) {i : Nat}
    (hi : i < pageSize) : v (page * pageSize + i) = none :=
  (h.bytes i hi).symm.trans (byte?_of_none hnone hi)

end Guards

/-! ### One page that changes -/

/-- Page `page` of address space `s` comes to show `e`, and frames in use hold what they held. -/
structure Puts (m : Machine) (s page : Nat) (e : Mapping) (m' : Machine) : Prop where
  mapping : ∀ s' page', m'.mapping? s' page' =
    if s = s' ∧ page = page' then some e else m.mapping? s' page'
  contents : ∀ n, (m.frames.allocated? n).isSome → m'.frames.contents? n = m.frames.contents? n

/-- Who can write a frame after a page was put. -/
lemma Puts.writes (h : m.Puts s page e m') (hw : m'.Writes n s' page') :
    m.Writes n s' page' ∨
      (s = s' ∧ page = page') ∧ e.frame = n ∧ e.perm.contains .writable = true := by
  obtain ⟨e', he', hframe, hperm⟩ := hw
  rw [h.mapping] at he'
  split at he'
  · next hsame =>
    cases he'
    exact .inr ⟨hsame, hframe, hperm⟩
  · exact .inl ⟨e', he', hframe, hperm⟩

/-- **Another page that is put** leaves a guarded page alone, unless it lets user code write the
frame. -/
lemma Guards.puts {s₂ page₂ : Nat} {e₂ : Mapping} {kept loose : List Nat}
    (h : m.Guards s page v) (hacc : m.Accounted kept loose) (hput : m.Puts s₂ page₂ e₂ m')
    (hne : ¬ (s₂ = s ∧ page₂ = page))
    (hperm : e₂.perm.contains .writable = true →
      ∀ e, m.mapping? s page = some e → e₂.frame ≠ e.frame) : m'.Guards s page v := by
  refine h.of_same ((hput.mapping s page).trans (if_neg hne))
    (fun e he => hput.contents _ (hacc.isSome_of_mapping? he)) fun e he s' page' hw => ?_
  rcases hput.writes hw with hw | ⟨-, hframe, hwritable⟩
  · exact hw
  · exact absurd hframe (hperm hwritable e he)

/-- The page that is put is guarded if nobody else could write the frame. -/
lemma Puts.guards (hput : m.Puts s page e m')
    (hbytes : ∀ i < pageSize, m'.frames.byte? e.frame i = v (page * pageSize + i))
    (hsole : ∀ s' page', m.Writes e.frame s' page' → s' = s ∧ page' = page) :
    m'.Guards s page v := by
  have hself : m'.mapping? s page = some e := (hput.mapping s page).trans (if_pos ⟨rfl, rfl⟩)
  refine ⟨fun i hi => (byte?_of_mapping? hself hi).trans (hbytes i hi),
    fun e' he' s' page' hw => ?_⟩
  rw [hself] at he'
  cases he'
  rcases hput.writes hw with hw | ⟨⟨rfl, rfl⟩, -⟩
  · exact hsole s' page' hw
  · exact ⟨rfl, rfl⟩

/-- A page that is hidden leaves every other guarded page alone. -/
lemma Guards.unmap (h : m.Guards s page v) (hne : ¬ (s' = s ∧ va.page = page)) :
    (m.unmap s' va).Guards s page v := by
  refine h.of_fewer ((mapping?_unmap s page).trans (if_neg hne)) (fun e _ => contents?_unmap _)
    fun s₁ page₁ e he => ?_
  rw [mapping?_unmap] at he
  split at he
  · cases he
  · exact he

/-! ### Fresh pages and pages that are shown elsewhere -/

/-- **A fresh page** is put with a frame that was not in use, or no page changes. -/
lemma mapZeroed_cases {kept loose : List Nat} (hacc : m.Accounted kept loose) (s : Nat)
    (va : VirtAddr) (perm : Perm) :
    ((m.mapZeroed s va perm).1 = .ok () ∧ ∃ n, (m.frames.allocated? n).isSome = false ∧
      m.Puts s va.page ⟨n, perm ||| .present⟩ (m.mapZeroed s va perm).2) ∨
    (∃ e, (m.mapZeroed s va perm).1 = .error e) ∧
      (∀ s' page', (m.mapZeroed s va perm).2.mapping? s' page' = m.mapping? s' page') ∧
      ∀ n, (m.frames.allocated? n).isSome →
        (m.mapZeroed s va perm).2.frames.contents? n = m.frames.contents? n := by
  rw [mapZeroed]
  split
  · exact .inr ⟨⟨_, rfl⟩, fun _ _ => rfl, fun _ _ => rfl⟩
  · next frame m₁ ha =>
    obtain ⟨frames, hall, rfl⟩ := allocFrame_cases ha
    have hfresh : (m.frames.allocated? frame).isSome = false := by
      by_contra hin
      rw [Bool.not_eq_false] at hin
      exact hacc.ledger.backs.not_mem_free hin
        (FramePool.free_of_alloc? hall ▸ List.mem_cons_self)
    have hclear : ∀ n, (m.frames.allocated? n).isSome →
        (frames.clear frame).contents? n = m.frames.contents? n := fun n hn => by
      have hne : frame ≠ n := fun heq => by
        rw [heq, hn] at hfresh
        cases hfresh
      exact (FramePool.contents?_clear_of_ne hne).trans (FramePool.contents?_alloc? hall)
    dsimp only
    split
    · exact .inr ⟨⟨_, rfl⟩, fun _ _ => rfl,
        fun n hn => FramePool.contents?_discard.trans (hclear n hn)⟩
    · next m₂ hm =>
      exact .inl ⟨rfl, frame, hfresh, fun s' page' => mapping?_map hm s' page',
        fun n hn => (contents?_map hm n).trans (hclear n hn)⟩

/-- A frame that is kept meanwhile is put. -/
lemma Puts.of_mapKept (h : (m.retain frame).map s frame va perm = .ok m') :
    m.Puts s va.page ⟨frame, perm ||| .present⟩ (m'.release frame) where
  mapping s' page' := mapping?_map h s' page'
  contents n _ := FramePool.contents?_release.trans
    ((contents?_map h n).trans FramePool.contents?_retain)

/-! ### What user code writes -/

/-- **A store** leaves its bytes in the guarded pages of its address space, and no others. -/
lemma Guards.userWrite {kept loose : List Nat} (h : m.Guards s page v)
    (hacc : m.Accounted kept loose) (data : List UInt8) :
    (m.userWrite s va data).2.Guards s page
      (v.store va.toNat (data.take (m.userWritten s va data))) := by
  have hwritten : m.userWritten s va data ≤ data.length := userWritten_le data
  refine ⟨fun i hi => ?_, h.sole⟩
  have hbytes := h.bytes i hi
  rw [Memory.store, List.length_take, Nat.min_eq_left hwritten]
  cases he : m.mapping? s page with
  | none =>
    have he' : (m.userWrite s va data).2.mapping? s page = none := he
    rw [h.none_of_mapping? he hi, byte?_of_none he' hi]
    split <;> rfl
  | some e =>
    have hsole : ∀ page' ∈ pagesOf va.toNat data.length, ∀ e', m.mapping? s page' = some e' →
        e'.frame = e.frame → e'.perm.contains .writable = true → page' = page :=
      fun page' _ e' he' hframe hperm => (h.sole e he s page' ⟨e', he', hframe, hperm⟩).2
    rw [byte?_userWrite hacc data he hsole hi]
    split
    · next hthere =>
      obtain ⟨b, hb⟩ := FramePool.exists_byte? (hacc.isSome_of_mapping? he) hi
      rw [byte?_of_mapping? he hi, hb] at hbytes
      rw [← hbytes, Option.bind_some, List.getElem?_take_of_lt (by omega)]
    · exact hbytes

/-- A store of another address space leaves a guarded page alone. -/
lemma Guards.userWrite_of_ne {kept loose : List Nat} (h : m.Guards s page v)
    (hacc : m.Accounted kept loose) (hs : s' ≠ s) (data : List UInt8) :
    (m.userWrite s' va data).2.Guards s page v := by
  refine h.of_same rfl (fun e he => ?_) fun _ _ _ _ hw => hw
  refine contents?_userWrite data (hacc.notMem_tableFrames he) fun page' e' he' hperm hframe => ?_
  exact hs (h.sole e he s' page' ⟨e', he', hframe, hperm⟩).1

end Machine

end Exokernel
