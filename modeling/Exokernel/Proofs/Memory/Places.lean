/-
Where the bytes of a range go to, be it that several addresses lead to one place.

* `FramePool.byte?_write_of_fits`: what a write leaves in any frame;
* `Landed`: bytes that went to their places one after the other. What came to a place last is there;
* `landed_writePieces`: **a write lands its bytes** as far as it gets;
* `Machine.place?`: the frame behind an address, and the place in it;
* `Machine.Backed`: memory whose pages show frames in use;
* `Finds`, `Backed.landed`, `Backed.readPieces_shown`: **what is written** through the frames of
  places lands there, and what is read comes from there;
* `shownByte?_of_landed`: a byte that came to its place last is shown;
* `finds_mappedFrame`, `finds_userFrame`: the kernel and user code find these frames.
-/
import Exokernel.Proofs.Memory.Checks
import Exokernel.Proofs.Memory.Views

namespace Exokernel

open Layout

namespace FramePool

variable {pool : FramePool} {k start : Nat} {data : List UInt8}

/-- **What a write leaves** in any frame, if it ends in the frame that it goes to. -/
lemma byte?_write_of_fits (hin : (pool.allocated? k).isSome)
    (hfits : start + data.length ≤ pageSize) (n i : Nat) :
    (pool.write k start data).byte? n i =
      if k = n ∧ start ≤ i ∧ i < start + data.length then data[i - start]?
      else pool.byte? n i := by
  by_cases hkn : k = n
  · subst hkn
    by_cases hi : i < pageSize
    · rw [byte?_write hin _ _ hi]
      simp only [true_and]
    · have hge := Nat.not_lt.1 hi
      rw [byte?_of_le hge, byte?_of_le hge, if_neg fun h => hi (Nat.lt_of_lt_of_le h.2.2 hfits)]
  · rw [byte?_eq_of_contents? (contents?_write_of_ne _ _ hkn), if_neg fun h => hkn h.1]

end FramePool

/-! ### Bytes that go to their places -/

/-- **Bytes that went to their places** one after the other, that of address `a` to `place a`, which
is a place of a frame. What came to a place last is there, and where none came, nothing changed. -/
structure Landed (place : Nat → Option (Nat × Nat)) (start : Nat) (data : List UInt8)
    (pool pool' : FramePool) : Prop where
  written : ∀ j < data.length, ∀ n i, place (start + j) = some (n, i) →
    (∀ j' < data.length, j < j' → place (start + j') ≠ some (n, i)) →
    pool'.byte? n i = data[j]?
  kept : ∀ n i, (∀ j < data.length, place (start + j) ≠ some (n, i)) →
    pool'.byte? n i = pool.byte? n i

section Landed

variable {ε : Type} {place : Nat → Option (Nat × Nat)} {start k : Nat} {data more : List UInt8}
  {pool pool₁ pool₂ : FramePool} {frameOf : Nat → Except ε Nat} {ps : List Piece}

lemma Landed.nil (place : Nat → Option (Nat × Nat)) (start : Nat) (pool : FramePool) :
    Landed place start [] pool pool :=
  ⟨fun _ hj => absurd hj (Nat.not_lt_zero _), fun _ _ _ => rfl⟩

/-- A write to one frame. -/
lemma Landed.write (hin : (pool.allocated? k).isSome)
    (hfits : start % pageSize + data.length ≤ pageSize)
    (hplace : ∀ j < data.length, place (start + j) = some (k, start % pageSize + j)) :
    Landed place start data pool (pool.write k (start % pageSize) data) := by
  refine ⟨fun j hj n i hji _ => ?_, fun n i hnone => ?_⟩
  · rw [hplace j hj, Option.some.injEq, Prod.mk.injEq] at hji
    obtain ⟨rfl, rfl⟩ := hji
    rw [FramePool.byte?_write_of_fits hin hfits, if_pos ⟨rfl, by omega, by omega⟩,
      Nat.add_sub_cancel_left]
  · rw [FramePool.byte?_write_of_fits hin hfits]
    refine if_neg ?_
    rintro ⟨rfl, hfirst, hlast⟩
    refine hnone (i - start % pageSize) (by omega) ?_
    rw [hplace _ (by omega), Nat.add_sub_cancel' hfirst]

/-- **One write after the other**: what the later one brings stands. -/
lemma Landed.append (h₁ : Landed place start data pool pool₁)
    (h₂ : Landed place (start + data.length) more pool₁ pool₂) :
    Landed place start (data ++ more) pool pool₂ := by
  refine ⟨fun j hj n i hji hlast => ?_, fun n i hnone => ?_⟩
  · rw [List.length_append] at hj hlast
    by_cases hfirst : j < data.length
    · -- no byte of the second write comes to the place
      have hkept : pool₂.byte? n i = pool₁.byte? n i := h₂.kept n i fun j' hj' => by
        rw [Nat.add_assoc]
        exact hlast _ (by omega) (by omega)
      have hwritten : pool₁.byte? n i = data[j]? :=
        h₁.written j hfirst n i hji fun j' hj' => hlast j' (by omega)
      rw [hkept, hwritten, List.getElem?_append_left hfirst]
    · have hsplit : start + j = start + data.length + (j - data.length) := by omega
      rw [hsplit] at hji
      rw [List.getElem?_append_right (Nat.not_lt.1 hfirst)]
      refine h₂.written (j - data.length) (by omega) n i hji fun j' hj' hlt => ?_
      rw [Nat.add_assoc]
      exact hlast _ (by omega) (by omega)
  · rw [List.length_append] at hnone
    have hkept : pool₂.byte? n i = pool₁.byte? n i := h₂.kept n i fun j hj => by
      rw [Nat.add_assoc]
      exact hnone _ (by omega)
    rw [hkept]
    exact h₁.kept n i fun j hj => hnone j (by omega)

/-- **A write of pieces** lands its bytes, as far as it gets. -/
lemma landed_writePieces (hcont : Contiguous start ps) (hlen : totalSize ps ≤ data.length)
    (hplace : ∀ p ∈ ps, ∀ n, frameOf p.start = .ok n → (pool.allocated? n).isSome ∧
      ∀ j < p.size, place (p.start + j) = some (n, p.offset + j)) :
    Landed place start (data.take (writtenBytes frameOf ps)) pool
      (writePieces frameOf ps data pool).2 := by
  induction ps generalizing start data pool with
  | nil => exact .nil place start pool
  | cons p ps ih =>
    obtain ⟨rfl, hoff, htail⟩ := hcont
    have htotal : totalSize (p :: ps) = p.size + totalSize ps := rfl
    rw [writePieces, writtenBytes]
    cases hk : frameOf p.start with
    | error e => exact .nil place p.start pool
    | ok k =>
      obtain ⟨hin, hbytes⟩ := hplace p List.mem_cons_self k hk
      have hsize : (data.take p.size).length = p.size := List.length_take_of_le (by omega)
      have hfirst : Landed place p.start (data.take p.size) pool
          (pool.write k p.offset (data.take p.size)) :=
        .write hin (by rwa [hsize]) (by rwa [hsize])
      have hrest : Landed place (p.start + p.size)
          ((data.drop p.size).take (writtenBytes frameOf ps))
          (pool.write k p.offset (data.take p.size))
          (writePieces frameOf ps (data.drop p.size)
            (pool.write k p.offset (data.take p.size))).2 :=
        ih htail (by rw [List.length_drop]; omega) fun q hq n hn => by
          obtain ⟨hin', hbytes'⟩ := hplace q (List.mem_cons_of_mem _ hq) n hn
          exact ⟨(FramePool.isSome_allocated?_write _ _).trans hin', hbytes'⟩
      rw [List.take_add]
      refine hfirst.append ?_
      rwa [hsize]

end Landed

/-! ### The places of addresses -/

namespace Machine

variable {m m' : Machine} {s a b n i : Nat} {va : VirtAddr} {data : List UInt8}

/-- The frame behind the address with number `a`, and the place in it. -/
def place? (m : Machine) (s a : Nat) : Option (Nat × Nat) :=
  if a < addressCount then (m.lookup? s (.ofNat a)).map fun e => (e.frame, a % pageSize) else none

lemma place?_eq_some_iff : m.place? s a = some (n, i) ↔
    a < addressCount ∧ a % pageSize = i ∧ ∃ e, m.lookup? s (.ofNat a) = some e ∧ e.frame = n := by
  rw [place?]
  split
  · next hcount =>
    simp only [Option.map_eq_some_iff, Prod.mk.injEq]
    constructor
    · rintro ⟨e, he, hframe, hplace⟩
      exact ⟨hcount, hplace, e, he, hframe⟩
    · rintro ⟨-, hplace, e, he, hframe⟩
      exact ⟨e, he, hframe, hplace⟩
  · next hcount => exact ⟨by rintro ⟨⟩, fun h => absurd h.1 hcount⟩

/-- The addresses of one page lie in one frame. -/
lemma place?_of_page (h : m.place? s a = some (n, i)) (hpage : a / pageSize = b / pageSize) :
    m.place? s b = some (n, b % pageSize) := by
  have hps : pageSize = 4096 := rfl
  have hcount : addressCount = 0x100000000 := rfl
  obtain ⟨ha, -, e, he, hframe⟩ := place?_eq_some_iff.1 h
  have hb : b < addressCount := by
    rw [hps] at hpage
    omega
  have hsame : (VirtAddr.ofNat b).page = (VirtAddr.ofNat a).page := by
    rw [VirtAddr.page, VirtAddr.page, VirtAddr.toNat_ofNat_of_lt hb, VirtAddr.toNat_ofNat_of_lt ha,
      hpage]
  exact place?_eq_some_iff.2 ⟨hb, rfl, e, (lookup?_of_page hsame).trans he, hframe⟩

/-- What an address shows is what its place holds. -/
lemma shownByte?_of_place? (h : m.place? s a = some (n, i)) :
    m.shownByte? s (.ofNat a) = m.frames.byte? n i := by
  obtain ⟨hcount, rfl, e, he, rfl⟩ := place?_eq_some_iff.1 h
  rw [shownByte?, he, Option.bind_some, VirtAddr.offset, VirtAddr.toNat_ofNat_of_lt hcount]

/-- Frames and their contents do not matter to where addresses lead. -/
lemma place?_of_spaces (hspaces : m'.spaces = m.spaces) (hwindows : m'.windows = m.windows) :
    m'.place? s = m.place? s := by
  funext a
  rw [place?, place?, lookup?, lookup?, space?, space?, hspaces, hwindows]

/-- **Memory whose pages are backed**: it has the windows that a machine is made with, and every
frame that a page shows is in use. -/
structure Backed (m : Machine) : Prop where
  windows : ∃ processors frames, m.windows = (ofSize processors frames).windows
  allocated : ∀ s va e, m.lookup? s va = some e → (m.frames.allocated? e.frame).isSome

/-- So it is with the accounts in order. -/
lemma Accounted.backed {kept loose : List Nat} {processors frames : Nat}
    (h : m.Accounted kept loose) (hwindows : m.windows = (ofSize processors frames).windows) :
    m.Backed :=
  ⟨⟨processors, frames, hwindows⟩, fun _ _ _ => h.isSome_of_lookup?⟩

namespace Backed

/-- The frame of a place is in use. -/
lemma isSome_of_place? (hm : m.Backed) (h : m.place? s a = some (n, i)) :
    (m.frames.allocated? n).isSome := by
  obtain ⟨-, -, e, he, rfl⟩ := place?_eq_some_iff.1 h
  exact hm.allocated s _ e he

/-- **The last page of the address space** shows nothing: the windows end before it. -/
lemma place?_last (hm : m.Backed) (s : Nat) : m.place? s (addressCount - 1) = none := by
  obtain ⟨processors, frames, hwindows⟩ := hm.windows
  have hclosed : m.windows.find? ((addressCount - 1) / pageSize) = none := by
    rw [hwindows]
    exact (find?_openWindow (by decide)).trans (find?_openWindow (by decide))
  have hnat : (VirtAddr.ofNat (addressCount - 1)).toNat = addressCount - 1 :=
    VirtAddr.toNat_ofNat_of_lt (by decide)
  rw [place?, if_pos (by decide), lookup?, hnat, if_pos (by decide), VirtAddr.page, hnat, hclosed]
  rfl

/-- A range whose addresses all lead to places ends in the address space. -/
lemma lt_addressCount (hm : m.Backed) {start stop : Nat} (hstart : start < addressCount)
    (h : ∀ a, start ≤ a → a < stop → (m.place? s a).isSome) : stop < addressCount := by
  by_contra hover
  have hlast := h (addressCount - 1) (Nat.le_pred_of_lt hstart)
    (Nat.lt_of_lt_of_le (by decide) (Nat.not_lt.1 hover))
  rw [hm.place?_last] at hlast
  cases hlast

end Backed

/-! ### Moving bytes to and from their places -/

section Frames

variable {ε : Type} {frameOf : Nat → Except ε Nat} {start len : Nat}

/-- The frames that are found are those of the places. -/
def Finds (m : Machine) (s : Nat) (frameOf : Nat → Except ε Nat) : Prop :=
  ∀ a n, frameOf a = .ok n → m.place? s a = some (n, a % pageSize)

/-- The bytes of a piece lie in the frame that is found for the first. -/
lemma place?_of_piece {p : Piece} (hoff : p.offset + p.size ≤ pageSize)
    (h : m.place? s p.start = some (n, p.offset)) {j : Nat} (hj : j < p.size) :
    m.place? s (p.start + j) = some (n, p.offset + j) := by
  have hps : pageSize = 4096 := rfl
  simp only [Piece.offset, hps] at hoff
  have hpage : p.start / pageSize = (p.start + j) / pageSize := by
    rw [hps]
    omega
  have hplace : (p.start + j) % pageSize = p.offset + j := by
    simp only [Piece.offset, hps]
    omega
  rw [place?_of_page h hpage, hplace]

/-- **A write** through the frames of places lands there. -/
lemma Backed.landed (hm : m.Backed) (hframe : m.Finds s frameOf) (start : Nat)
    (data : List UInt8) :
    Landed (m.place? s) start (data.take (writtenBytes frameOf (pieces start data.length))) m.frames
      (writePieces frameOf (pieces start data.length) data m.frames).2 := by
  obtain ⟨hcont, htotal⟩ := contiguous_pieces start data.length
  refine landed_writePieces hcont (Nat.le_of_eq htotal) fun p hp n hn => ?_
  have hplace := hframe p.start n hn
  exact ⟨hm.isSome_of_place? hplace, fun j hj => place?_of_piece (hcont.fits hp) hplace hj⟩

/-- There is a place for every byte of it that gets through. -/
lemma isSome_place?_of_written (hframe : m.Finds s frameOf) (hfirst : start ≤ a)
    (hlast : a < start + writtenBytes frameOf (pieces start len)) : (m.place? s a).isSome := by
  obtain ⟨q, -, hpage, n, hn⟩ := writtenBytes_page (contiguous_pieces start len).1 hfirst hlast
  rw [place?_of_page (hframe q.start n hn) hpage]
  rfl

/-- **A byte that came to its place last** is shown then. -/
lemma shownByte?_of_landed (hlanded : Landed (m.place? s) start data m.frames m'.frames)
    (hspaces : m'.spaces = m.spaces) (hwindows : m'.windows = m.windows) {j : Nat}
    (hj : j < data.length) (hplace : (m.place? s (start + j)).isSome)
    (hlast : ∀ j' < data.length, j < j' → ∀ x, m.place? s (start + j) = some x →
      m.place? s (start + j') ≠ some x) :
    m'.shownByte? s (.ofNat (start + j)) = data[j]? := by
  obtain ⟨⟨n, i⟩, hplace⟩ := Option.isSome_iff_exists.1 hplace
  have hplace' : m'.place? s (start + j) = some (n, i) := by
    rwa [place?_of_spaces hspaces hwindows]
  rw [shownByte?_of_place? hplace']
  exact hlanded.written j hj n i hplace fun j' hj' hlt => hlast j' hj' hlt (n, i) hplace

/-- **A read** through the frames of places brings what the addresses show. -/
lemma Backed.readPieces_shown (hm : m.Backed) (hframe : m.Finds s frameOf) {absent : UInt8}
    {bytes : List UInt8} (h : readPieces frameOf absent m.frames (pieces start len) = .ok bytes) :
    bytes.length = len ∧ ∀ j < len, bytes[j]? = m.shownByte? s (.ofNat (start + j)) := by
  obtain ⟨hcont, htotal⟩ := contiguous_pieces start len
  obtain ⟨hlen, hbytes⟩ := readPieces_getElem? hcont h
  rw [htotal] at hlen hbytes
  refine ⟨hlen, fun j hj => ?_⟩
  obtain ⟨p, -, n, hn, hpage, hbyte⟩ := hbytes j hj
  have hfirst := hframe p.start n hn
  have hplace : m.place? s (start + j) = some (n, (start + j) % pageSize) :=
    place?_of_page hfirst hpage
  obtain ⟨slot, hslot⟩ := Option.isSome_iff_exists.1 (hm.isSome_of_place? hfirst)
  have hpage' : m.frames.page? n = some slot.page := by
    rw [FramePool.page?, hslot, Option.map_some]
  rw [shownByte?_of_place? hplace, hbyte slot.page hpage', FramePool.byte?,
    ← FramePool.page?_of_allocated? hslot, hpage', Option.bind_some]

end Frames

/-- **The kernel finds** the frame of the place. -/
lemma mappedFrame_eq (m : Machine) (s : Nat) (va : VirtAddr) (a : Nat) :
    m.mappedFrame s va a = match m.place? s a with
      | some (n, _) => .ok n
      | none => .error (if a < addressCount then .ofNat a else va) := by
  rw [mappedFrame, place?]
  by_cases hcount : a < addressCount
  · rw [if_pos hcount, if_pos hcount, if_pos hcount,
      lookup?_of_page (VirtAddr.page_pageBase (.ofNat a))]
    cases m.lookup? s (.ofNat a) <;> rfl
  · rw [if_neg hcount, if_neg hcount, if_neg hcount]

lemma finds_mappedFrame : m.Finds s (m.mappedFrame s va) := by
  intro a n h
  rw [mappedFrame_eq] at h
  cases hplace : m.place? s a with
  | none =>
    rw [hplace] at h
    cases h
  | some x =>
    rw [hplace] at h
    cases h
    obtain ⟨-, hoff, -⟩ := place?_eq_some_iff.1 hplace
    rw [hoff]

/-- User code finds it as well, where it is let through. -/
lemma finds_userFrame {write : Bool} : m.Finds s (m.userFrame s write va) := by
  intro a n h
  have hcount : a < addressCount := by
    by_contra hover
    rw [userFrame, if_neg hover] at h
    cases h
  rcases userFrame_cases m s write va hcount with ⟨-, e, he, hok⟩ | ⟨-, err, herror⟩
  · rw [hok] at h
    cases h
    exact place?_eq_some_iff.2 ⟨hcount, rfl, e, he, rfl⟩
  · rw [herror] at h
    cases h

end Machine

end Exokernel
