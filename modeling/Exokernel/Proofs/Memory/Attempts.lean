/-
Accesses of user code to a range of its pages.

* `Machine.Covered`: a range below `Layout.userTop` all of whose pages show something;
* `Covered.userRead_ok`, `Covered.userWrite_ok`: **an access to such a range succeeds**, if every
  page allows it;
* `Covered.userWrite_error`: if it does not, the fault is at a page that cannot be written;
* `Machine.contents?_userWrite_range`: what a write leaves, by the pages that it touches.
-/
import Exokernel.Proofs.Memory.Bytes
import Exokernel.Proofs.Memory.Ranges

namespace Exokernel

open Layout

/-! ### Pieces -/

section Pieces

variable {ε : Type} {frameOf : Nat → Except ε Nat} {ps : List Piece} {start len : Nat} {e : ε}
  {p : Piece}

lemma checkPieces_ok (h : ∀ p ∈ ps, ∃ n, frameOf p.start = .ok n) :
    checkPieces frameOf ps = .ok () := by
  induction ps with
  | nil => rfl
  | cons p ps ih =>
    obtain ⟨n, hn⟩ := h p List.mem_cons_self
    rw [checkPieces, hn]
    exact ih fun q hq => h q (List.mem_cons_of_mem _ hq)

lemma checkPieces_error (h : checkPieces frameOf ps = .error e) :
    ∃ p ∈ ps, frameOf p.start = .error e := by
  induction ps with
  | nil => cases h
  | cons p ps ih =>
    rw [checkPieces] at h
    split at h
    · next e' he' =>
      cases h
      exact ⟨p, List.mem_cons_self, he'⟩
    · obtain ⟨q, hq, heq⟩ := ih h
      exact ⟨q, List.mem_cons_of_mem _ hq, heq⟩

end Pieces

namespace Machine

variable {m : Machine} {s n page address len : Nat} {va : VirtAddr} {e : Mapping}
  {data : List UInt8} {fault : MmuFault} {kept loose : List Nat}

/-! ### Single addresses -/

lemma contains_accessPerm {p : Perm} (hperm : p.isRequestable = true) (write : Bool) :
    p.contains (accessPerm write) = (!write || p.contains .writable) := by
  have huser := (Perm.isRequestable_iff.1 hperm).1
  cases write with
  | false => exact huser
  | true =>
    refine Bool.eq_iff_iff.2 ⟨fun h => Perm.contains_trans h (by decide), fun h => ?_⟩
    rw [Bool.not_true, Bool.false_or] at h
    rw [Perm.contains_iff_forall] at huser h ⊢
    intro i hi
    rw [accessPerm, if_pos rfl, Perm.getLsbD_or, Bool.or_eq_true] at hi
    exact hi.elim (huser i) (h i)

/-- **What user code reaches** at an address below `Layout.userTop`: the frame that the page shows,
if it is read or may be written, and a fault at the address otherwise. -/
lemma userFrame_of_mapping (hlt : address < userTop)
    (he : m.mapping? s (address / pageSize) = some e) (hperm : e.perm.isRequestable = true)
    (write : Bool) : m.userFrame s write va address =
      if write = true ∧ e.perm.contains .writable = false then
        .error ⟨.ofNat address, accessCode write ||| FaultCode.protection⟩
      else .ok e.frame := by
  have htop : userTop < addressCount := by decide
  have hlimit : userTop < userLimit := by decide
  have hnat : (VirtAddr.ofNat address).toNat = address :=
    VirtAddr.toNat_ofNat_of_lt (Nat.lt_trans hlt htop)
  have hlookup : m.lookup? s (.ofNat address) = some e := (lookup?_ofNat hlt).trans he
  rw [userFrame, if_pos (Nat.lt_trans hlt htop), translate, hlookup]
  dsimp only
  rw [contains_accessPerm hperm, hnat]
  by_cases hrefused : write = true ∧ e.perm.contains .writable = false
  · obtain ⟨rfl, hread⟩ := hrefused
    rw [if_neg, if_pos ⟨rfl, hread⟩]
    rw [hread]
    exact fun hc => Bool.false_ne_true hc.2
  · have hallowed : (!write || e.perm.contains .writable) = true := by
      rw [Bool.or_eq_true, Bool.not_eq_true']
      by_contra hc
      rw [not_or, Bool.not_eq_false, Bool.not_eq_true] at hc
      exact hrefused hc
    rw [if_pos ⟨Nat.lt_trans hlt hlimit, hallowed⟩, if_neg hrefused]

/-! ### Ranges -/

/-- **A range below `Layout.userTop`** all of whose pages show something. -/
structure Covered (m : Machine) (s : Nat) (va : VirtAddr) (len : Nat) : Prop where
  below : va.toNat + len ≤ userTop
  shown : ∀ page ∈ pagesOf va.toNat len,
    ∃ e, m.mapping? s page = some e ∧ e.perm.isRequestable = true

namespace Covered

lemma congr {m' : Machine} (h : m.Covered s va len) (hspaces : m'.spaces = m.spaces) :
    m'.Covered s va len := by
  refine ⟨h.below, fun page hpage => ?_⟩
  rw [mapping?_of_spaces hspaces]
  exact h.shown page hpage

/-- What user code reaches at a piece of the range. -/
lemma userFrame_piece (h : m.Covered s va len) {p : Piece} (hp : p ∈ pieces va.toNat len)
    (write : Bool) : p.start < userTop ∧ ∃ e, m.mapping? s p.page = some e ∧
      m.userFrame s write va p.start =
        if write = true ∧ e.perm.contains .writable = false then
          .error ⟨.ofNat p.start, accessCode write ||| FaultCode.protection⟩
        else .ok e.frame := by
  obtain ⟨e, he, hperm⟩ := h.shown _ (page_mem_pagesOf hp)
  have hlt : p.start < userTop :=
    Nat.lt_of_lt_of_le (start_lt_of_mem_pieces hp).2 h.below
  exact ⟨hlt, e, he, userFrame_of_mapping hlt he hperm write⟩

/-- **A read succeeds.** -/
lemma userRead_ok (h : m.Covered s va len) (absent : UInt8) :
    ∃ bytes, m.userRead s va len absent = .ok bytes := by
  have hok : checkPieces (m.userFrame s false va) (pieces va.toNat len) = .ok () :=
    checkPieces_ok fun p hp => by
      obtain ⟨-, e, -, heq⟩ := h.userFrame_piece hp false
      exact ⟨e.frame, heq⟩
  rw [← readPieces_eq_checkPieces _ absent m.frames] at hok
  rw [userRead]
  cases hread : readPieces (m.userFrame s false va) absent m.frames (pieces va.toNat len) with
  | ok bytes => exact ⟨bytes, rfl⟩
  | error fault =>
    rw [hread] at hok
    cases hok

/-- **A read gives** the bytes that are there. -/
lemma userRead_eq (h : m.Covered s va data.length) (hacc : m.Accounted kept loose)
    (hbytes : ∀ j < data.length, m.byte? s (va.toNat + j) = data[j]?) (absent : UInt8) :
    m.userRead s va data.length absent = .ok data := by
  obtain ⟨bytes, hread⟩ := h.userRead_ok absent
  obtain ⟨hlen, hget⟩ := userRead_getElem? hacc hread
  rw [hread]
  refine congrArg Except.ok (List.ext_getElem? fun j => ?_)
  by_cases hj : j < data.length
  · rw [hget j hj (Nat.lt_of_lt_of_le (Nat.add_lt_add_left hj _) h.below), hbytes j hj]
  · rw [List.getElem?_eq_none (by omega), List.getElem?_eq_none (by omega)]

/-- **A write succeeds** if all pages of the range may be written. -/
lemma userWrite_ok (h : m.Covered s va data.length)
    (hwrite : ∀ page ∈ pagesOf va.toNat data.length, ∀ e, m.mapping? s page = some e →
      e.perm.contains .writable = true) : (m.userWrite s va data).1 = .ok () := by
  refine (writePieces_eq_checkPieces ..).trans (checkPieces_ok fun p hp => ?_)
  obtain ⟨-, e, he, heq⟩ := h.userFrame_piece hp true
  refine ⟨e.frame, heq.trans (if_neg fun hc => ?_)⟩
  rw [hwrite _ (page_mem_pagesOf hp) e he] at hc
  cases hc.2

/-- **A write that is refused** is so at a page of the range that may not be written. -/
lemma userWrite_error (h : m.Covered s va data.length)
    (hfault : (m.userWrite s va data).1 = .error fault) :
    fault.va.toNat < userTop ∧ fault.va.page ∈ pagesOf va.toNat data.length ∧
      fault.err &&& FaultCode.write ≠ 0 ∧
      ∃ e, m.mapping? s fault.va.page = some e ∧ e.perm.contains .writable = false := by
  obtain ⟨p, hp, herror⟩ := checkPieces_error
    ((writePieces_eq_checkPieces (m.userFrame s true va) _ data m.frames).symm.trans hfault)
  obtain ⟨hlt, e, he, heq⟩ := h.userFrame_piece hp true
  rw [herror] at heq
  split at heq
  · next hc =>
    cases heq
    have hnat : (VirtAddr.ofNat p.start).toNat = p.start :=
      VirtAddr.toNat_ofNat_of_lt (Nat.lt_trans hlt (by decide))
    have hpage : (VirtAddr.ofNat p.start).page = p.page := by rw [VirtAddr.page, hnat]; rfl
    have hcode : (accessCode true ||| FaultCode.protection) &&& FaultCode.write ≠ 0 := by decide
    refine ⟨by rwa [hnat], ?_, hcode, e, ?_, hc.2⟩
    · rw [hpage]
      exact page_mem_pagesOf hp
    · rw [hpage, he]
  · cases heq

end Covered

/-! ### What a write leaves -/

/-- A write changes no frame that it does not reach through a page of its range. -/
lemma contents?_userWrite_range (hbelow : va.toNat + data.length ≤ userTop)
    (h : ∀ page ∈ pagesOf va.toNat data.length, ∀ e, m.mapping? s page = some e →
      e.perm.contains .writable = true → e.frame ≠ n) :
    (m.userWrite s va data).2.frames.contents? n = m.frames.contents? n := by
  refine contents?_writePieces _ data m.frames fun p hp hframe => ?_
  rcases userFrame_ok hframe with ⟨hge, -⟩ | ⟨-, e, he, rfl, hwrite⟩
  · exact absurd hge (Nat.not_le.2
      (Nat.lt_of_lt_of_le (start_lt_of_mem_pieces hp).2 hbelow))
  · exact h _ (page_mem_pagesOf hp) e he (hwrite rfl) rfl

end Machine

end Exokernel
