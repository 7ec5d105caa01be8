/-
How the kernel moves bytes to and from an address space.

* `Machine.FirstUnmapped`: the first address of a range that shows nothing;
* `Backed.copyOut_ok_iff`, `Backed.firstUnmapped`: a write succeeds if all of its range is mapped,
  and stops at the first address that is not;
* `Machine.Apart`, `Backed.copyIn_copyOut`: what is written through frames that differ from each
  other is read again;
* `pieces_cons`: a range is what lies in its first page, and the rest;
* `Machine.copyWalk`, `Machine.copyOutByPages`, `Machine.copyInByPages`: the transfers as loops that
  count what is done;
* `Machine.copyWalk_eq`: **the loops end**, and go from piece to piece;
* `copy_exact`: **transfers are exact to the byte.**
-/
import Exokernel.Proofs.Memory.Places

namespace Exokernel

open Layout

namespace Machine

variable {m m' : Machine} {s len : Nat} {va bad : VirtAddr} {data bytes : List UInt8}

/-! ### Where a transfer stops -/

/-- **The first address of a range** that lies on no mapped page. -/
structure FirstUnmapped (m : Machine) (s : Nat) (va : VirtAddr) (len : Nat) (bad : VirtAddr) :
    Prop where
  inside : va.toNat ≤ bad.toNat ∧ bad.toNat < va.toNat + len
  missing : m.place? s bad.toNat = none
  before : ∀ a, va.toNat ≤ a → a < bad.toNat → (m.place? s a).isSome

/-- How many bytes of a write of the kernel get through. -/
def kernelWritten (m : Machine) (s : Nat) (va : VirtAddr) (len : Nat) : Nat :=
  writtenBytes (m.mappedFrame s va) (pieces va.toNat len)

/-- **A write that fails** got as far as the first address without a place, which is what it
reports. -/
lemma Backed.firstUnmapped (hm : m.Backed)
    (h : checkPieces (m.mappedFrame s va) (pieces va.toNat len) = .error bad) :
    m.FirstUnmapped s va len bad ∧ bad.toNat = va.toNat + m.kernelWritten s va len := by
  obtain ⟨p, hp, hstart, herror⟩ := checkPieces_stop (contiguous_pieces va.toNat len).1 h
  have hbefore : ∀ a, va.toNat ≤ a → a < p.start → (m.place? s a).isSome := by
    intro a hfirst hlast
    rw [hstart] at hlast
    exact isSome_place?_of_written finds_mappedFrame hfirst hlast
  have hcount : p.start < addressCount := hm.lt_addressCount va.toNat_lt hbefore
  rw [mappedFrame_eq, if_pos hcount] at herror
  cases hplace : m.place? s p.start with
  | some x =>
    rw [hplace] at herror
    cases herror
  | none =>
    rw [hplace] at herror
    cases herror
    have hnat : (VirtAddr.ofNat p.start).toNat = p.start := VirtAddr.toNat_ofNat_of_lt hcount
    refine ⟨⟨?_, ?_, ?_⟩, hnat.trans hstart⟩
    · rw [hnat]
      exact start_lt_of_mem_pieces hp
    · rwa [hnat]
    · rwa [hnat]

/-- The answer of a write is that of the search for its frames. -/
lemma fst_copyOut (m : Machine) (s : Nat) (va : VirtAddr) (data : List UInt8) :
    (m.copyOut s va data).1 = checkPieces (m.mappedFrame s va) (pieces va.toNat data.length) :=
  writePieces_eq_checkPieces ..

/-- So is that of a read. -/
lemma map_copyIn (m : Machine) (s : Nat) (va : VirtAddr) (len : Nat) (absent : UInt8) :
    (m.copyIn s va len absent).map (fun _ => ()) =
      checkPieces (m.mappedFrame s va) (pieces va.toNat len) :=
  readPieces_eq_checkPieces ..

/-- All bytes of a write that succeeds get through. -/
lemma kernelWritten_of_ok (h : (m.copyOut s va data).1 = .ok ()) :
    m.kernelWritten s va data.length = data.length :=
  (writtenBytes_of_ok h).trans (contiguous_pieces _ _).2

/-- **A write succeeds** exactly if every byte of its range lies on a mapped page. -/
lemma Backed.copyOut_ok_iff (hm : m.Backed) : (m.copyOut s va data).1 = .ok () ↔
    ∀ j < data.length, (m.place? s (va.toNat + j)).isSome := by
  constructor
  · intro hok j hj
    rw [← kernelWritten_of_ok hok] at hj
    exact isSome_place?_of_written finds_mappedFrame (Nat.le_add_right _ _)
      (Nat.add_lt_add_left hj _)
  · intro hmapped
    cases hresult : (m.copyOut s va data).1 with
    | ok u => rfl
    | error bad =>
      rw [fst_copyOut] at hresult
      obtain ⟨hfirst, -⟩ := hm.firstUnmapped hresult
      have hinside := hfirst.inside
      have hhere := hmapped (bad.toNat - va.toNat) (by omega)
      rw [Nat.add_sub_cancel' hinside.1, hfirst.missing] at hhere
      cases hhere

/-! ### What is written is read again -/

/-- **The pages of a range lead to different frames.** -/
def Apart (m : Machine) (s : Nat) (va : VirtAddr) (len : Nat) : Prop :=
  ∀ q ∈ pagesOf va.toNat len, ∀ q' ∈ pagesOf va.toNat len, ∀ e e',
    m.lookup? s (.ofNat (q * pageSize)) = some e →
    m.lookup? s (.ofNat (q' * pageSize)) = some e' → e.frame = e'.frame → q = q'

instance : Decidable (m.Apart s va len) :=
  decidable_of_iff (∀ q ∈ pagesOf va.toNat len, ∀ q' ∈ pagesOf va.toNat len,
    ∀ e ∈ m.lookup? s (.ofNat (q * pageSize)), ∀ e' ∈ m.lookup? s (.ofNat (q' * pageSize)),
      e.frame = e'.frame → q = q')
    ⟨fun h q hq q' hq' e e' he he' => h q hq q' hq' e he e' he',
      fun h q hq q' hq' e he e' he' => h q hq q' hq' e e' he he'⟩

/-- Then so do its addresses to different places. -/
lemma Apart.eq_of_place? (h : m.Apart s va len) {j j' : Nat} (hj : j < len) (hj' : j' < len)
    {x : Nat × Nat} (hx : m.place? s (va.toNat + j) = some x)
    (hx' : m.place? s (va.toNat + j') = some x) : j = j' := by
  obtain ⟨hcount, hoff, e, he, hframe⟩ := place?_eq_some_iff.1 hx
  obtain ⟨hcount', hoff', e', he', hframe'⟩ := place?_eq_some_iff.1 hx'
  rw [← lookup?_of_page (page_pageStart hcount)] at he
  rw [← lookup?_of_page (page_pageStart hcount')] at he'
  have hpage : (va.toNat + j) / pageSize = (va.toNat + j') / pageSize :=
    h _ (div_mem_pagesOf (Nat.le_add_right _ _) (Nat.add_lt_add_left hj _)) _
      (div_mem_pagesOf (Nat.le_add_right _ _) (Nat.add_lt_add_left hj' _)) e e' he he'
      (hframe.trans hframe'.symm)
  have hsame : va.toNat + j = va.toNat + j' := by
    rw [← Nat.div_add_mod' (va.toNat + j) pageSize, hpage, hoff, ← hoff', Nat.div_add_mod']
  omega

/-- What a write leaves everywhere, where it succeeds and where it fails. -/
lemma Backed.landed_copyOut (hm : m.Backed) (s : Nat) (va : VirtAddr) (data : List UInt8) :
    Landed (m.place? s) va.toNat (data.take (m.kernelWritten s va data.length)) m.frames
      (m.copyOut s va data).2.frames :=
  hm.landed finds_mappedFrame va.toNat data

/-- Memory stays backed. -/
lemma Backed.copyOut (hm : m.Backed) (s : Nat) (va : VirtAddr) (data : List UInt8) :
    (m.copyOut s va data).2.Backed :=
  ⟨hm.windows, fun t vb e he => (isSome_writePieces _ _ _).trans (hm.allocated t vb e he)⟩

/-- **A read brings** what its addresses show. -/
lemma Backed.copyIn_shown (hm : m.Backed) {absent : UInt8}
    (h : m.copyIn s va len absent = .ok bytes) :
    bytes.length = len ∧ ∀ j < len, bytes[j]? = m.shownByte? s (.ofNat (va.toNat + j)) :=
  hm.readPieces_shown finds_mappedFrame h

/-- **What is written through different frames** is shown then. -/
lemma Backed.shownByte?_copyOut (hm : m.Backed) (hok : (m.copyOut s va data).1 = .ok ())
    (hapart : m.Apart s va data.length) {j : Nat} (hj : j < data.length) :
    (m.copyOut s va data).2.shownByte? s (.ofNat (va.toNat + j)) = data[j]? := by
  have hlanded := hm.landed_copyOut s va data
  rw [kernelWritten_of_ok hok, List.take_length] at hlanded
  refine shownByte?_of_landed hlanded rfl rfl hj (hm.copyOut_ok_iff.1 hok j hj)
    fun j' hj' hlt x hplace hsame => ?_
  exact Nat.ne_of_lt hlt (hapart.eq_of_place? hj hj' hplace hsame)

/-- **And read again.** -/
lemma Backed.copyIn_copyOut (hm : m.Backed) (hok : (m.copyOut s va data).1 = .ok ())
    (hapart : m.Apart s va data.length) (absent : UInt8) :
    (m.copyOut s va data).2.copyIn s va data.length absent = .ok data := by
  have hsame : (m.copyOut s va data).2.mappedFrame s va = m.mappedFrame s va := by
    have hplace : (m.copyOut s va data).2.place? s = m.place? s := place?_of_spaces rfl rfl
    funext a
    rw [mappedFrame_eq, mappedFrame_eq, hplace]
  have hchecked := map_copyIn (m.copyOut s va data).2 s va data.length absent
  rw [hsame, ← fst_copyOut, hok] at hchecked
  cases hread : (m.copyOut s va data).2.copyIn s va data.length absent with
  | error bad =>
    rw [hread] at hchecked
    cases hchecked
  | ok bytes =>
    obtain ⟨hlen, hbytes⟩ := (hm.copyOut s va data).copyIn_shown hread
    have heq : bytes = data := by
      refine List.ext_getElem? fun j => ?_
      by_cases hj : j < data.length
      · rw [hbytes j hj, hm.shownByte?_copyOut hok hapart hj]
      · rw [List.getElem?_eq_none (by omega), List.getElem?_eq_none (by omega)]
    rw [heq]

end Machine

/-! ### The transfers as loops -/

/-- **A range** is what lies in its first page, and the rest. -/
lemma pieces_cons {start len : Nat} (hlen : len ≠ 0) : pieces start len =
    ⟨start, min (pageSize - start % pageSize) len⟩ ::
      pieces (start + min (pageSize - start % pageSize) len)
        (len - min (pageSize - start % pageSize) len) := by
  have hps : pageSize = 4096 := rfl
  have hfirst : Piece.ofPage start len (start / pageSize) =
      ⟨start, min (pageSize - start % pageSize) len⟩ := by
    simp only [Piece.ofPage, hps, Piece.mk.injEq]
    omega
  rw [pieces, pagesOf, if_neg hlen]
  dsimp only
  rw [List.range'_succ, List.map_cons, hfirst]
  congr 1
  by_cases hrest : len - min (pageSize - start % pageSize) len = 0
  · -- nothing is left behind the first page
    have hone : (start + len - 1) / pageSize - start / pageSize = 0 := by
      rw [hps] at hrest ⊢
      omega
    rw [hrest, hone, pieces, pagesOf, if_pos rfl]
    rfl
  · have hnext : start + min (pageSize - start % pageSize) len =
        (start / pageSize + 1) * pageSize := by
      rw [hps] at hrest ⊢
      omega
    have hend : (start / pageSize + 1) * pageSize + (len - min (pageSize - start % pageSize) len) =
        start + len := by
      rw [← hnext]
      omega
    rw [hnext, pieces, pagesOf, if_neg hrest, hend]
    dsimp only
    rw [Nat.mul_div_cancel _ (by decide)]
    have hcount : (start + len - 1) / pageSize - (start / pageSize + 1) + 1 =
        (start + len - 1) / pageSize - start / pageSize := by
      rw [hps] at hrest ⊢
      omega
    rw [hcount]
    refine List.map_congr_left fun page hpage => ?_
    have hlow := (List.mem_range'_1.1 hpage).1
    simp only [Piece.ofPage, hend, Piece.mk.injEq]
    rw [hps] at hlow ⊢
    omega

/-- Goes from piece to piece, each through the frame that `frameOf` finds for its first address, and
has `move` change a state with the frame, the place in it, the number of bytes that are done, and
that of the bytes in the piece. -/
def movePieces {ε σ : Type} (frameOf : Nat → Except ε Nat) (move : Nat → Nat → Nat → Nat → σ → σ) :
    List Piece → Nat → σ → Except ε Unit × σ
  | [], _, state => (.ok (), state)
  | p :: ps, done, state =>
    match frameOf p.start with
    | .error e => (.error e, state)
    | .ok n => movePieces frameOf move ps (done + p.size) (move n p.offset done p.size state)

section Moving

variable {ε σ : Type} {frameOf : Nat → Except ε Nat} {move : Nat → Nat → Nat → Nat → σ → σ}
  {ps : List Piece} {start : Nat}

/-- It gets as far as there are frames. -/
lemma fst_movePieces (done : Nat) (state : σ) :
    (movePieces frameOf move ps done state).1 = checkPieces frameOf ps := by
  induction ps generalizing done state with
  | nil => rfl
  | cons p ps ih =>
    rw [movePieces, checkPieces]
    cases frameOf p.start with
    | error e => rfl
    | ok n => exact ih _ _

/-- A write takes from the data what is next. -/
def FramePool.drain (data : List UInt8) (n start done chunk : Nat) (pool : FramePool) : FramePool :=
  pool.write n start ((data.drop done).take chunk)

/-- A read puts into the buffer what a frame in use holds. -/
def FramePool.fill (pool : FramePool) (n start done chunk : Nat) (buffer : List UInt8) :
    List UInt8 :=
  if (pool.allocated? n).isSome then
    buffer.take done ++ (pool.read n start chunk 0 ++ buffer.drop (done + chunk))
  else buffer

lemma movePieces_drain (data : List UInt8) (done : Nat) (pool : FramePool) :
    movePieces frameOf (FramePool.drain data) ps done pool =
      writePieces frameOf ps (data.drop done) pool := by
  induction ps generalizing done pool with
  | nil => rfl
  | cons p ps ih =>
    rw [movePieces, writePieces]
    cases frameOf p.start with
    | error e => rfl
    | ok n =>
      dsimp only
      rw [ih, List.drop_drop]
      rfl

/-- What a frame in use holds does not depend on what is read where there is nothing. -/
lemma FramePool.read_of_fits {pool : FramePool} {n start len : Nat}
    (hin : (pool.allocated? n).isSome) (hfits : start + len ≤ pageSize) (absent absent' : UInt8) :
    pool.read n start len absent = pool.read n start len absent' := by
  obtain ⟨slot, hslot⟩ := Option.isSome_iff_exists.1 hin
  have hpage : pool.page? n = some slot.page := by rw [page?, hslot, Option.map_some]
  rw [read, read, hpage]
  refine List.map_congr_left fun i hi => ?_
  have hlt := List.mem_range.1 hi
  rw [Page.byte?, dif_pos (by omega)]
  rfl

/-- The part of a buffer that is filled follows what was filled before. -/
lemma FramePool.fill_append {pool : FramePool} {n start len : Nat}
    (hin : (pool.allocated? n).isSome) (hfits : start + len ≤ pageSize) (absent : UInt8)
    (front old : List UInt8) : pool.fill n start front.length len (front ++ old) =
      front ++ pool.read n start len absent ++ old.drop len := by
  rw [fill, if_pos hin, read_of_fits hin hfits 0 absent, List.take_left, List.drop_append,
    List.drop_eq_nil_of_le (Nat.le_add_right _ _), Nat.add_sub_cancel_left, List.nil_append,
    List.append_assoc]

/-- **A read through frames in use** fills the part of the buffer that is its own. -/
lemma movePieces_fill {pool : FramePool} {absent : UInt8} {bytes : List UInt8}
    (hcont : Contiguous start ps)
    (hin : ∀ p ∈ ps, ∀ n, frameOf p.start = .ok n → (pool.allocated? n).isSome)
    (h : readPieces frameOf absent pool ps = .ok bytes) (front old : List UInt8) :
    (movePieces frameOf pool.fill ps front.length (front ++ old)).2 =
      front ++ bytes ++ old.drop (totalSize ps) := by
  induction ps generalizing start bytes front old with
  | nil =>
    cases h
    rw [List.append_nil]
    rfl
  | cons p ps ih =>
    obtain ⟨-, hoff, htail⟩ := hcont
    have htotal : totalSize (p :: ps) = p.size + totalSize ps := rfl
    rw [readPieces] at h
    rw [movePieces]
    cases hn : frameOf p.start with
    | error e =>
      rw [hn] at h
      cases h
    | ok n =>
      rw [hn] at h
      dsimp only at h ⊢
      cases hrest : readPieces frameOf absent pool ps with
      | error e =>
        rw [hrest] at h
        cases h
      | ok rest =>
        rw [hrest] at h
        cases h
        have hread : (front ++ pool.read n p.offset p.size absent).length =
            front.length + p.size := by
          rw [List.length_append, FramePool.length_read]
        rw [FramePool.fill_append (hin p List.mem_cons_self n hn) hoff absent, ← hread,
          ih htail (fun q hq => hin q (List.mem_cons_of_mem _ hq)) hrest, List.drop_drop, htotal,
          List.append_assoc, List.append_assoc, List.append_assoc, List.append_assoc]

end Moving

namespace Machine

variable {m : Machine} {s len : Nat} {va : VirtAddr} {data : List UInt8}

/-- A transfer of `len` bytes of which `done` are done: the address of the next byte is looked up,
and as many are moved as lie in its page. The number of bytes that are done is a word where it is
added to an address. Nothing comes out if a part reached beyond its page, or beyond the bytes. -/
def copyWalk {σ : Type} (m : Machine) (s : Nat) (va : VirtAddr) (len : Nat)
    (move : Nat → Nat → Nat → Nat → σ → σ) (done : Nat) (state : σ) :
    Option (Except VirtAddr Unit × σ) :=
  if done < len then
    match va.add? (UInt32.ofNat done).toNat with
    | none => some (.error va, state)
    | some here =>
      match m.lookup? s here.pageBase with
      | none => some (.error here, state)
      | some e =>
        let chunk := min (pageSize - here.offset) (len - done)
        if here.offset + chunk ≤ pageSize ∧ done + chunk ≤ len then
          m.copyWalk s va len move (done + chunk) (move e.frame here.offset done chunk state)
        else none
  else some (.ok (), state)
termination_by len - done
decreasing_by
  have hoffset := here.offset_lt
  omega

/-- The write of the kernel as a loop. -/
def copyOutByPages (m : Machine) (s : Nat) (va : VirtAddr) (data : List UInt8) :
    Option (Except VirtAddr Unit × Machine) :=
  (m.copyWalk s va data.length (.drain data) 0 m.frames).map fun (result, frames) =>
    (result, { m with frames })

/-- The read of the kernel as a loop that fills `buffer`. -/
def copyInByPages (m : Machine) (s : Nat) (va : VirtAddr) (buffer : List UInt8) :
    Option (Except VirtAddr (List UInt8)) :=
  (m.copyWalk s va buffer.length m.frames.fill 0 buffer).map fun (result, filled) =>
    result.map fun _ => filled

/-- **The loop ends**, and goes from piece to piece. -/
lemma copyWalk_eq {σ : Type} (hlen : len < addressCount) (move : Nat → Nat → Nat → Nat → σ → σ)
    (done : Nat) (state : σ) : m.copyWalk s va len move done state =
      some (movePieces (m.mappedFrame s va) move (pieces (va.toNat + done) (len - done)) done
        state) := by
  induction hleft : len - done using Nat.strong_induction_on generalizing done state with
  | _ left ih =>
    subst hleft
    rw [copyWalk]
    by_cases hmore : done < len
    · have hword : (UInt32.ofNat done).toNat = done :=
        UInt32.toNat_ofNat_of_lt (Nat.lt_trans hmore hlen)
      rw [if_pos hmore, hword, pieces_cons (Nat.sub_ne_zero_of_lt hmore), movePieces, mappedFrame,
        VirtAddr.add?]
      by_cases hcount : va.toNat + done < addressCount
      · rw [if_pos hcount, if_pos hcount]
        dsimp only
        cases hlookup : m.lookup? s (VirtAddr.ofNat (va.toNat + done)).pageBase with
        | none => rfl
        | some e =>
          have hoffset : (VirtAddr.ofNat (va.toNat + done)).offset =
              (va.toNat + done) % pageSize := by
            rw [VirtAddr.offset, VirtAddr.toNat_ofNat_of_lt hcount]
          have hlt : (va.toNat + done) % pageSize < pageSize := Nat.mod_lt _ (by decide)
          dsimp only
          rw [hoffset, if_pos ⟨by omega, by omega⟩, ih _ (by omega) _ _ rfl]
          congr 3
          · omega
          · omega
      · rw [if_neg hcount, if_neg hcount]
    · rw [if_neg hmore, Nat.sub_eq_zero_of_le (Nat.not_lt.1 hmore)]
      rfl

/-- **The loop of a write** does what the write does. -/
lemma copyOutByPages_eq (s : Nat) (va : VirtAddr) (hlen : data.length < addressCount) :
    m.copyOutByPages s va data = some (m.copyOut s va data) := by
  rw [copyOutByPages, copyWalk_eq hlen, movePieces_drain]
  rfl

/-- **The loop of a read** does what the read does, whatever is in the buffer before. -/
lemma Backed.copyInByPages_eq (hm : m.Backed) (s : Nat) (va : VirtAddr) {buffer : List UInt8}
    (hlen : buffer.length < addressCount) (absent : UInt8) :
    m.copyInByPages s va buffer = some (m.copyIn s va buffer.length absent) := by
  obtain ⟨hcont, htotal⟩ := contiguous_pieces va.toNat buffer.length
  have hresult := map_copyIn m s va buffer.length absent
  rw [copyInByPages, copyWalk_eq hlen, Option.map_some]
  dsimp only
  rw [fst_movePieces, Nat.add_zero, Nat.sub_zero, ← hresult]
  cases hread : m.copyIn s va buffer.length absent with
  | error bad => rfl
  | ok bytes =>
    have hfilled := movePieces_fill hcont
      (fun p _ n hn => hm.isSome_of_place? (finds_mappedFrame p.start n hn)) hread [] buffer
    rw [htotal, List.drop_length, List.append_nil] at hfilled
    exact congrArg (fun filled => some (Except.ok filled)) hfilled

end Machine

open Machine in
/-- **The transfers of the kernel are exact to the byte.** In memory whose pages show frames in use,
a write of less than 2³² bytes succeeds exactly if every byte of its range lies on a mapped page.
Then the bytes land at the places of their addresses, and no other byte of any frame changes. If it
fails, it reports the first address of the range without a page, and the bytes before that one have
landed, and nothing else. Where the pages of the range show frames that differ from each other, the
range shows the bytes afterwards, and a read of it brings them. A read succeeds where a write does,
reports the same address otherwise, and brings what its addresses show. The loops that count the
bytes end, never reach beyond a page, and do just this. -/
theorem copy_exact (m : Machine) (hm : m.Backed) (s : Nat) (va : VirtAddr) (data : List UInt8)
    (hlen : data.length < addressCount) :
    ((m.copyOut s va data).1 = .ok () ↔
      ∀ j < data.length, (m.place? s (va.toNat + j)).isSome) ∧
    ((m.copyOut s va data).1 = .ok () →
      Landed (m.place? s) va.toNat data m.frames (m.copyOut s va data).2.frames) ∧
    (∀ bad, (m.copyOut s va data).1 = .error bad → m.FirstUnmapped s va data.length bad ∧
      Landed (m.place? s) va.toNat (data.take (bad.toNat - va.toNat)) m.frames
        (m.copyOut s va data).2.frames) ∧
    ((m.copyOut s va data).1 = .ok () → m.Apart s va data.length →
      (∀ j < data.length,
        (m.copyOut s va data).2.shownByte? s (.ofNat (va.toNat + j)) = data[j]?) ∧
      ∀ absent, (m.copyOut s va data).2.copyIn s va data.length absent = .ok data) ∧
    (∀ absent, (m.copyIn s va data.length absent).map (fun _ => ()) = (m.copyOut s va data).1 ∧
      ∀ bytes, m.copyIn s va data.length absent = .ok bytes → bytes.length = data.length ∧
        ∀ j < data.length, bytes[j]? = m.shownByte? s (.ofNat (va.toNat + j))) ∧
    m.copyOutByPages s va data = some (m.copyOut s va data) ∧
    ∀ buffer : List UInt8, buffer.length = data.length → ∀ absent,
      m.copyInByPages s va buffer = some (m.copyIn s va data.length absent) := by
  have hlanded := hm.landed_copyOut s va data
  refine ⟨hm.copyOut_ok_iff, fun hok => ?_, fun bad herror => ?_, fun hok hapart => ⟨?_, ?_⟩,
    fun absent => ⟨?_, fun bytes hread => hm.copyIn_shown hread⟩, copyOutByPages_eq s va hlen,
    fun buffer hbuffer absent => ?_⟩
  · rwa [kernelWritten_of_ok hok, List.take_length] at hlanded
  · rw [fst_copyOut] at herror
    obtain ⟨hfirst, hstop⟩ := hm.firstUnmapped herror
    rw [hstop, Nat.add_sub_cancel_left]
    exact ⟨hfirst, hlanded⟩
  · exact fun j hj => hm.shownByte?_copyOut hok hapart hj
  · exact fun absent => hm.copyIn_copyOut hok hapart absent
  · rw [map_copyIn, fst_copyOut]
  · rw [← hbuffer] at hlen ⊢
    exact hm.copyInByPages_eq s va hlen absent

open Machine in
/-- Six bytes over the boundary of two pages that may only be read are there, and are read again. Of
three bytes at the end of the second page, two are. -/
theorem copy_exact_boundary : ∃ m : Machine, m.Backed ∧
    ([97, 98, 99, 100, 101, 102] : List UInt8).length < addressCount ∧
    ([120, 121, 122] : List UInt8).length < addressCount ∧
    (m.copyOut 1 ⟨0x800FFD⟩ [97, 98, 99, 100, 101, 102]).1 = .ok () ∧
    m.Apart 1 ⟨0x800FFD⟩ 6 ∧
    (m.copyOut 1 ⟨0x800FFD⟩ [97, 98, 99, 100, 101, 102]).2.shownByte? 1 (.ofNat (0x800FFD + 4)) =
      some 101 ∧
    (m.copyOut 1 ⟨0x800FFD⟩ [97, 98, 99, 100, 101, 102]).2.copyIn 1 ⟨0x800FFD⟩ 6 0 =
      .ok [97, 98, 99, 100, 101, 102] ∧
    (m.copyOut 1 ⟨0x801FFE⟩ [120, 121, 122]).1 = .error ⟨0x802000⟩ ∧
    m.FirstUnmapped 1 ⟨0x801FFE⟩ 3 ⟨0x802000⟩ ∧
    Landed (m.place? 1) 0x801FFE [120, 121] m.frames
      (m.copyOut 1 ⟨0x801FFE⟩ [120, 121, 122]).2.frames ∧
    m.copyOutByPages 1 ⟨0x801FFE⟩ [120, 121, 122] =
      some (m.copyOut 1 ⟨0x801FFE⟩ [120, 121, 122]) ∧
    m.copyInByPages 1 ⟨0x800FFD⟩ [9, 9, 9, 9, 9, 9] = some (m.copyIn 1 ⟨0x800FFD⟩ 6 0) := by
  obtain ⟨s, m₁, hspace⟩ : ∃ s m₁, (ofSize 1 16).createSpace = .ok (s, m₁) := ⟨_, _, rfl⟩
  let m := ((m₁.mapZeroed 1 ⟨0x800000⟩ .userRead).2.mapZeroed 1 ⟨0x801000⟩ .userRead).2
  have hbacked : m.Backed := by
    have hacc : m.Accounted [] [] :=
      ((accounted_ofSize 1 16).createSpace_of_free hspace rfl).mapZeroed.mapZeroed
    have hwindows : m.windows = (ofSize 1 16).windows := by
      cases hspace
      rfl
    exact hacc.backed hwindows
  have hacross : (m.copyOut 1 ⟨0x800FFD⟩ [97, 98, 99, 100, 101, 102]).1 = .ok () := by
    cases hspace
    decide +kernel
  have hapart : m.Apart 1 ⟨0x800FFD⟩ 6 := by
    cases hspace
    decide +kernel
  have hbeyond : (m.copyOut 1 ⟨0x801FFE⟩ [120, 121, 122]).1 = .error ⟨0x802000⟩ := by
    cases hspace
    decide +kernel
  have hsix : ([97, 98, 99, 100, 101, 102] : List UInt8).length < addressCount := by decide
  have hthree : ([120, 121, 122] : List UInt8).length < addressCount := by decide
  obtain ⟨-, -, -, hback, -, -, hread⟩ := copy_exact m hbacked 1 ⟨0x800FFD⟩ _ hsix
  obtain ⟨-, -, hstop, -, -, hwrite, -⟩ := copy_exact m hbacked 1 ⟨0x801FFE⟩ _ hthree
  obtain ⟨hfirst, hlanded⟩ := hstop _ hbeyond
  obtain ⟨hshown, hagain⟩ := hback hacross hapart
  exact ⟨m, hbacked, hsix, hthree, hacross, hapart, hshown 4 (by decide), hagain 0, hbeyond, hfirst,
    hlanded, hwrite, hread [9, 9, 9, 9, 9, 9] rfl 0⟩

end Exokernel
