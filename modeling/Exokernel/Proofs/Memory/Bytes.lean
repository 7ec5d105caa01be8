/-
Memory byte by byte.

* `Contiguous`, `contiguous_pieces`: the pieces of a range follow each other;
* `writtenBytes`, `byte?_writePieces`: how far a write gets, and what a frame holds then;
* `readPieces_getElem?`: where the bytes of a read come from;
* `Machine.byte?`: the byte that an address space shows at an address;
* `Machine.userRead_getElem?`, `Machine.byte?_userWrite`: **what user code reads and writes** are
  these bytes.
-/
import Mathlib.Algebra.Ring.Nat
import Exokernel.Machine.Access
import Exokernel.Proofs.Memory.Allowances
import Exokernel.Proofs.Memory.Ranges

namespace Exokernel

open Layout

/-! ### Frames -/

namespace FramePool

variable {pool : FramePool} {n k : Nat}

/-- The byte at place `i` of a frame, whether the frame is in use or not. -/
def byte? (pool : FramePool) (n i : Nat) : Option UInt8 := (pool.contents? n).bind (·.byte? i)

lemma byte?_eq_of_contents? {pool' : FramePool} (h : pool'.contents? n = pool.contents? n)
    (i : Nat) : pool'.byte? n i = pool.byte? n i := by
  rw [byte?, byte?, h]

/-- A frame in use holds a byte at every place. -/
lemma exists_byte? (hin : (pool.allocated? n).isSome) {i : Nat} (hi : i < pageSize) :
    ∃ b, pool.byte? n i = some b := by
  obtain ⟨slot, hslot⟩ := Option.isSome_iff_exists.1 hin
  obtain ⟨hget, -⟩ := Option.filter_eq_some_iff.1 hslot
  refine ⟨slot.page.byte ⟨i, hi⟩, ?_⟩
  rw [byte?, contents?, hget, Option.map_some, Option.bind_some, Page.byte?, dif_pos hi]

/-- A frame ends with its page. -/
lemma byte?_of_le {i : Nat} (hi : pageSize ≤ i) : pool.byte? n i = none := by
  rw [byte?]
  cases pool.contents? n with
  | none => rfl
  | some page => exact dif_neg (Nat.not_lt.2 hi)

/-- What a write leaves in a frame that is in use. -/
lemma byte?_write (hin : (pool.allocated? n).isSome) (start : Nat) (data : List UInt8) {i : Nat}
    (hi : i < pageSize) : (pool.write n start data).byte? n i =
      if start ≤ i ∧ i < start + data.length then data[i - start]? else pool.byte? n i := by
  obtain ⟨slot, hslot⟩ := Option.isSome_iff_exists.1 hin
  obtain ⟨hget, hall⟩ := Option.filter_eq_some_iff.1 hslot
  rw [byte?, byte?, write, contents?_modify, if_pos rfl, contents?, hget]
  simp only [Option.map_some, Option.bind_some, if_pos hall, Page.byte?, dif_pos hi,
    Page.byte_write]
  split
  · next h =>
    have hlt : i - start < data.length := by omega
    rw [List.getD_eq_getElem?_getD, List.getElem?_eq_getElem hlt, Option.getD_some]
  · rfl

/-- A read brings as many bytes as it is asked for. -/
lemma length_read (pool : FramePool) (n start len : Nat) (absent : UInt8) :
    (pool.read n start len absent).length = len := by
  rw [read]
  split
  · exact List.length_replicate
  · rw [List.length_map, List.length_range]

end FramePool

/-! ### Pieces that follow each other -/

/-- How many bytes pieces have together. -/
def totalSize (ps : List Piece) : Nat := (ps.map (·.size)).sum

/-- Pieces follow each other from `start` on, and each lies in one page. -/
def Contiguous : Nat → List Piece → Prop
  | _, [] => True
  | start, p :: ps =>
    p.start = start ∧ p.offset + p.size ≤ pageSize ∧ Contiguous (start + p.size) ps

/-- Each of them ends in its page. -/
lemma Contiguous.fits {start : Nat} {ps : List Piece} (h : Contiguous start ps) {p : Piece}
    (hp : p ∈ ps) : p.offset + p.size ≤ pageSize := by
  induction ps generalizing start with
  | nil => cases hp
  | cons q ps ih =>
    obtain ⟨-, hoff, htail⟩ := h
    rcases List.mem_cons.1 hp with rfl | hp
    · exact hoff
    · exact ih htail hp

/-- The pieces of a range in `n` pages from page `first` on. -/
lemma contiguous_range' (start len n first : Nat)
    (hstart : start < (first + 1) * pageSize)
    (hend : n ≠ 0 → (first + n - 1) * pageSize < start + len) :
    Contiguous (max start (first * pageSize))
        ((List.range' first n).map (Piece.ofPage start len)) ∧
      totalSize ((List.range' first n).map (Piece.ofPage start len)) =
        min (start + len) ((first + n) * pageSize) - max start (first * pageSize) := by
  have hps : pageSize = 4096 := rfl
  induction n generalizing first with
  | zero =>
    refine ⟨trivial, ?_⟩
    simp only [List.range'_zero, List.map_nil, totalSize, List.sum_nil, Nat.add_zero]
    omega
  | succ n ih =>
    simp only [hps] at hstart hend ih ⊢
    have hlast := hend (Nat.succ_ne_zero n)
    have hnext : start < (first + 1 + 1) * 4096 := Nat.not_le.1 fun h => by omega
    have hmore : n ≠ 0 → (first + 1 + n - 1) * 4096 < start + len :=
      fun hn => Nat.not_le.1 fun h => by omega
    obtain ⟨htail, hsize⟩ := ih (first + 1) hnext hmore
    rw [List.range'_succ, List.map_cons]
    refine ⟨⟨rfl, ?_, ?_⟩, ?_⟩
    · simp only [Piece.ofPage, Piece.offset, hps]
      omega
    · cases n with
      | zero => trivial
      | succ n =>
        have hnext : max start (first * 4096) + (Piece.ofPage start len first).size =
            max start ((first + 1) * 4096) := by
          simp only [Piece.ofPage, hps]
          omega
        rw [hnext]
        exact htail
    · change (Piece.ofPage start len first).size + totalSize _ = _
      rw [hsize]
      simp only [Piece.ofPage, hps]
      omega

/-- **The pieces of a range** follow each other, and are as long as the range. -/
lemma contiguous_pieces (start len : Nat) :
    Contiguous start (pieces start len) ∧ totalSize (pieces start len) = len := by
  have hps : pageSize = 4096 := rfl
  rw [pieces, pagesOf]
  split
  · next hlen => exact ⟨trivial, hlen.symm⟩
  · next hlen =>
    obtain ⟨hcont, hsize⟩ := contiguous_range' start len
      ((start + len - 1) / pageSize - start / pageSize + 1) (start / pageSize)
      (by simp only [hps]; omega) fun _ => by simp only [hps]; omega
    have hmax : max start (start / pageSize * pageSize) = start := by
      simp only [hps]
      omega
    rw [hmax] at hcont hsize
    refine ⟨hcont, hsize.trans ?_⟩
    simp only [hps]
    omega

/-! ### Writing and reading pieces -/

variable {ε : Type} {frameOf : Nat → Except ε Nat} {pool : FramePool}

/-- How many bytes get through, until the first piece without a frame. -/
def writtenBytes (frameOf : Nat → Except ε Nat) : List Piece → Nat
  | [] => 0
  | p :: ps =>
    match frameOf p.start with
    | .error _ => 0
    | .ok _ => p.size + writtenBytes frameOf ps

lemma writtenBytes_le (ps : List Piece) : writtenBytes frameOf ps ≤ totalSize ps := by
  induction ps with
  | nil => exact Nat.le_refl 0
  | cons p ps ih =>
    have htotal : totalSize (p :: ps) = p.size + totalSize ps := rfl
    rw [writtenBytes, htotal]
    split
    · exact Nat.zero_le _
    · omega

/-- A write that succeeds gets through. -/
lemma writtenBytes_of_ok {ps : List Piece} {data : List UInt8}
    (h : (writePieces frameOf ps data pool).1 = .ok ()) :
    writtenBytes frameOf ps = totalSize ps := by
  induction ps generalizing data pool with
  | nil => rfl
  | cons p ps ih =>
    rw [writePieces] at h
    rw [writtenBytes]
    split
    · next e he =>
      rw [he] at h
      cases h
    · next n hn =>
      rw [hn] at h
      exact congrArg (p.size + ·) (ih h)

/-- What one piece of a write leaves in a frame that is in use, if it goes there exactly if it lies
in page `page`. -/
lemma byte?_write_piece {p : Piece} {data : List UInt8} {k n page i : Nat}
    (hoff : p.offset + p.size ≤ pageSize) (hlen : p.size ≤ data.length)
    (hin : (pool.allocated? n).isSome) (hiff : p.page = page ↔ k = n) (hi : i < pageSize) :
    (pool.write k p.offset (data.take p.size)).byte? n i =
      if p.start ≤ page * pageSize + i ∧ page * pageSize + i < p.start + p.size then
        data[page * pageSize + i - p.start]? else pool.byte? n i := by
  have hps : pageSize = 4096 := rfl
  have hplace : p.page * pageSize + p.offset = p.start := by
    simp only [Piece.page, Piece.offset, hps]
    omega
  simp only [hps] at hplace hoff hi ⊢
  by_cases hkn : k = n
  · subst hkn
    rw [hiff.2 rfl] at hplace
    have hsize : (data.take p.size).length = p.size := by
      rw [List.length_take]
      omega
    rw [FramePool.byte?_write hin _ _ hi, hsize]
    by_cases hthere : p.offset ≤ i ∧ i < p.offset + p.size
    · rw [if_pos hthere, if_pos ⟨by omega, by omega⟩, List.getElem?_take_of_lt (by omega)]
      congr 1
      omega
    · rw [if_neg hthere, if_neg fun h => hthere ⟨by omega, by omega⟩]
  · -- the piece lies in another page
    have hother : p.page ≠ page := fun hpage => hkn (hiff.1 hpage)
    rw [FramePool.byte?_eq_of_contents? (FramePool.contents?_write_of_ne _ _ hkn) i, if_neg]
    omega

/-- **What a write leaves** in a frame that is in use, if the pieces go to it that lie in page
`page`, and no others: the new bytes as far as the write gets. -/
lemma byte?_writePieces {ps : List Piece} {data : List UInt8} {start n page : Nat}
    (hcont : Contiguous start ps) (hlen : totalSize ps ≤ data.length)
    (hin : (pool.allocated? n).isSome)
    (hframe : ∀ p ∈ ps, ∀ k, frameOf p.start = .ok k → (p.page = page ↔ k = n)) {i : Nat}
    (hi : i < pageSize) :
    (writePieces frameOf ps data pool).2.byte? n i =
      if start ≤ page * pageSize + i ∧ page * pageSize + i < start + writtenBytes frameOf ps then
        data[page * pageSize + i - start]? else pool.byte? n i := by
  induction ps generalizing start data pool with
  | nil =>
    rw [writtenBytes, if_neg (by omega)]
    rfl
  | cons p ps ih =>
    obtain ⟨hstart, hoff, htail⟩ := hcont
    have htotal : totalSize (p :: ps) = p.size + totalSize ps := rfl
    rw [writePieces, writtenBytes]
    cases hk : frameOf p.start with
    | error e =>
      dsimp only
      rw [if_neg (by omega)]
    | ok k =>
      dsimp only
      have hiff := hframe p List.mem_cons_self k hk
      have hin' : ((pool.write k p.offset (data.take p.size)).allocated? n).isSome :=
        (FramePool.isSome_allocated?_write _ _).trans hin
      rw [ih htail (by rw [List.length_drop]; omega) hin'
        fun q hq => hframe q (List.mem_cons_of_mem _ hq), List.getElem?_drop,
        byte?_write_piece hoff (by omega) hin hiff hi, hstart]
      by_cases hlater : start + p.size ≤ page * pageSize + i
      · -- the byte lies behind the first piece
        have harith : p.size + (page * pageSize + i - (start + p.size)) =
            page * pageSize + i - start := by
          omega
        have hbehind : ¬ (start ≤ page * pageSize + i ∧ page * pageSize + i < start + p.size) := by
          omega
        rw [harith, if_neg hbehind]
        congr 1
        exact propext ⟨fun h => ⟨by omega, by omega⟩, fun h => ⟨hlater, by omega⟩⟩
      · rw [if_neg fun h => hlater h.1]
        congr 1
        exact propext ⟨fun h => ⟨h.1, by omega⟩, fun h => ⟨h.1, by omega⟩⟩

/-- **Where the bytes of a read come from**: each from the frame that is found for its page. -/
lemma readPieces_getElem? {ps : List Piece} {start : Nat} {absent : UInt8} {bytes : List UInt8}
    (hcont : Contiguous start ps) (h : readPieces frameOf absent pool ps = .ok bytes) :
    bytes.length = totalSize ps ∧ ∀ j < totalSize ps, ∃ p ∈ ps, ∃ n, frameOf p.start = .ok n ∧
      p.page = (start + j) / pageSize ∧ ∀ page, pool.page? n = some page →
        bytes[j]? = page.byte? ((start + j) % pageSize) := by
  have hps : pageSize = 4096 := rfl
  induction ps generalizing start bytes with
  | nil =>
    cases h
    exact ⟨rfl, fun j hj => absurd hj (Nat.not_lt_zero j)⟩
  | cons p ps ih =>
    obtain ⟨hstart, hoff, htail⟩ := hcont
    have htotal : totalSize (p :: ps) = p.size + totalSize ps := rfl
    rw [readPieces] at h
    split at h
    · cases h
    · next n hn =>
      cases hrest : readPieces frameOf absent pool ps with
      | error e =>
        rw [hrest] at h
        cases h
      | ok rest =>
        rw [hrest] at h
        cases h
        obtain ⟨hlen, hbytes⟩ := ih htail hrest
        have hread := pool.length_read n p.offset p.size absent
        refine ⟨by rw [List.length_append, hread, hlen, htotal], fun j hj => ?_⟩
        by_cases hfirst : j < p.size
        · refine ⟨p, List.mem_cons_self, n, hn, ?_, fun page hpage => ?_⟩
          · simp only [Piece.page, Piece.offset, hps] at hoff ⊢
            omega
          · have hplace : (start + j) % pageSize = p.offset + j := by
              simp only [Piece.offset, hps] at hoff ⊢
              omega
            have hlt : p.offset + j < pageSize := by omega
            rw [List.getElem?_append_left (by omega), FramePool.read, hpage, hplace]
            dsimp only
            rw [List.getElem?_map, List.getElem?_range hfirst, Option.map_some, Page.byte?,
              dif_pos hlt]
            rfl
        · obtain ⟨q, hq, k, hk, hpage, hbyte⟩ := hbytes (j - p.size) (by omega)
          have harith : start + p.size + (j - p.size) = start + j := by omega
          rw [harith] at hpage hbyte
          refine ⟨q, List.mem_cons_of_mem _ hq, k, hk, hpage, fun page hp => ?_⟩
          rw [List.getElem?_append_right (by omega), hread]
          exact hbyte page hp

/-! ### What user code sees -/

/-- The page of an address that is given by a page and a place in it. -/
lemma page_place {page i : Nat} (hi : i < pageSize) : (page * pageSize + i) / pageSize = page := by
  rw [Nat.mul_comm, Nat.mul_add_div (by decide), Nat.div_eq_of_lt hi, Nat.add_zero]

/-- What user code owns ends at a page boundary. -/
lemma place_lt_userTop {page i : Nat} (h : page * pageSize < userTop) (hi : i < pageSize) :
    page * pageSize + i < userTop := by
  have htop : userTop = userTop / pageSize * pageSize := by decide
  rw [htop] at h ⊢
  calc page * pageSize + i < page * pageSize + pageSize := Nat.add_lt_add_left hi _
    _ = (page + 1) * pageSize := (Nat.succ_mul _ _).symm
    _ ≤ _ := Nat.mul_le_mul_right _ (Nat.lt_of_mul_lt_mul_right h)

namespace Machine

variable {m : Machine} {s n : Nat} {va : VirtAddr}

/-- The byte that address space `s` shows at an address below `Layout.userTop`. -/
def byte? (m : Machine) (s address : Nat) : Option UInt8 :=
  (m.mapping? s (address / pageSize)).bind fun e => m.frames.byte? e.frame (address % pageSize)

/-- What an address shows depends on the frames and the address spaces only. -/
lemma byte?_of_spaces {m' : Machine} (hframes : m'.frames = m.frames)
    (hspaces : m'.spaces = m.spaces) (s address : Nat) :
    m'.byte? s address = m.byte? s address := by
  rw [byte?, byte?, mapping?_of_spaces hspaces, hframes]

lemma byte?_place (m : Machine) (s page : Nat) {i : Nat} (hi : i < pageSize) :
    m.byte? s (page * pageSize + i) =
      (m.mapping? s page).bind fun e => m.frames.byte? e.frame i := by
  have hplace : (page * pageSize + i) % pageSize = i := by
    rw [Nat.mul_comm, Nat.mul_add_mod, Nat.mod_eq_of_lt hi]
  rw [byte?, page_place hi, hplace]

lemma byte?_of_mapping? {page : Nat} {e : Mapping} (he : m.mapping? s page = some e) {i : Nat}
    (hi : i < pageSize) : m.byte? s (page * pageSize + i) = m.frames.byte? e.frame i := by
  rw [byte?_place m s page hi, he, Option.bind_some]

lemma byte?_of_none {page : Nat} (hnone : m.mapping? s page = none) {i : Nat}
    (hi : i < pageSize) : m.byte? s (page * pageSize + i) = none := by
  rw [byte?_place m s page hi, hnone, Option.bind_none]

/-- User code reaches a frame of a window, or one that a page shows, and writes it only if the page
allows it. -/
lemma userFrame_ok {write : Bool} {address : Nat} (h : m.userFrame s write va address = .ok n) :
    userTop ≤ address ∧ n ∈ m.tableFrames ∨
      address < userTop ∧ ∃ e, m.mapping? s (address / pageSize) = some e ∧
        e.frame = n ∧ (write = true → e.perm.contains .writable = true) := by
  rw [userFrame] at h
  split at h
  · next hcount =>
    have hnat : (VirtAddr.ofNat address).toNat = address := VirtAddr.toNat_ofNat_of_lt hcount
    rw [translate] at h
    split at h
    · cases h
    · next e he =>
      split at h
      · next hallowed =>
        cases h
        rw [lookup?] at he
        split at he
        · next hge =>
          rw [hnat] at hge
          refine .inl ⟨hge, List.mem_append_left _ (List.mem_map.2 ⟨e, ?_, rfl⟩)⟩
          exact SortedMap.mem_values_iff.2 ⟨_, he⟩
        · next hlt =>
          rw [hnat] at hlt
          refine .inr ⟨Nat.not_le.1 hlt, e, ?_, rfl, fun hwrite => ?_⟩
          · rwa [VirtAddr.page, hnat] at he
          · subst hwrite
            exact Perm.contains_trans hallowed.2 rfl
      · cases h
  · cases h

variable {kept loose : List Nat}

/-- **What user code reads** are the bytes that its pages show. -/
lemma userRead_getElem? (hacc : m.Accounted kept loose) {len : Nat} {absent : UInt8}
    {bytes : List UInt8} (h : m.userRead s va len absent = .ok bytes) :
    bytes.length = len ∧ ∀ j < len, va.toNat + j < userTop →
      bytes[j]? = m.byte? s (va.toNat + j) := by
  have hps : pageSize = 4096 := rfl
  have htop : userTop = 0xEEC00000 := rfl
  obtain ⟨hcont, htotal⟩ := contiguous_pieces va.toNat len
  obtain ⟨hlen, hbytes⟩ := readPieces_getElem? hcont h
  rw [htotal] at hlen hbytes
  refine ⟨hlen, fun j hj hlt => ?_⟩
  obtain ⟨p, hp, n, hn, hpage, hbyte⟩ := hbytes j hj
  have hstart : p.start < userTop := by
    simp only [Piece.page, hps] at hpage
    omega
  rw [byte?, ← hpage]
  rcases userFrame_ok hn with ⟨hge, -⟩ | ⟨-, e, he, rfl, -⟩
  · exact absurd hge (Nat.not_le.2 hstart)
  · have hin := hacc.isSome_of_mapping? he
    obtain ⟨slot, hslot⟩ := Option.isSome_iff_exists.1 hin
    have hcontents := FramePool.page?_of_allocated? hslot
    have hpage' : m.frames.page? e.frame = some slot.page := by
      rw [FramePool.page?, hslot, Option.map_some]
    rw [hbyte slot.page hpage', Piece.page, he, Option.bind_some, FramePool.byte?, ← hcontents,
      hpage', Option.bind_some]

/-- How many bytes of a write of user code get through. -/
def userWritten (m : Machine) (s : Nat) (va : VirtAddr) (data : List UInt8) : Nat :=
  writtenBytes (m.userFrame s true va) (pieces va.toNat data.length)

lemma userWritten_le (data : List UInt8) : m.userWritten s va data ≤ data.length :=
  Nat.le_trans (writtenBytes_le _) (Nat.le_of_eq (contiguous_pieces _ _).2)

/-- All of them, if the write succeeds. -/
lemma userWritten_of_ok {data : List UInt8} (h : (m.userWrite s va data).1 = .ok ()) :
    m.userWritten s va data = data.length :=
  (writtenBytes_of_ok h).trans (contiguous_pieces _ _).2

/-- A frame that no page lets user code write keeps its contents. -/
lemma contents?_userWrite (data : List UInt8) (htable : n ∉ m.tableFrames)
    (h : ∀ page e, m.mapping? s page = some e → e.perm.contains .writable = true → e.frame ≠ n) :
    (m.userWrite s va data).2.frames.contents? n = m.frames.contents? n := by
  refine contents?_writePieces _ data m.frames fun p _ hframe => ?_
  rcases userFrame_ok hframe with ⟨-, hmem⟩ | ⟨-, e, he, rfl, hwrite⟩
  · exact htable hmem
  · exact h _ e he (hwrite rfl) rfl

/-- **What user code writes** at a page is there afterwards, as far as the write gets, if no other
page of the range lets it write the same frame. -/
lemma byte?_userWrite (hacc : m.Accounted kept loose) (data : List UInt8) {page : Nat} {e : Mapping}
    (he : m.mapping? s page = some e)
    (hsole : ∀ page' ∈ pagesOf va.toNat data.length, ∀ e', m.mapping? s page' = some e' →
      e'.frame = e.frame → e'.perm.contains .writable = true → page' = page) {i : Nat}
    (hi : i < pageSize) :
    (m.userWrite s va data).2.byte? s (page * pageSize + i) =
      if va.toNat ≤ page * pageSize + i ∧
          page * pageSize + i < va.toNat + m.userWritten s va data then
        data[page * pageSize + i - va.toNat]? else m.byte? s (page * pageSize + i) := by
  have hps : pageSize = 4096 := rfl
  have htop : userTop = 0xEEC00000 := rfl
  have he' : (m.userWrite s va data).2.mapping? s page = some e := he
  rw [byte?_of_mapping? he hi, byte?_of_mapping? he' hi]
  obtain ⟨hcont, htotal⟩ := contiguous_pieces va.toNat data.length
  refine byte?_writePieces hcont (Nat.le_of_eq htotal) (hacc.isSome_of_mapping? he)
    (fun p hp k hk => ?_) hi
  have hbelow := hacc.below s page e he
  rcases userFrame_ok hk with ⟨hge, hmem⟩ | ⟨hlt, e', hpage, rfl, hwrite⟩
  · constructor
    · intro hpage
      simp only [Piece.page, hps] at hpage hbelow
      omega
    · rintro rfl
      exact absurd hmem (hacc.notMem_tableFrames he)
  · constructor
    · rintro rfl
      rw [Piece.page, hpage] at he
      cases he
      rfl
    · exact fun hsame => hsole _ (page_mem_pagesOf hp) e' hpage hsame (hwrite rfl)

end Machine

end Exokernel
