/-
The check that the kernel makes of a range of user memory, and what user code may do there.

* `writtenBytes_page`, `checkPieces_stop`: how far a write gets, and where a range is refused;
* `checkPieces_first`: a range is refused at its first piece without a frame;
* `Machine.Usable`: pages that user code may use, for reading or for writing;
* `Machine.userCheck`: **an access of user code** succeeds or is refused by its range alone;
* `Machine.checkUser_eq`, `Machine.checkUser_ok_iff`: so is the check, for the same reason at the
  same address;
* `Machine.copyIn_eq`: what the check lets through, the kernel reads as user code would;
* `Machine.checkUser_byte_iff`: what the check asks of a single byte;
* `Machine.checkWalk`, `Machine.checkByPages`: the check as a loop over words of 32 bits, which may
  not hold the address of a next page;
* `Machine.checkByPages_eq`: **the loop ends**, with the answer of the check, and the addresses fit;
* `check_agrees`: **the check agrees with the machine.**
-/
import Exokernel.Proofs.Memory.Attempts

namespace Exokernel

open Layout

/-! ### Pieces -/

section Pieces

variable {ε δ : Type} {f : Nat → Except ε Nat} {g : Nat → Except δ Nat} {ps : List Piece}
  {start : Nat} {e : ε} {pool : FramePool}

/-- There is a frame for every byte of a write that gets through. -/
lemma writtenBytes_page (hcont : Contiguous start ps) {a : Nat} (hfirst : start ≤ a)
    (hlast : a < start + writtenBytes f ps) :
    ∃ q ∈ ps, q.page = a / pageSize ∧ ∃ n, f q.start = .ok n := by
  have hps : pageSize = 4096 := rfl
  induction ps generalizing start with
  | nil => exact absurd hlast (Nat.not_lt.2 hfirst)
  | cons p ps ih =>
    obtain ⟨rfl, hoff, htail⟩ := hcont
    rw [writtenBytes] at hlast
    cases hk : f p.start with
    | error e =>
      rw [hk] at hlast
      exact absurd hlast (Nat.not_lt.2 hfirst)
    | ok k =>
      rw [hk] at hlast
      dsimp only at hlast
      by_cases hhere : a < p.start + p.size
      · refine ⟨p, List.mem_cons_self, ?_, k, hk⟩
        simp only [Piece.page, Piece.offset, hps] at hoff ⊢
        omega
      · obtain ⟨q, hq, hrest⟩ := ih htail (Nat.not_lt.1 hhere) (by omega)
        exact ⟨q, List.mem_cons_of_mem _ hq, hrest⟩

/-- A range is refused where a write gets to. -/
lemma checkPieces_stop (hcont : Contiguous start ps) (h : checkPieces f ps = .error e) :
    ∃ p ∈ ps, p.start = start + writtenBytes f ps ∧ f p.start = .error e := by
  induction ps generalizing start with
  | nil => cases h
  | cons p ps ih =>
    obtain ⟨rfl, -, htail⟩ := hcont
    rw [checkPieces] at h
    rw [writtenBytes]
    cases hk : f p.start with
    | error e' =>
      rw [hk] at h
      cases h
      exact ⟨p, List.mem_cons_self, rfl, hk⟩
    | ok k =>
      rw [hk] at h
      obtain ⟨q, hq, hstart, herror⟩ := ih htail h
      exact ⟨q, List.mem_cons_of_mem _ hq, hstart.trans (Nat.add_assoc ..), herror⟩

/-- **A range is refused** at its first piece without a frame: there is one for every byte
before. -/
lemma checkPieces_first (hcont : Contiguous start ps) (h : checkPieces f ps = .error e) :
    ∃ p ∈ ps, f p.start = .error e ∧ ∀ a, start ≤ a → a < p.start →
      ∃ q ∈ ps, q.page = a / pageSize ∧ ∃ n, f q.start = .ok n := by
  obtain ⟨p, hp, hstart, herror⟩ := checkPieces_stop hcont h
  refine ⟨p, hp, herror, fun a hfirst hlast => ?_⟩
  rw [hstart] at hlast
  exact writtenBytes_page hcont hfirst hlast

/-- A range that is let through has a frame for every piece. -/
lemma frame_of_checkPieces (h : checkPieces f ps = .ok ()) {p : Piece} (hp : p ∈ ps) :
    ∃ n, f p.start = .ok n := by
  induction ps with
  | nil => cases hp
  | cons q ps ih =>
    rw [checkPieces] at h
    cases hq : f q.start with
    | error e =>
      rw [hq] at h
      cases h
    | ok n =>
      rw [hq] at h
      rcases List.mem_cons.1 hp with rfl | hp
      · exact ⟨n, hq⟩
      · exact ih h hp

/-- Frames that are found in the same places, and missed for reasons that correspond. -/
lemma checkPieces_mapError {φ : ε → δ} (h : ∀ p ∈ ps, g p.start = (f p.start).mapError φ) :
    checkPieces g ps = (checkPieces f ps).mapError φ := by
  induction ps with
  | nil => rfl
  | cons p ps ih =>
    have hp := h p List.mem_cons_self
    rw [checkPieces, checkPieces, hp]
    cases f p.start with
    | error e => rfl
    | ok n => exact ih fun q hq => h q (List.mem_cons_of_mem _ hq)

/-- A read through frames that are found in another way as well. -/
lemma readPieces_of_same {absent : UInt8} {bytes : List UInt8}
    (h : ∀ p ∈ ps, ∀ n, f p.start = .ok n → g p.start = .ok n)
    (hread : readPieces f absent pool ps = .ok bytes) :
    readPieces g absent pool ps = .ok bytes := by
  induction ps generalizing bytes with
  | nil =>
    cases hread
    rfl
  | cons p ps ih =>
    rw [readPieces] at hread ⊢
    cases hp : f p.start with
    | error e =>
      rw [hp] at hread
      cases hread
    | ok n =>
      rw [hp] at hread
      rw [h p List.mem_cons_self n hp]
      dsimp only at hread ⊢
      cases hrest : readPieces f absent pool ps with
      | error e =>
        rw [hrest] at hread
        cases hread
      | ok rest =>
        rw [hrest] at hread
        cases hread
        rw [ih (fun q hq => h q (List.mem_cons_of_mem _ hq)) hrest]
        rfl

end Pieces

namespace Machine

variable {m : Machine} {s len a : Nat} {va : VirtAddr} {write : Bool} {perm : Perm}
  {bad : VirtAddr}

/-! ### Pages that user code may use -/

/-- What an access asks for beyond what every page for user code allows. -/
def extraPerm (write : Bool) : Perm := if write then .writable else .none

/-- **User code may use a page**, for reading or for writing. -/
def Usable (m : Machine) (s : Nat) (write : Bool) (page : Nat) : Prop :=
  page * pageSize < userLimit ∧ ∃ e, m.lookup? s (.ofNat (page * pageSize)) = some e ∧
    e.perm.contains (accessPerm write) = true

/-- **The first address of a range** that lies on a page which user code may not use. -/
structure FirstRefused (m : Machine) (s : Nat) (write : Bool) (va : VirtAddr) (len : Nat)
    (bad : VirtAddr) : Prop where
  inside : va.toNat ≤ bad.toNat ∧ bad.toNat < va.toNat + len
  refused : ¬ m.Usable s write bad.page
  before : ∀ a, va.toNat ≤ a → a < bad.toNat → m.Usable s write (a / pageSize)

/-- What is shown at an address depends on its page only. -/
lemma lookup?_of_page {vb : VirtAddr} (h : va.page = vb.page) :
    m.lookup? s va = m.lookup? s vb := by
  have htop : userTop = 0xEEC00000 := rfl
  have hps : pageSize = 4096 := rfl
  have hiff : userTop ≤ va.toNat ↔ userTop ≤ vb.toNat := by
    simp only [VirtAddr.page, hps] at h
    omega
  rw [lookup?, lookup?, h]
  simp only [hiff]

/-- The page of an address, and where it begins. -/
lemma page_pageStart (ha : a < addressCount) :
    (VirtAddr.ofNat (a / pageSize * pageSize)).page = (VirtAddr.ofNat a).page := by
  have hbase : a / pageSize * pageSize < addressCount :=
    Nat.lt_of_le_of_lt (Nat.div_mul_le_self ..) ha
  rw [VirtAddr.page_ofNat_of_lt hbase, VirtAddr.page_ofNat_of_lt ha,
    Nat.mul_div_cancel _ (by decide)]

/-- What user code may look at ends at a page boundary. -/
lemma pageStart_lt_userLimit : a / pageSize * pageSize < userLimit ↔ a < userLimit := by
  have hlimit : userLimit = 0xEF800000 := rfl
  have hps : pageSize = 4096 := rfl
  rw [hlimit, hps]
  omega

/-- Behind a page that user code may look at there is another page. -/
lemma succ_page_lt {n : Nat} (h : n * pageSize < userLimit) :
    (n + 1) * pageSize < addressCount := by
  have hlow : n * 4096 < 0xEF800000 := h
  refine Nat.not_le.1 fun hhigh => ?_
  have hhigh : 0x100000000 ≤ (n + 1) * 4096 := hhigh
  omega

/-- **What user code reaches** at an address: a frame, if it may use the page, and a fault at the
address otherwise. -/
lemma userFrame_cases (m : Machine) (s : Nat) (write : Bool) (va : VirtAddr)
    (ha : a < addressCount) :
    m.Usable s write (a / pageSize) ∧ (∃ e, m.lookup? s (.ofNat a) = some e ∧
        m.userFrame s write va a = .ok e.frame) ∨
      ¬ m.Usable s write (a / pageSize) ∧
        ∃ err, m.userFrame s write va a = .error ⟨.ofNat a, err⟩ := by
  have hnat : (VirtAddr.ofNat a).toNat = a := VirtAddr.toNat_ofNat_of_lt ha
  rw [Usable, pageStart_lt_userLimit, lookup?_of_page (page_pageStart ha), userFrame, if_pos ha,
    translate]
  cases hlookup : m.lookup? s (.ofNat a) with
  | none =>
    refine .inr ⟨?_, _, rfl⟩
    rintro ⟨-, e, he, -⟩
    cases he
  | some e =>
    dsimp only
    rw [hnat]
    by_cases hallowed : a < userLimit ∧ e.perm.contains (accessPerm write) = true
    · exact .inl ⟨⟨hallowed.1, e, rfl, hallowed.2⟩, e, rfl, if_pos hallowed⟩
    · refine .inr ⟨?_, _, if_neg hallowed⟩
      rintro ⟨hlt, e', he', hperm⟩
      cases he'
      exact hallowed ⟨hlt, hperm⟩

/-- The kernel asks of a page what an access of user code asks of it. -/
lemma extraPerm_or (write : Bool) : extraPerm write ||| .userRead = accessPerm write := by
  cases write <;> rfl

/-- The kernel looks for the frame that user code would reach. -/
lemma allowedFrame_eq (m : Machine) (s : Nat) (write : Bool) (va : VirtAddr)
    (ha : a < addressCount) : m.allowedFrame s (extraPerm write) a =
      (m.userFrame s write va a).mapError MmuFault.va := by
  rw [allowedFrame, userFrame, if_pos ha, translate, extraPerm_or]
  cases m.lookup? s (.ofNat a) with
  | none => rfl
  | some e =>
    dsimp only
    split <;> rfl

/-- The kernel finds no frame above what user code may look at. -/
lemma lt_userLimit_of_allowedFrame {n : Nat} (ha : a < addressCount)
    (h : m.allowedFrame s perm a = .ok n) : a < userLimit := by
  rw [allowedFrame] at h
  split at h
  · cases h
  · split at h
    · next hallowed =>
      rw [VirtAddr.toNat_ofNat_of_lt ha] at hallowed
      exact hallowed.1
    · cases h

/-! ### Ranges -/

/-- Whether user code may access a range, and if not, the fault. -/
def userCheck (m : Machine) (s : Nat) (write : Bool) (va : VirtAddr) (len : Nat) :
    Except MmuFault Unit :=
  checkPieces (m.userFrame s write va) (pieces va.toNat len)

/-- **A read** succeeds or is refused by its range alone. -/
lemma map_userRead (m : Machine) (s : Nat) (va : VirtAddr) (len : Nat) (absent : UInt8) :
    (m.userRead s va len absent).map (fun _ => ()) = m.userCheck s false va len :=
  readPieces_eq_checkPieces ..

/-- **A write**, too. -/
lemma fst_userWrite (m : Machine) (s : Nat) (va : VirtAddr) (data : List UInt8) :
    (m.userWrite s va data).1 = m.userCheck s true va data.length :=
  writePieces_eq_checkPieces ..

/-- A read that is refused is not reported as a write. -/
lemma userRead_error_code {absent : UInt8} {fault : MmuFault}
    (h : m.userRead s va len absent = .error fault) : fault.err &&& FaultCode.write = 0 := by
  have hcheck : m.userCheck s false va len = .error fault := by
    rw [← map_userRead m s va len absent, h]
    rfl
  have hmissing : accessCode false &&& FaultCode.write = 0 := by decide
  have hprotected : (accessCode false ||| FaultCode.protection) &&& FaultCode.write = 0 := by decide
  obtain ⟨p, -, herror⟩ := checkPieces_error hcheck
  rw [userFrame] at herror
  split at herror
  · rw [translate] at herror
    split at herror
    · cases herror
      exact hmissing
    · split at herror
      · cases herror
      · cases herror
        exact hprotected
  · cases herror
    exact hmissing

/-- Every piece of a range that does not wrap begins at an address. -/
lemma start_lt_addressCount (hlt : va.toNat + len < addressCount) {p : Piece}
    (hp : p ∈ pieces va.toNat len) : p.start < addressCount :=
  Nat.lt_trans (start_lt_of_mem_pieces hp).2 hlt

/-- **The check of a range that does not wrap** fails where an access of user code does. -/
lemma checkUser_eq (write : Bool) (hlt : va.toNat + len < addressCount) :
    m.checkUser s va len (extraPerm write) =
      (m.userCheck s write va len).mapError MmuFault.va := by
  by_cases hlen : len = 0
  · subst hlen
    rfl
  · rw [checkUser, if_neg hlen, if_pos hlt]
    exact checkPieces_mapError fun p hp => allowedFrame_eq m s write va
      (start_lt_addressCount hlt hp)

/-- No frame is found on the last page of the address space. -/
lemma userFrame_last {p : Piece} {n : Nat} (hpage : p.page = (addressCount - 1) / pageSize) :
    m.userFrame s write va p.start ≠ .ok n := by
  have hcount : addressCount = 0x100000000 := rfl
  have hlimit : userLimit = 0xEF800000 := rfl
  have hps : pageSize = 4096 := rfl
  simp only [Piece.page, hcount, hps] at hpage
  intro hn
  rcases userFrame_cases m s write va (a := p.start) (by omega) with ⟨husable, -⟩ | ⟨-, err, herror⟩
  · have hlow := pageStart_lt_userLimit.1 husable.1
    omega
  · rw [hn] at herror
    cases herror

/-- **A range that wraps** comes to addresses that user code may not use. -/
lemma userCheck_of_wraps (write : Bool) (hwraps : addressCount ≤ va.toNat + len) :
    m.userCheck s write va len ≠ .ok () := by
  have hcount : addressCount = 0x100000000 := rfl
  have hps : pageSize = 4096 := rfl
  have hva := va.toNat_lt
  intro hok
  -- the last page of the address space is among the pages of the range
  have hpage : (addressCount - 1) / pageSize ∈ pagesOf va.toNat len :=
    div_mem_pagesOf (Nat.le_pred_of_lt hva) (Nat.lt_of_lt_of_le (by decide) hwraps)
  obtain ⟨n, hn⟩ := frame_of_checkPieces hok (List.mem_map.2 ⟨_, hpage, rfl⟩)
  refine userFrame_last ?_ hn
  simp only [Piece.page, Piece.ofPage, hcount, hps] at hva ⊢
  omega

/-- A check of a range that wraps fails at its beginning. -/
lemma checkUser_of_wraps (hlen : len ≠ 0) (hwraps : addressCount ≤ va.toNat + len) :
    m.checkUser s va len perm = .error va := by
  rw [checkUser, if_neg hlen, if_neg (Nat.not_lt.2 hwraps)]

/-- **The check succeeds** exactly if an access of user code does. -/
lemma checkUser_ok_iff (write : Bool) :
    m.checkUser s va len (extraPerm write) = .ok () ↔ m.userCheck s write va len = .ok () := by
  by_cases hlen : len = 0
  · subst hlen
    rw [checkUser, if_pos rfl, userCheck, pieces, pagesOf, if_pos rfl]
    exact ⟨fun _ => rfl, fun _ => rfl⟩
  · by_cases hlt : va.toNat + len < addressCount
    · rw [checkUser_eq write hlt]
      cases m.userCheck s write va len with
      | error fault => exact ⟨by rintro ⟨⟩, by rintro ⟨⟩⟩
      | ok u => exact ⟨fun _ => rfl, fun _ => rfl⟩
    · have hwraps := Nat.not_lt.1 hlt
      rw [checkUser_of_wraps hlen hwraps]
      exact ⟨by rintro ⟨⟩, fun hok => absurd hok (userCheck_of_wraps write hwraps)⟩

/-- **An access that is refused** is so at the first address that user code may not use. -/
lemma firstRefused_of_userCheck {fault : MmuFault} (h : m.userCheck s write va len = .error fault) :
    m.FirstRefused s write va len fault.va := by
  obtain ⟨p, hp, herror, hbefore⟩ := checkPieces_first (contiguous_pieces va.toNat len).1 h
  -- a range that wraps comes to the last page of the address space before
  have hcount : p.start < addressCount := by
    by_contra hwraps
    obtain ⟨q, -, hpage, n, hn⟩ := hbefore (addressCount - 1) (Nat.le_pred_of_lt va.toNat_lt)
      (Nat.lt_of_lt_of_le (by decide) (Nat.not_lt.1 hwraps))
    exact userFrame_last hpage hn
  rcases userFrame_cases m s write va hcount with ⟨-, e, -, hok⟩ | ⟨hunusable, err, herror'⟩
  · rw [herror] at hok
    cases hok
  · rw [herror] at herror'
    cases herror'
    have hnat : (VirtAddr.ofNat p.start).toNat = p.start := VirtAddr.toNat_ofNat_of_lt hcount
    refine ⟨?_, ?_, fun a hle hlt' => ?_⟩
    · rw [hnat]
      exact start_lt_of_mem_pieces hp
    · rwa [VirtAddr.page, hnat]
    · rw [hnat] at hlt'
      obtain ⟨q, hq, hpage, n, hn⟩ := hbefore a hle hlt'
      have hqcount : q.start < addressCount := by
        have hps : pageSize = 4096 := rfl
        have hcount' : addressCount = 0x100000000 := rfl
        simp only [Piece.page, hps, hcount'] at hpage hcount ⊢
        omega
      rw [← hpage]
      rcases userFrame_cases m s write va hqcount with ⟨husable, -⟩ | ⟨-, err', herror⟩
      · exact husable
      · rw [hn] at herror
        cases herror

/-- **What the check lets through** the kernel reads as user code would. -/
lemma copyIn_eq {absent : UInt8} {bytes : List UInt8} (hlt : va.toNat + len < addressCount)
    (h : m.userRead s va len absent = .ok bytes) : m.copyIn s va len absent = .ok bytes := by
  refine readPieces_of_same (fun p hp n hn => ?_) h
  have hcount := start_lt_addressCount hlt hp
  rcases userFrame_cases m s false va hcount with ⟨-, e, he, hok⟩ | ⟨-, err, herror⟩
  · rw [hok] at hn
    cases hn
    rw [mappedFrame, if_pos hcount, lookup?_of_page (VirtAddr.page_pageBase _), he]
  · rw [hn] at herror
    cases herror

/-! ### A single byte -/

/-- The only piece of a single byte. -/
lemma start_of_mem_pieces_one {a : Nat} {p : Piece} (hp : p ∈ pieces a 1) : p.start = a := by
  obtain ⟨hfirst, hlast⟩ := start_lt_of_mem_pieces hp
  exact Nat.le_antisymm (Nat.le_of_lt_succ hlast) hfirst

/-- **What the kernel asks of a single byte**: that user code may look at it, and that its page
allows what is asked for. -/
lemma checkUser_byte_iff : m.checkUser s va 1 perm = .ok () ↔
    va.toNat < userLimit ∧ ∃ e, m.lookup? s va = some e ∧
      e.perm.contains (perm ||| .userRead) = true := by
  have hframe : (∃ n, m.allowedFrame s perm va.toNat = .ok n) ↔
      va.toNat < userLimit ∧ ∃ e, m.lookup? s va = some e ∧
        e.perm.contains (perm ||| .userRead) = true := by
    rw [allowedFrame, VirtAddr.ofNat_toNat]
    cases hlookup : m.lookup? s va with
    | none => exact ⟨nofun, fun ⟨_, _, he, _⟩ => nomatch he⟩
    | some e =>
      dsimp only
      constructor
      · rintro ⟨n, hn⟩
        split at hn
        · next hallowed => exact ⟨hallowed.1, e, rfl, hallowed.2⟩
        · cases hn
      · rintro ⟨hlt, e', he, hperm⟩
        cases he
        exact ⟨e.frame, if_pos ⟨hlt, hperm⟩⟩
  rw [← hframe, checkUser, if_neg Nat.one_ne_zero]
  split
  · constructor
    · intro hok
      have hpiece : Piece.ofPage va.toNat 1 (va.toNat / pageSize) ∈ pieces va.toNat 1 :=
        List.mem_map.2 ⟨_, div_mem_pagesOf (Nat.le_refl _) (Nat.lt_succ_self _), rfl⟩
      have hfound := frame_of_checkPieces hok hpiece
      rwa [start_of_mem_pieces_one hpiece] at hfound
    · rintro ⟨n, hn⟩
      exact checkPieces_ok fun p hp => ⟨n, by rw [start_of_mem_pieces_one hp, hn]⟩
  · next hwraps =>
    refine ⟨nofun, fun hfound => ?_⟩
    have hlimit : userLimit + 1 < addressCount := by decide
    have hlt := (hframe.1 hfound).1
    omega

/-! ### The check as a loop -/

/-- The pages of a range, one after the other from the one at `page` on, up to the word `stop`. The
addresses are words: nothing comes out if there is no word for the next page. -/
def checkWalk (m : Machine) (s : Nat) (va : VirtAddr) (stop : UInt32) (perm : Perm)
    (page : VirtAddr) : Option (Except VirtAddr Unit) :=
  if page.word < stop then
    let here : VirtAddr := if page.word < va.word then va else page
    if page.toNat < userLimit then
      match m.lookup? s page with
      | none => some (.error here)
      | some e =>
        if e.perm.contains (perm ||| .userRead) then
          if page.toNat + pageSize < addressCount then
            m.checkWalk s va stop perm (.ofNat (page.toNat + pageSize))
          else none
        else some (.error here)
    else some (.error here)
  else some (.ok ())
termination_by stop.toNat - page.toNat
decreasing_by
  rename_i hpage _ hnext
  rw [VirtAddr.toNat_ofNat_of_lt hnext]
  have hlt : page.toNat < stop.toNat := hpage
  have hps : 0 < pageSize := by decide
  omega

/-- The check of a range whose length is a word. -/
def checkByPages (m : Machine) (s : Nat) (va : VirtAddr) (len : UInt32) (perm : Perm) :
    Option (Except VirtAddr Unit) :=
  if len = 0 then some (.ok ())
  else
    match va.add? len.toNat with
    | none => some (.error va)
    | some stop => m.checkWalk s va stop.word perm va.pageBase

/-- Where a range that begins at `va` begins on a page, or on a later one. -/
lemma ite_word_eq (va page : VirtAddr) :
    (if page.word < va.word then va else page) = .ofNat (max va.toNat page.toNat) := by
  ext
  rw [VirtAddr.toNat_ofNat_of_lt (Nat.max_lt.2 ⟨va.toNat_lt, page.toNat_lt⟩)]
  split
  · next hlt =>
    change page.toNat < va.toNat at hlt
    exact (Nat.max_eq_left (Nat.le_of_lt hlt)).symm
  · next hge =>
    change ¬ page.toNat < va.toNat at hge
    exact (Nat.max_eq_right (Nat.not_lt.1 hge)).symm

/-- **One round of the loop**, at the page with number `n`: the page is refused, or the next one is
looked at. -/
lemma checkWalk_round {stop : VirtAddr} {n : Nat} (hcount : n * pageSize < addressCount)
    (hin : n * pageSize < stop.toNat) (hva : va.toNat < (n + 1) * pageSize) :
    m.checkWalk s va stop.word perm (.ofNat (n * pageSize)) =
      match m.allowedFrame s perm (max va.toNat (n * pageSize)) with
      | .error e => some (.error e)
      | .ok _ => m.checkWalk s va stop.word perm (.ofNat ((n + 1) * pageSize)) := by
  have hps : pageSize = 4096 := rfl
  have hlimit : userLimit = 0xEF800000 := rfl
  have hnat : (VirtAddr.ofNat (n * pageSize)).toNat = n * pageSize :=
    VirtAddr.toNat_ofNat_of_lt hcount
  have hplace : max va.toNat (n * pageSize) < addressCount := by
    have := va.toNat_lt
    omega
  have hplaced := VirtAddr.toNat_ofNat_of_lt hplace
  have hword : (VirtAddr.ofNat (n * pageSize)).word < stop.word := by
    change (VirtAddr.ofNat (n * pageSize)).toNat < stop.toNat
    rwa [hnat]
  have hsame : m.lookup? s (.ofNat (n * pageSize)) =
      m.lookup? s (.ofNat (max va.toNat (n * pageSize))) := by
    refine lookup?_of_page ?_
    rw [VirtAddr.page, VirtAddr.page, hnat, hplaced]
    simp only [hps] at hva ⊢
    omega
  have hbelow : n * pageSize < userLimit ↔ max va.toNat (n * pageSize) < userLimit := by
    simp only [hps, hlimit] at hva ⊢
    omega
  rw [checkWalk, if_pos hword, allowedFrame]
  dsimp only
  rw [ite_word_eq, hsame, hnat, hplaced, ← Nat.succ_mul]
  by_cases hlow : n * pageSize < userLimit
  · rw [if_pos hlow, if_pos (succ_page_lt hlow)]
    cases m.lookup? s (.ofNat (max va.toNat (n * pageSize))) with
    | none => rfl
    | some e =>
      dsimp only
      by_cases hperm : e.perm.contains (perm ||| .userRead) = true
      · rw [if_pos hperm, if_pos ⟨hbelow.1 hlow, hperm⟩]
      · rw [if_neg hperm, if_neg fun hc => hperm hc.2]
  · rw [if_neg hlow]
    cases m.lookup? s (.ofNat (max va.toNat (n * pageSize))) with
    | none => rfl
    | some e =>
      dsimp only
      rw [if_neg fun hc => hlow (hbelow.2 hc.1)]

/-- **The loop over `k` pages** from the one with number `n` on ends with the answer of the
check. -/
lemma checkWalk_eq {stop : VirtAddr} {n k : Nat} (hva : va.toNat < (n + 1) * pageSize)
    (hend : stop.toNat ≤ (n + k) * pageSize)
    (hlast : k ≠ 0 → (n + k - 1) * pageSize < stop.toNat) (hcount : n * pageSize < addressCount) :
    m.checkWalk s va stop.word perm (.ofNat (n * pageSize)) =
      some (checkPieces (m.allowedFrame s perm)
        ((List.range' n k).map (Piece.ofPage va.toNat len))) := by
  induction k generalizing n with
  | zero =>
    have hout : ¬ (VirtAddr.ofNat (n * pageSize)).word < stop.word := by
      change ¬ (VirtAddr.ofNat (n * pageSize)).toNat < stop.toNat
      rw [VirtAddr.toNat_ofNat_of_lt hcount]
      exact Nat.not_lt.2 hend
    rw [checkWalk, if_neg hout]
    rfl
  | succ k ih =>
    have hreach : (n + k) * pageSize < stop.toNat := hlast (Nat.succ_ne_zero k)
    have hin : n * pageSize < stop.toNat :=
      Nat.lt_of_le_of_lt (Nat.mul_le_mul_right _ (Nat.le_add_right n k)) hreach
    have hstart : (Piece.ofPage va.toNat len n).start = max va.toNat (n * pageSize) := rfl
    have hsucc : n + 1 + k = n + (k + 1) := Nat.succ_add_eq_add_succ n k
    rw [checkWalk_round hcount hin hva, List.range'_succ, List.map_cons, checkPieces, hstart]
    cases hframe : m.allowedFrame s perm (max va.toNat (n * pageSize)) with
    | error e => rfl
    | ok frame =>
      have hplace := lt_userLimit_of_allowedFrame (Nat.max_lt.2 ⟨va.toNat_lt, hcount⟩) hframe
      have hnext := succ_page_lt (Nat.lt_of_le_of_lt (Nat.le_max_right va.toNat _) hplace)
      have hmore : (n + 1) * pageSize ≤ (n + 1 + 1) * pageSize :=
        Nat.mul_le_mul_right pageSize (Nat.le_succ (n + 1))
      refine ih ?_ ?_ (fun _ => ?_) hnext
      · exact Nat.lt_of_lt_of_le hva hmore
      · rwa [hsucc]
      · rw [hsucc]
        exact hreach

/-- **The loop ends**, its addresses are words throughout, and its answer is that of the check. -/
lemma checkByPages_eq (m : Machine) (s : Nat) (va : VirtAddr) (len : UInt32) (perm : Perm) :
    m.checkByPages s va len perm = some (m.checkUser s va len.toNat perm) := by
  have hps : pageSize = 4096 := rfl
  have hva := va.toNat_lt
  rw [checkByPages]
  by_cases hzero : len = 0
  · subst hzero
    rw [if_pos rfl]
    rfl
  · have hlen : len.toNat ≠ 0 := fun h => hzero (UInt32.toNat_inj.1 h)
    rw [if_neg hzero, checkUser, if_neg hlen]
    cases hadd : va.add? len.toNat with
    | none =>
      have hwraps : ¬ va.toNat + len.toNat < addressCount := fun hlt => by
        rw [VirtAddr.add?, if_pos hlt] at hadd
        cases hadd
      rw [if_neg hwraps]
    | some stop =>
      have hstop := VirtAddr.add?_eq_some_iff.1 hadd
      have hlt : va.toNat + len.toNat < addressCount := hstop ▸ stop.toNat_lt
      rw [if_pos hlt, pieces, pagesOf, if_neg hlen]
      have hbase : va.pageBase = .ofNat (va.toNat / pageSize * pageSize) := rfl
      rw [hbase]
      refine checkWalk_eq ?_ ?_ (fun _ => ?_) ?_ <;> simp only [hps] at * <;> omega

/-! ### The check and the machine -/

/-- **The kernel's check of a range agrees with what the machine lets user code do.** It lets a
range through, to be read or to be written, exactly if user code may read it or write it. Where a
range that does not wrap is refused, both name the first address that lies on a page which user code
may not use, and where a range reaches the end of the address space, the check names its beginning.
What is let through, the kernel reads as user code would. And the check may be made by a loop over
the pages, with addresses that are words: the loop ends, and its answer is that of the check. -/
theorem check_agrees (m : Machine) (s : Nat) (va : VirtAddr) (len : Nat) (absent : UInt8) :
    (m.checkUser s va len .none = .ok () ↔ ∃ bytes, m.userRead s va len absent = .ok bytes) ∧
    (∀ data : List UInt8, data.length = len →
      (m.checkUser s va len .writable = .ok () ↔ (m.userWrite s va data).1 = .ok ())) ∧
    (va.toNat + len < addressCount →
      (∀ bad, m.checkUser s va len .none = .error bad → m.FirstRefused s false va len bad ∧
        ∃ err, m.userRead s va len absent = .error ⟨bad, err⟩) ∧
      ∀ data : List UInt8, data.length = len → ∀ bad,
        m.checkUser s va len .writable = .error bad → m.FirstRefused s true va len bad ∧
          ∃ err, (m.userWrite s va data).1 = .error ⟨bad, err⟩) ∧
    (len ≠ 0 → addressCount ≤ va.toNat + len →
      ∀ perm, m.checkUser s va len perm = .error va) ∧
    (m.checkUser s va len .none = .ok () → ∃ bytes, m.copyIn s va len absent = .ok bytes ∧
      m.userRead s va len absent = .ok bytes) ∧
    ∀ word : UInt32, word.toNat = len →
      ∀ perm, m.checkByPages s va word perm = some (m.checkUser s va len perm) := by
  have hread := map_userRead m s va len absent
  have hiff : m.checkUser s va len .none = .ok () ↔
      ∃ bytes, m.userRead s va len absent = .ok bytes := by
    refine (checkUser_ok_iff false).trans ?_
    rw [← hread]
    cases m.userRead s va len absent with
    | error fault => exact ⟨nofun, nofun⟩
    | ok bytes => exact ⟨fun _ => ⟨bytes, rfl⟩, fun _ => rfl⟩
  -- the fault that makes the check fail
  have hfault : ∀ write bad, va.toNat + len < addressCount →
      m.checkUser s va len (extraPerm write) = .error bad →
      ∃ fault, m.userCheck s write va len = .error fault ∧ fault.va = bad := by
    intro write bad hlt hbad
    rw [checkUser_eq write hlt] at hbad
    cases hcheck : m.userCheck s write va len with
    | ok u =>
      rw [hcheck] at hbad
      cases hbad
    | error fault =>
      rw [hcheck] at hbad
      exact ⟨fault, rfl, Except.error.inj hbad⟩
  refine ⟨hiff, ?_, fun hlt => ⟨?_, ?_⟩, ?_, ?_, ?_⟩
  · rintro data rfl
    rw [fst_userWrite]
    exact checkUser_ok_iff true
  · intro bad hbad
    obtain ⟨fault, hcheck, rfl⟩ := hfault false bad hlt hbad
    refine ⟨firstRefused_of_userCheck hcheck, fault.err, ?_⟩
    rw [← hread] at hcheck
    cases hbytes : m.userRead s va len absent with
    | ok bytes =>
      rw [hbytes] at hcheck
      cases hcheck
    | error fault' =>
      rw [hbytes] at hcheck
      cases hcheck
      rfl
  · rintro data rfl bad hbad
    obtain ⟨fault, hcheck, rfl⟩ := hfault true bad hlt hbad
    exact ⟨firstRefused_of_userCheck hcheck, fault.err, (fst_userWrite ..).trans hcheck⟩
  · intro hlen hwraps perm
    exact checkUser_of_wraps hlen hwraps
  · intro hok
    obtain ⟨bytes, hbytes⟩ := hiff.1 hok
    refine ⟨bytes, ?_, hbytes⟩
    by_cases hlt : va.toNat + len < addressCount
    · exact copyIn_eq hlt hbytes
    · by_cases hlen : len = 0
      · subst hlen
        cases hbytes
        rfl
      · rw [checkUser_of_wraps hlen (Nat.not_lt.1 hlt)] at hok
        cases hok
  · rintro word rfl perm
    exact checkByPages_eq m s va word perm

/-- A range that begins in the last bytes of a page which is only read: a read is refused at the
page behind it, a write at once, and a range at the end of the address space at its beginning. -/
theorem check_agrees_boundary : ∃ m : Machine,
    VirtAddr.toNat ⟨0x800FFA⟩ + 16 < addressCount ∧ (List.replicate 16 (7 : UInt8)).length = 16 ∧
    m.checkUser 1 ⟨0x800FFA⟩ 16 .none = .error ⟨0x801000⟩ ∧
    m.FirstRefused 1 false ⟨0x800FFA⟩ 16 ⟨0x801000⟩ ∧
    (∃ err, m.userRead 1 ⟨0x800FFA⟩ 16 0 = .error ⟨⟨0x801000⟩, err⟩) ∧
    m.checkUser 1 ⟨0x800FFA⟩ 16 .writable = .error ⟨0x800FFA⟩ ∧
    m.FirstRefused 1 true ⟨0x800FFA⟩ 16 ⟨0x800FFA⟩ ∧
    (∃ err, (m.userWrite 1 ⟨0x800FFA⟩ (List.replicate 16 7)).1 = .error ⟨⟨0x800FFA⟩, err⟩) ∧
    (m.checkUser 1 ⟨0x800FFA⟩ 16 .writable = .ok () ↔
      (m.userWrite 1 ⟨0x800FFA⟩ (List.replicate 16 7)).1 = .ok ()) ∧
    addressCount ≤ VirtAddr.toNat ⟨0xFFFFFFF0⟩ + 16 ∧
    m.checkUser 1 ⟨0xFFFFFFF0⟩ 16 .none = .error ⟨0xFFFFFFF0⟩ ∧
    m.checkUser 1 ⟨0x800FFA⟩ 6 .none = .ok () ∧
    (∃ bytes, m.copyIn 1 ⟨0x800FFA⟩ 6 9 = .ok bytes ∧ m.userRead 1 ⟨0x800FFA⟩ 6 9 = .ok bytes) ∧
    m.checkByPages 1 ⟨0x800FFA⟩ 16 .none = some (.error ⟨0x801000⟩) := by
  obtain ⟨m, hm⟩ : ∃ m, ((ofSize 1 16).createSpace.toOption.map fun r =>
      (r.2.mapZeroed r.1 ⟨0x800000⟩ .userRead).2) = some m := ⟨_, rfl⟩
  have hread : m.checkUser 1 ⟨0x800FFA⟩ 16 .none = .error ⟨0x801000⟩ := by
    obtain rfl := Option.some.inj hm
    decide +kernel
  have hwrite : m.checkUser 1 ⟨0x800FFA⟩ 16 .writable = .error ⟨0x800FFA⟩ := by
    obtain rfl := Option.some.inj hm
    decide +kernel
  have hinside : m.checkUser 1 ⟨0x800FFA⟩ 6 .none = .ok () := by
    obtain rfl := Option.some.inj hm
    decide +kernel
  have hlt : VirtAddr.toNat ⟨0x800FFA⟩ + 16 < addressCount := by decide
  have hwraps : addressCount ≤ VirtAddr.toNat ⟨0xFFFFFFF0⟩ + 16 := by decide
  have hlen : (List.replicate 16 (7 : UInt8)).length = 16 := rfl
  obtain ⟨-, hiff, hrefused, -, -, hloop⟩ := check_agrees m 1 ⟨0x800FFA⟩ 16 0
  obtain ⟨-, -, -, hend, -⟩ := check_agrees m 1 ⟨0xFFFFFFF0⟩ 16 0
  obtain ⟨-, -, -, -, hcopy, -⟩ := check_agrees m 1 ⟨0x800FFA⟩ 6 9
  obtain ⟨hfirst, hfault⟩ := (hrefused hlt).1 _ hread
  obtain ⟨hfirst', hfault'⟩ := (hrefused hlt).2 _ hlen _ hwrite
  exact ⟨m, hlt, hlen, hread, hfirst, hfault, hwrite, hfirst', hfault', hiff _ hlen, hwraps,
    hend (by decide) hwraps _, hinside, hcopy hinside, (hloop 16 rfl _).trans (congrArg some hread)⟩

end Machine

end Exokernel
