/-
The memory of a program that was loaded.

* `Segment.Covers`, `Segment.Holds`: the pages that a segment takes, and the addresses of its bytes;
* `permOf?`, `byteOf`: what segments together make of a page and of a byte. Segments that share a
  page share what either may do there, and none of their bytes;
* `Machine.Furnished`: **an address space shows certain pages**, with certain permissions and bytes,
  each of them on a frame of its own;
* `Furnished.loadPages`, `Furnished.copyOut`: how loading goes on, page by page and then byte by
  byte;
* `Furnished.loadSegments`, `Furnished.load`: what a program makes of an address space.
-/
import Exokernel.Machine.Loader
import Exokernel.Proofs.Memory.Doubles
import Exokernel.Proofs.Memory.Views

namespace Exokernel

open Layout

/-! ### What a segment takes -/

namespace Segment

variable {g : Segment} {page a : Nat}

/-- A page of a segment, from the page boundary below its beginning to the one above its end. -/
def Covers (g : Segment) (page : Nat) : Prop :=
  roundDown g.va.toNat ≤ page * pageSize ∧ page * pageSize < roundUp g.stop

instance (g : Segment) (page : Nat) : Decidable (g.Covers page) :=
  inferInstanceAs (Decidable (_ ∧ _))

/-- An address of a segment. -/
def Holds (g : Segment) (a : Nat) : Prop := g.va.toNat ≤ a ∧ a < g.stop

instance (g : Segment) (a : Nat) : Decidable (g.Holds a) := inferInstanceAs (Decidable (_ ∧ _))

/-- The byte that a segment has at an address: its data, and zeros behind. -/
def byteAt (g : Segment) (a : Nat) : UInt8 := g.data.getD (a - g.va.toNat) 0

/-- **The pages that are loaded** are those that the segment covers. -/
lemma mem_pages_iff : page ∈ g.pages ↔ g.Covers page := by
  have hps : pageSize = 4096 := rfl
  have hup : roundUp g.stop = roundUp g.stop / 4096 * 4096 := by
    rw [roundUp]
    split
    · simp only [roundDown, hps]
      omega
    · rfl
  rw [pages, List.mem_range'_1, Covers, hup]
  simp only [VirtAddr.page, roundDown, hps]
  omega

/-- The page of an address of the segment is one of its pages. -/
lemma covers_of_holds (hfits : g.fits = true) (h : g.Holds a) : g.Covers (a / pageSize) := by
  have hps : pageSize = 4096 := rfl
  have hstack : stackPage = 0xEEBFD000 := rfl
  have hcount : addressCount = 4294967296 := rfl
  obtain ⟨hlow, hhigh⟩ := h
  rw [fits, Bool.and_eq_true, decide_eq_true_eq, decide_eq_true_eq] at hfits
  rw [Covers, roundUp, if_pos (by omega)]
  simp only [roundDown, hps]
  omega

/-- A segment that fits ends below the page of the stack. -/
lemma lt_stackPage_of_covers (hfits : g.fits = true) (h : g.Covers page) :
    page * pageSize < stackPage := by
  have hps : pageSize = 4096 := rfl
  have hstack : stackPage = 0xEEBFD000 := rfl
  have hcount : addressCount = 4294967296 := rfl
  rw [fits, Bool.and_eq_true, decide_eq_true_eq, decide_eq_true_eq] at hfits
  have hhigh := h.2
  rw [roundUp, if_pos (by omega)] at hhigh
  simp only [roundDown, hps] at hhigh ⊢
  omega

end Segment

/-! ### Permissions that are joined -/

namespace Perm

variable {p q r : Perm}

lemma or_assoc (p q r : Perm) : p ||| q ||| r = p ||| (q ||| r) :=
  congrArg Perm.mk (UInt32.or_assoc p.bits q.bits r.bits)

/-- Permissions that are there already add nothing. -/
lemma or_of_contains (h : p.contains q = true) : p ||| q = p := by
  rw [contains_iff_forall] at h
  refine congrArg Perm.mk (UInt32.toBitVec_inj.1 (BitVec.eq_of_getLsbD_eq fun i _ => ?_))
  have hor := getLsbD_or p q i
  rw [bits_or] at hor
  rw [hor, Bool.or_eq_left_iff_imp]
  exact h i

end Perm

/-! ### What segments together make of a page and of a byte -/

section Segments

variable {segments : List Segment} {g : Segment} {page a : Nat}

/-- **What a page allows**: it is there if a segment covers it, to be read, and to be written if one
of the segments that cover it is written. -/
def permOf? (segments : List Segment) (page : Nat) : Option Perm :=
  if ∃ g ∈ segments, g.Covers page then
    some (if ∃ g ∈ segments, g.Covers page ∧ g.writable = true then .userWrite else .userRead)
  else none

/-- **What is at an address**: the byte of the segment that holds it, and zero if none does. -/
def byteOf (segments : List Segment) (a : Nat) : UInt8 :=
  match segments.find? fun g => g.Holds a with
  | none => 0
  | some g => g.byteAt a

/-- The pages of a program: those of its segments, and the page `q` of its stack. -/
lemma isSome_update_permOf? {q : Nat} :
    (Function.update (permOf? segments) q (some .userWrite) page).isSome = true ↔
      page = q ∨ ∃ g ∈ segments, g.Covers page := by
  by_cases hstack : page = q
  · rw [hstack, Function.update_self]
    exact ⟨fun _ => .inl rfl, fun _ => rfl⟩
  · rw [Function.update_of_ne hstack, permOf?, or_iff_right hstack]
    split
    · next hc => exact ⟨fun _ => hc, fun _ => rfl⟩
    · next hc => exact ⟨nofun, fun hc' => absurd hc' hc⟩

/-- What they allow. -/
lemma eq_of_update_permOf? {q : Nat} {perm : Perm}
    (h : Function.update (permOf? segments) q (some .userWrite) page = some perm) :
    perm = if page = q ∨ ∃ g ∈ segments, g.Covers page ∧ g.writable = true
      then .userWrite else .userRead := by
  by_cases hstack : page = q
  · rw [if_pos (.inl hstack)]
    rw [hstack, Function.update_self] at h
    exact (Option.some.inj h).symm
  · rw [Function.update_of_ne hstack, permOf?] at h
    simp only [or_iff_right hstack]
    split at h
    · exact (Option.some.inj h).symm
    · cases h

/-- What a page allows that is to allow `perm` as well, if it is there. -/
def joined : Option Perm → Perm → Perm
  | none, perm => perm
  | some held, perm => held ||| perm

/-- Permissions that were joined already add nothing. -/
lemma joined_joined (held : Option Perm) (perm : Perm) :
    joined (some (joined held perm)) perm = joined held perm := by
  have hself : perm ||| perm = perm := congrArg Perm.mk UInt32.or_self
  cases held with
  | none => exact hself
  | some held =>
    change held ||| perm ||| perm = held ||| perm
    rw [Perm.or_assoc, hself]

/-- One segment more joins its permissions to those of the pages that it covers. -/
lemma permOf?_concat (segments : List Segment) (g : Segment) (page : Nat) :
    permOf? (segments ++ [g]) page =
      if g.Covers page then some (joined (permOf? segments page) g.perm)
      else permOf? segments page := by
  have hmem : ∀ P : Segment → Prop,
      (∃ x ∈ segments ++ [g], P x) ↔ (∃ x ∈ segments, P x) ∨ P g := fun P => by
    simp only [List.mem_append, List.mem_singleton, or_and_right, exists_or, exists_eq_left]
  rw [permOf?, permOf?]
  simp only [hmem]
  by_cases hcovers : g.Covers page
  · rw [if_pos (.inr hcovers), if_pos hcovers, Segment.perm]
    congr 1
    by_cases hold : ∃ x ∈ segments, x.Covers page
    · rw [if_pos hold, joined]
      by_cases hwritten : ∃ x ∈ segments, x.Covers page ∧ x.writable = true
      · rw [if_pos (.inl hwritten), if_pos hwritten]
        cases g.writable <;> rfl
      · rw [if_neg hwritten]
        cases hg : g.writable with
        | true => rw [if_pos (.inr ⟨hcovers, rfl⟩)]; rfl
        | false => rw [if_neg fun hc => hc.elim hwritten fun hc => Bool.noConfusion hc.2]; rfl
    · have hnever : ¬ ∃ x ∈ segments, x.Covers page ∧ x.writable = true := by
        rintro ⟨x, hx, hc, -⟩
        exact hold ⟨x, hx, hc⟩
      rw [if_neg hold, joined]
      cases hg : g.writable with
      | true => rw [if_pos (.inr ⟨hcovers, rfl⟩)]; rfl
      | false => rw [if_neg fun hc => hc.elim hnever fun hc => Bool.noConfusion hc.2]; rfl
  · have hcovered : ((∃ x ∈ segments, x.Covers page) ∨ g.Covers page) ↔
        ∃ x ∈ segments, x.Covers page := or_iff_left hcovers
    have hwritten : ((∃ x ∈ segments, x.Covers page ∧ x.writable = true) ∨
        g.Covers page ∧ g.writable = true) ↔
          ∃ x ∈ segments, x.Covers page ∧ x.writable = true := or_iff_left fun hc => hcovers hc.1
    rw [if_neg hcovers]
    simp only [hcovered, hwritten]

/-- One segment more has its bytes, if no other holds them. -/
lemma byteOf_concat (hnone : g.Holds a → ∀ x ∈ segments, ¬ x.Holds a) :
    byteOf (segments ++ [g]) a = if g.Holds a then g.byteAt a else byteOf segments a := by
  rw [byteOf, byteOf, List.find?_append]
  by_cases hholds : g.Holds a
  · have hfind : segments.find? (fun g => g.Holds a) = none :=
      List.find?_eq_none.2 fun x hx => by simpa using hnone hholds x hx
    rw [if_pos hholds, hfind, Option.none_or, List.find?_cons_of_pos (by simpa using hholds)]
  · rw [if_neg hholds, List.find?_cons_of_neg (by simpa using hholds), List.find?_nil,
      Option.or_none]

/-- Where no page is, no byte is either. -/
lemma byteOf_eq_zero (h : ∀ g ∈ segments, ¬ g.Holds a) : byteOf segments a = 0 := by
  have hfind : segments.find? (fun g => g.Holds a) = none :=
    List.find?_eq_none.2 fun x hx => by simpa using h x hx
  rw [byteOf, hfind]

end Segments

/-! ### Pages that an address space shows -/

namespace Machine

variable {m m' : Machine} {s page : Nat} {va : VirtAddr} {perm : Perm} {e : Mapping}
  {kept : List Nat}
  {P : Nat → Option Perm} {B : Nat → UInt8} {done segments : List Segment} {g : Segment}

/-- A page that is mapped is put. -/
lemma Puts.of_map {frame : Nat} (hm : m.map s frame va perm = .ok m') :
    m.Puts s va.page ⟨frame, perm ||| .present⟩ m' :=
  ⟨mapping?_map hm, fun n _ => contents?_map hm n⟩

/-- **An address space shows the pages that `P` allows something on**, with these permissions and
the bytes of `B`, each on a frame that is shown nowhere else. -/
structure Furnished (m : Machine) (s : Nat) (P : Nat → Option Perm) (B : Nat → UInt8) : Prop where
  accounted : m.Accounted m.lost []
  perms : ∀ page, (m.mapping? s page).map (·.perm) = P page
  sole : ∀ page e, m.mapping? s page = some e → m.SoleAt e.frame s page
  bytes : ∀ page e, m.mapping? s page = some e →
    ∀ i < pageSize, m.frames.byte? e.frame i = some (B (page * pageSize + i))

namespace Furnished

lemma congr {P' : Nat → Option Perm} {B' : Nat → UInt8} (h : m.Furnished s P B)
    (hP : ∀ page, P page = P' page) (hB : ∀ a, B a = B' a) : m.Furnished s P' B' := by
  obtain rfl : P = P' := funext hP
  obtain rfl : B = B' := funext hB
  exact h

/-- Nothing matters but frames, address spaces and windows. -/
lemma of_same (h : m.Furnished s P B) (hframes : m'.frames = m.frames)
    (hspaces : m'.spaces = m.spaces) (hwindows : m'.windows = m.windows) : m'.Furnished s P B := by
  obtain ⟨frames, spaces, windows, _, _, _, _⟩ := m
  obtain ⟨frames', spaces', windows', _, _, _, _⟩ := m'
  obtain rfl : frames' = frames := hframes
  obtain rfl : spaces' = spaces := hspaces
  obtain rfl : windows' = windows := hwindows
  exact ⟨h.accounted.congr rfl rfl rfl, h.perms, h.sole, h.bytes⟩

/-- An address space that shows nothing. -/
lemma empty (hacc : m.Accounted kept []) (hnone : ∀ page, m.mapping? s page = none) :
    m.Furnished s (fun _ => none) B where
  accounted := hacc.settled
  perms page := by rw [hnone]; rfl
  sole page e he := by
    rw [hnone] at he
    cases he
  bytes page e he := by
    rw [hnone] at he
    cases he

/-- **One page more**, or one that allows something else, on a frame that is shown nowhere else. -/
lemma puts (h : m.Furnished s P B) (hput : m.Puts s page e m') (hacc : m'.Accounted kept [])
    (hwindows : m'.windows = m.windows) (hsole : m'.SoleAt e.frame s page)
    (hbytes : ∀ i < pageSize, m'.frames.byte? e.frame i = some (B (page * pageSize + i))) :
    m'.Furnished s (Function.update P page (some e.perm)) B := by
  have hself : m'.mapping? s page = some e := (hput.mapping s page).trans (if_pos ⟨rfl, rfl⟩)
  have hother : ∀ {q}, q ≠ page → m'.mapping? s q = m.mapping? s q := fun hq =>
    (hput.mapping s _).trans (if_neg fun hc => hq hc.2.symm)
  refine ⟨hacc.settled, fun q => ?_, fun q e' he' => ?_, fun q e' he' i hi => ?_⟩
  · by_cases hq : q = page
    · rw [hq, hself, Function.update_self]
      rfl
    · rw [hother hq, h.perms, Function.update_of_ne hq]
  · by_cases hq : q = page
    · subst hq
      rw [hself] at he'
      cases he'
      exact hsole
    · intro t va e₂ he₂ hframe
      by_cases hhere : t = s ∧ va.page = page
      · -- the page that was put would show the frame of another page
        exfalso
        obtain ⟨rfl, rfl⟩ := hhere
        have hlt : va.toNat < userTop := by
          have hbelow := hacc.below _ _ _ hself
          have hplace := place_lt_userTop hbelow va.offset_lt
          rwa [va.page_mul_add_offset] at hplace
        rw [lookup?_of_lt hlt, hself] at he₂
        cases he₂
        exact hq (hsole.of_mapping? hacc he' hframe.symm).2
      · rw [(KeepsBut.of_puts hput h.accounted hwindows).lookup t va hhere] at he₂
        rw [hother hq] at he'
        exact h.sole q e' he' t va e₂ he₂ hframe
  · by_cases hq : q = page
    · subst hq
      rw [hself] at he'
      cases he'
      exact hbytes i hi
    · rw [hother hq] at he'
      rw [FramePool.byte?_eq_of_contents? (hput.contents _ (h.accounted.isSome_of_mapping? he'))]
      exact h.bytes q e' he' i hi

/-- **A fresh page** of zeros, where there was none. -/
lemma mapZeroed (h : m.Furnished s P B) (hperm : perm.isRequestable = true)
    (hzero : ∀ i < pageSize, B (va.page * pageSize + i) = 0)
    (hok : (m.mapZeroed s va perm).1 = .ok ()) :
    (m.mapZeroed s va perm).2.Furnished s (Function.update P va.page (some perm)) B := by
  rcases mapZeroed_cases h.accounted s va perm with ⟨-, n, hfresh, hput⟩ | ⟨⟨e, herror⟩, -⟩
  · rw [Perm.or_present hperm] at hput
    have hwindows : (m.mapZeroed s va perm).2.windows = m.windows := sameShape_mapZeroed.windows
    refine h.puts hput h.accounted.mapZeroed hwindows
      (hput.soleAt h.accounted hwindows hfresh) fun i hi => ?_
    have hself := (hput.mapping s va.page).trans (if_pos ⟨rfl, rfl⟩)
    rw [byte?_mapZeroed h.accounted hok hself hi, hzero i hi]
  · rw [hok] at herror
    cases herror

/-! ### Loading page by page -/

/-- **A page that is loaded** is there, and allows what it allowed and what it is to allow. -/
lemma loadPage (h : m.Furnished s P B) (hperm : perm.isRequestable = true)
    (hbelow : page * pageSize < userTop)
    (hzero : P page = none → ∀ i < pageSize, B (page * pageSize + i) = 0)
    (hok : (m.loadPage s perm page).1 = .ok ()) :
    (m.loadPage s perm page).2.Furnished s
      (Function.update P page (some (joined (P page) perm))) B := by
  have hpage := VirtAddr.page_ofNat_mul hbelow
  rw [Machine.loadPage, lookup?_ofNat_mul hbelow] at hok ⊢
  cases he : m.mapping? s page with
  | none =>
    have hP : P page = none := by rw [← h.perms, he]; rfl
    rw [he] at hok
    rw [hP, joined]
    rw [← hpage] at hzero
    have hfresh := h.mapZeroed hperm (hzero (hpage.symm ▸ hP)) hok
    rwa [hpage] at hfresh
  | some e =>
    have hP : P page = some e.perm := by rw [← h.perms, he]; rfl
    rw [he] at hok
    rw [hP, joined]
    dsimp only at hok ⊢
    split at hok
    · next hcontains =>
      -- it allows enough already
      have hsame : P = Function.update P page (some (e.perm ||| perm)) := by
        rw [Perm.or_of_contains hcontains, ← hP, Function.update_eq_self]
      rw [if_pos hcontains, ← hsame]
      exact h
    · next hcontains =>
      rw [if_neg hcontains]
      cases hm : m.map s e.frame (.ofNat (page * pageSize)) (e.perm ||| perm) with
      | error e' =>
        rw [hm] at hok
        cases hok
      | ok m' =>
        have hput := Puts.of_map hm
        rw [hpage, Perm.or_assoc, Perm.or_present hperm] at hput
        have hacc := (h.accounted.map (h.accounted.isSome_of_mapping? he)
          (h.accounted.notMem_tableFrames he) hm).1
        refine h.puts hput hacc (sameShape_map hm).windows (fun t va e₂ he₂ hframe => ?_)
          fun i hi => ?_
        · by_cases hhere : t = s ∧ va.page = page
          · exact hhere
          · rw [(KeepsBut.of_puts hput h.accounted (sameShape_map hm).windows).lookup t va hhere]
              at he₂
            exact h.sole page e he t va e₂ he₂ hframe
        · rw [FramePool.byte?_eq_of_contents? (contents?_map hm _)]
          exact h.bytes page e he i hi

/-- **Pages that are loaded** one after the other. -/
lemma loadPages (hperm : perm.isRequestable = true) (pages : List Nat) (h : m.Furnished s P B)
    (hbelow : ∀ q ∈ pages, q * pageSize < userTop)
    (hzero : ∀ q ∈ pages, P q = none → ∀ i < pageSize, B (q * pageSize + i) = 0)
    (hok : (Machine.loadPages s perm pages m).1 = .ok ()) :
    (Machine.loadPages s perm pages m).2.Furnished s
      (fun q => if q ∈ pages then some (joined (P q) perm) else P q) B := by
  induction pages generalizing m P with
  | nil => exact h.congr (fun q => (if_neg List.not_mem_nil).symm) fun _ => rfl
  | cons page pages ih =>
    rw [Machine.loadPages] at hok ⊢
    have hstep := h.loadPage hperm (hbelow page List.mem_cons_self) (hzero page List.mem_cons_self)
    cases hr : m.loadPage s perm page with
    | mk result m₁ =>
      rw [hr] at hok hstep
      cases result with
      | error e => cases hok
      | ok u =>
        dsimp only at hok hstep ⊢
        refine (ih (hstep rfl) (fun q hq => hbelow q (List.mem_cons_of_mem _ hq))
          (fun q hq hnone => ?_) hok).congr (fun q => ?_) fun _ => rfl
        · by_cases hsame : q = page
          · rw [hsame, Function.update_self] at hnone
            cases hnone
          · rw [Function.update_of_ne hsame] at hnone
            exact hzero q (List.mem_cons_of_mem _ hq) hnone
        · by_cases hsame : q = page
          · subst hsame
            rw [Function.update_self, joined_joined, ite_self, if_pos List.mem_cons_self]
          · rw [Function.update_of_ne hsame]
            simp only [List.mem_cons, hsame, false_or]

/-! ### Bytes that are copied -/

/-- **Bytes that are copied** are there afterwards, and all others are what they were. -/
lemma copyOut (h : m.Furnished s P B) (va : VirtAddr) (data : List UInt8)
    (hend : va.toNat + data.length ≤ userTop)
    (hok : (m.copyOut s va data).1 = .ok ()) :
    (m.copyOut s va data).2.Furnished s P fun a =>
      if va.toNat ≤ a ∧ a < va.toNat + data.length then data.getD (a - va.toNat) 0 else B a := by
  obtain ⟨hcont, htotal⟩ := contiguous_pieces va.toNat data.length
  have hall : writtenBytes (m.mappedFrame s va) (pieces va.toNat data.length) = data.length :=
    (writtenBytes_of_ok hok).trans htotal
  refine ⟨(h.accounted.writePieces _ data).settled, h.perms, h.sole, fun page e he i hi => ?_⟩
  have he' : m.mapping? s page = some e := he
  -- a piece goes to the frame of this page exactly if it lies in it
  have hframe : ∀ p ∈ pieces va.toNat data.length, ∀ n, m.mappedFrame s va p.start = .ok n →
      (p.page = page ↔ n = e.frame) := by
    intro p hp n hn
    have hlt : p.start < userTop := Nat.lt_of_lt_of_le (start_lt_of_mem_pieces hp).2 hend
    obtain ⟨e₂, he₂, rfl⟩ := (mappedFrame_ok_iff hlt).1 hn
    constructor
    · rintro rfl
      rw [Piece.page, he₂] at he'
      cases he'
      rfl
    · exact fun hsame => ((h.sole page e he').of_mapping? h.accounted he₂ hsame).2
  have hbyte := byte?_writePieces hcont (Nat.le_of_eq htotal) (h.accounted.isSome_of_mapping? he')
    hframe hi
  rw [hall] at hbyte
  refine hbyte.trans ?_
  split
  · next hthere =>
    have hlt : page * pageSize + i - va.toNat < data.length := by omega
    rw [List.getD_eq_getElem?_getD, List.getElem?_eq_getElem hlt, Option.getD_some]
  · exact h.bytes page e he' i hi

/-! ### Segments -/

/-- **A segment that is loaded** has its pages and its bytes, as have those before it. -/
lemma loadSegment (h : m.Furnished s (permOf? done) (byteOf done)) (hfits : g.fits = true)
    (hfit : ∀ x ∈ done, x.fits = true) (hapart : ∀ x ∈ done, ∀ a, ¬ (x.Holds a ∧ g.Holds a))
    (hok : (m.loadSegment s g).1 = .ok ()) :
    (m.loadSegment s g).2.Furnished s (permOf? (done ++ [g])) (byteOf (done ++ [g])) := by
  have hstack : stackPage ≤ userTop := by decide
  have hfit' := hfits
  rw [Segment.fits, Bool.and_eq_true, decide_eq_true_eq, decide_eq_true_eq, Segment.stop] at hfit'
  rw [Machine.loadSegment] at hok ⊢
  have hpages := loadPages g.isRequestable_perm g.pages h
    (fun q hq => Nat.lt_of_lt_of_le
      (Segment.lt_stackPage_of_covers hfits (Segment.mem_pages_iff.1 hq)) hstack)
    fun q _ hnone i hi => byteOf_eq_zero fun x hx hholds => by
      have hcovers := Segment.covers_of_holds (hfit x hx) hholds
      rw [page_place hi] at hcovers
      rw [permOf?, if_pos ⟨x, hx, hcovers⟩] at hnone
      cases hnone
  cases hr : Machine.loadPages s g.perm g.pages m with
  | mk result m₁ =>
    rw [hr] at hok hpages
    cases result with
    | error e => cases hok
    | ok u =>
      dsimp only at hok hpages ⊢
      have hcopied := (hpages rfl).copyOut g.va g.data (by omega)
      cases hc : m₁.copyOut s g.va g.data with
      | mk result m₂ =>
        rw [hc] at hok hcopied
        cases result with
        | error e => cases hok
        | ok u =>
          refine (hcopied rfl).congr (fun q => ?_) fun a => ?_
          · rw [permOf?_concat]
            simp only [Segment.mem_pages_iff]
          · rw [byteOf_concat fun hholds x hx hholds' => hapart x hx a ⟨hholds', hholds⟩]
            by_cases hholds : g.Holds a
            · rw [if_pos hholds, Segment.byteAt]
              split
              · rfl
              · next hout =>
                -- behind the data there were zeros, and nobody else has written here
                have hlow := hholds.1
                rw [byteOf_eq_zero fun x hx hholds' => hapart x hx a ⟨hholds', hholds⟩,
                  List.getD_eq_getElem?_getD,
                  List.getElem?_eq_none (by omega), Option.getD_none]
            · rw [if_neg hholds, if_neg]
              rintro ⟨hlow, hhigh⟩
              refine hholds ⟨hlow, ?_⟩
              rw [Segment.stop]
              omega

/-- **Segments that are loaded** one after the other. -/
lemma loadSegments (segments : List Segment) (h : m.Furnished s (permOf? done) (byteOf done))
    (hfit : ∀ x ∈ done ++ segments, x.fits = true)
    (hapart : (done ++ segments).Pairwise fun x y => ∀ a, ¬ (x.Holds a ∧ y.Holds a))
    (hok : (Machine.loadSegments s segments m).1 = .ok ()) :
    (Machine.loadSegments s segments m).2.Furnished s (permOf? (done ++ segments))
      (byteOf (done ++ segments)) := by
  induction segments generalizing m done with
  | nil =>
    rw [List.append_nil]
    exact h
  | cons g segments ih =>
    rw [Machine.loadSegments] at hok ⊢
    obtain ⟨-, -, hcross⟩ := List.pairwise_append.1 hapart
    have hstep := h.loadSegment (hfit g (List.mem_append_right _ List.mem_cons_self))
      (fun x hx => hfit x (List.mem_append_left _ hx)) fun x hx => hcross x hx g List.mem_cons_self
    rw [List.append_cons] at hfit hapart ⊢
    cases hr : m.loadSegment s g with
    | mk result m₁ =>
      rw [hr] at hok hstep
      cases result with
      | error e => cases hok
      | ok u => exact ih (hstep rfl) hfit hapart hok

/-! ### Programs -/

/-- **A program that is loaded** into an empty address space: its segments, and the page of its
stack. -/
lemma load {image : Image} (h : m.Furnished s (fun _ => none) fun _ => 0)
    (hfit : ∀ x ∈ image.segments, x.fits = true)
    (hapart : image.segments.Pairwise fun x y => ∀ a, ¬ (x.Holds a ∧ y.Holds a))
    (hok : (m.load s image).1 = .ok ()) :
    (m.load s image).2.Furnished s
      (Function.update (permOf? image.segments) (stackPage / pageSize) (some .userWrite))
      (byteOf image.segments) := by
  have hpage : (VirtAddr.ofNat stackPage).page = stackPage / pageSize := by decide
  have hstack : stackPage / pageSize * pageSize = stackPage := by decide
  have hstart : m.Furnished s (permOf? []) (byteOf []) :=
    h.congr (fun _ => rfl) fun _ => rfl
  have hsegments := loadSegments image.segments hstart hfit hapart
  rw [List.nil_append] at hsegments
  rw [Machine.load] at hok ⊢
  cases hr : Machine.loadSegments s image.segments m with
  | mk result m₁ =>
    rw [hr] at hok hsegments
    cases result with
    | error e => cases hok
    | ok u =>
      dsimp only at hok hsegments ⊢
      have hzero : ∀ i < pageSize,
          byteOf image.segments ((VirtAddr.ofNat stackPage).page * pageSize + i) = 0 :=
        fun i hi => byteOf_eq_zero fun x hx hholds => by
          have hlow := Segment.lt_stackPage_of_covers (hfit x hx)
            (Segment.covers_of_holds (hfit x hx) hholds)
          rw [page_place hi, hpage, hstack] at hlow
          exact Nat.lt_irrefl _ hlow
      have hfresh : (m₁.mapZeroed s (.ofNat stackPage) .userWrite).1 = .ok () → _ :=
        (hsegments rfl).mapZeroed rfl hzero
      rw [hpage] at hfresh
      cases hz : m₁.mapZeroed s (.ofNat stackPage) .userWrite with
      | mk result m₂ =>
        rw [hz] at hok hfresh
        cases result with
        | error e => cases hok
        | ok u => exact hfresh rfl

end Furnished

end Machine

end Exokernel
