/-
What is left in frames, and who sees it.

* `Machine.Like`: machines that are the same but for the contents of some frames. Every operation of
  the machine keeps them so, and comes to the same on both;
* `Machine.Shows`: the frames that somebody can look at;
* `Machine.Alike`: machines that agree in what they show. **A frame is filled with zeros before it
  is shown**, so what it held when it was free makes no difference (`Alike.mapZeroed`,
  `Alike.load`);
* `Alike.userRead_eq`: user code reads the same on both.
-/
import Exokernel.Proofs.Memory.Likeness
import Exokernel.Proofs.Memory.Work

namespace Exokernel

open Layout

/-! ### Machines -/

namespace Machine

variable {P Q : Nat → Prop} {m m' : Machine} {s n frame : Nat} {va : VirtAddr} {perm : Perm}
  {a : AddressSpace}

/-- Machines that are the same but for the contents of some frames. -/
inductive Like (P : Nat → Prop) (m : Machine) : Machine → Prop where
  | mk {pool : FramePool} (h : m.frames.Like P pool) : Like P m { m with frames := pool }

namespace Like

lemma mono (h : Like P m m') (hQ : ∀ n, Q n → P n) : Like Q m m' := by
  obtain ⟨h⟩ := h
  exact ⟨h.mono hQ⟩

lemma space?_eq (h : Like P m m') (s : Nat) : m'.space? s = m.space? s := by
  obtain ⟨h⟩ := h
  rfl

lemma userPages_eq (h : Like P m m') (s : Nat) : m'.userPages s = m.userPages s := by
  rw [userPages, userPages, h.space?_eq]

lemma lookup?_eq (h : Like P m m') (s : Nat) (va : VirtAddr) :
    m'.lookup? s va = m.lookup? s va := by
  obtain ⟨h⟩ := h
  rfl

lemma setSpace (h : Like P m m') (s : Nat) (a : AddressSpace) :
    Like P (m.setSpace s a) (m'.setSpace s a) := by
  obtain ⟨h⟩ := h
  exact ⟨h⟩

lemma retain (h : Like P m m') (n : Nat) : Like P (m.retain n) (m'.retain n) := by
  obtain ⟨h⟩ := h
  exact ⟨h.retain n⟩

lemma release (h : Like P m m') (n : Nat) : Like P (m.release n) (m'.release n) := by
  obtain ⟨h⟩ := h
  exact ⟨h.release n⟩

lemma discard (h : Like P m m') (n : Nat) : Like P (m.discard n) (m'.discard n) := by
  obtain ⟨h⟩ := h
  exact ⟨h.discard n⟩

lemma allocOwned (h : Like P m m') : Agree (Beside (Like P)) m.allocOwned m'.allocOwned := by
  obtain ⟨h⟩ := h
  rw [Machine.allocOwned, Machine.allocOwned, FramePool.allocOwned?, FramePool.allocOwned?]
  rcases h.alloc?_cases with ⟨hone, hother⟩ | ⟨n, pool₁, pool₁', hone, hother, hlike, -⟩
  · rw [hone, hother]
    exact .error _
  · rw [hone, hother]
    exact .ok (.mk n ⟨hlike.retain n⟩)

lemma createSpace (h : Like P m m') : Agree (Beside (Like P)) m.createSpace m'.createSpace := by
  rw [Machine.createSpace, Machine.createSpace]
  refine h.allocOwned.elim (fun e => .error e) fun _ _ hmade => ?_
  obtain ⟨directory, ⟨hlike⟩⟩ := hmade
  exact .ok (.mk _ ⟨hlike⟩)

lemma destroySpace (h : Like P m m') (s : Nat) : Like P (m.destroySpace s) (m'.destroySpace s) := by
  rw [Machine.destroySpace, Machine.destroySpace, h.space?_eq]
  cases m.space? s with
  | none => exact h
  | some a =>
    obtain ⟨h⟩ := h
    exact ⟨h.releaseAll _⟩

lemma ensureTable (h : Like P m m') (s : Nat) (va : VirtAddr) :
    Agree (Like P) (m.ensureTable s va) (m'.ensureTable s va) := by
  rw [Machine.ensureTable, Machine.ensureTable, h.space?_eq]
  cases m.space? s with
  | none => exact .error _
  | some a =>
    dsimp only
    cases a.tables.find? (va.toNat / tableSpan) with
    | some table => exact .ok h
    | none =>
      refine h.allocOwned.elim (fun e => .error e) fun _ _ hmade => ?_
      obtain ⟨table, hlike⟩ := hmade
      exact .ok (hlike.setSpace _ _)

lemma setPage (h : Like P m m') (s frame : Nat) (va : VirtAddr) (perm : Perm) :
    Like P (m.setPage s frame va perm) (m'.setPage s frame va perm) := by
  rw [Machine.setPage, Machine.setPage, h.space?_eq]
  cases m.space? s with
  | none => exact h
  | some a =>
    have hshown := (h.retain frame).setSpace s
      { a with pages := a.pages.insert va.page ⟨frame, perm ||| .present⟩ }
    dsimp only
    cases a.pages.find? va.page with
    | none => exact hshown
    | some old => exact hshown.release old.frame

lemma map (h : Like P m m') (s frame : Nat) (va : VirtAddr) (perm : Perm) :
    Agree (Like P) (m.map s frame va perm) (m'.map s frame va perm) := by
  rw [Machine.map, Machine.map]
  split
  · exact .error _
  · exact (h.ensureTable s va).elim (fun e => .error e) fun _ _ hlike =>
      .ok (hlike.setPage s frame va perm)

lemma unmap (h : Like P m m') (s : Nat) (va : VirtAddr) :
    Like P (m.unmap s va) (m'.unmap s va) := by
  rw [Machine.unmap, Machine.unmap, h.space?_eq]
  cases m.space? s with
  | none => exact h
  | some a =>
    dsimp only
    cases a.pages.find? va.page with
    | none => exact h
    | some old => exact (h.setSpace s _).release old.frame

lemma dismantle (h : Like P m m') (s : Nat) : Like P (m.dismantle s) (m'.dismantle s) := by
  rw [Machine.dismantle, Machine.dismantle, h.userPages_eq]
  refine destroySpace ?_ s
  generalize m.userPages s = pages
  induction pages generalizing m m' with
  | nil => exact h
  | cons page pages ih => exact ih (h.unmap s page.1)

end Like

/-! ### What can be looked at -/

/-- The frames that somebody can look at: those of the windows, and those that pages show. -/
def Shows (m : Machine) (n : Nat) : Prop :=
  (∃ page e, m.windows.find? page = some e ∧ e.frame = n) ∨
    ∃ s page e, m.mapping? s page = some e ∧ e.frame = n

lemma shows_of_lookup? {e : Mapping} (h : m.lookup? s va = some e) : m.Shows e.frame := by
  rw [lookup?] at h
  split at h
  · exact .inl ⟨va.page, e, h, rfl⟩
  · exact .inr ⟨s, va.page, e, h, rfl⟩

lemma Offers.shows (h : m.Offers frame perm) : m.Shows frame := by
  obtain ⟨s, page, e, he, hframe, -⟩ := h.source
  exact .inr ⟨s, page, e, he, hframe⟩

/-- Fewer pages show less. -/
lemma Shows.of_mapping? (h : m'.Shows n) (hw : m'.windows = m.windows)
    (hm : ∀ s page e, m'.mapping? s page = some e → m.mapping? s page = some e) : m.Shows n := by
  rcases h with ⟨page, e, he, rfl⟩ | ⟨s, page, e, he, rfl⟩
  · exact .inl ⟨page, e, hw ▸ he, rfl⟩
  · exact .inr ⟨s, page, e, hm s page e he, rfl⟩

lemma Shows.of_map (hm : m.map s frame va perm = .ok m') (h : m'.Shows n) :
    m.Shows n ∨ n = frame := by
  rcases h with ⟨page, e, he, rfl⟩ | ⟨s', page, e, he, rfl⟩
  · exact .inl (.inl ⟨page, e, (sameShape_map hm).windows ▸ he, rfl⟩)
  · rw [mapping?_map hm] at he
    split at he
    · cases he
      exact .inr rfl
    · exact .inl (.inr ⟨s', page, e, he, rfl⟩)

lemma Shows.of_unmap (h : (m.unmap s va).Shows n) : m.Shows n := by
  refine h.of_mapping? sameShape_unmap.windows fun s' page e he => ?_
  rw [mapping?_unmap] at he
  split at he
  · cases he
  · exact he

lemma Shows.of_dismantle (h : (m.dismantle s).Shows n) : m.Shows n := by
  refine h.of_mapping? windows_dismantle fun s' page e he => ?_
  rw [mapping?_dismantle] at he
  split at he
  · cases he
  · exact he

lemma Shows.of_createSpace (hc : m.createSpace = .ok (s, m')) (h : m'.Shows n) : m.Shows n := by
  obtain ⟨directory, frames, -, -, rfl⟩ := createSpace_cases hc
  refine h.of_mapping? rfl fun s' page e he => ?_
  obtain ⟨a, ha, hpage⟩ := Option.bind_eq_some_iff.1 he
  rw [space?, SortedMap.find?_insert] at ha
  split at ha
  · cases ha
    cases hpage
  · exact Option.bind_eq_some_iff.2 ⟨a, ha, hpage⟩

lemma shows_of_userFrame {write : Bool} {address : Nat}
    (h : m.userFrame s write va address = .ok n) : m.Shows n := by
  rw [userFrame] at h
  split at h
  · rw [translate] at h
    split at h
    · cases h
    · next e he =>
      split at h
      · cases h
        exact shows_of_lookup? he
      · cases h
  · cases h

lemma shows_of_mappedFrame {address : Nat} (h : m.mappedFrame s va address = .ok n) :
    m.Shows n := by
  rw [mappedFrame] at h
  split at h
  · split at h
    · cases h
    · next e he =>
      cases h
      exact shows_of_lookup? he
  · cases h

/-- **Machines that agree in what they show**, and are the same but for the contents of frames. -/
def Alike (m m' : Machine) : Prop := m.Like m.Shows m'

/-- A page that comes to show a frame which holds the same in both. -/
lemma Like.map_alike (h : m.Like (fun n => m.Shows n ∨ n = frame) m') (s : Nat) (va : VirtAddr)
    (perm : Perm) : Agree Alike (m.map s frame va perm) (m'.map s frame va perm) :=
  (h.map s frame va perm).mono fun _ _ hm hlike => hlike.mono fun _ hn => hn.of_map hm

namespace Alike

lemma map (h : m.Alike m') (hshow : m.Shows frame) (s : Nat) (va : VirtAddr) (perm : Perm) :
    Agree Alike (m.map s frame va perm) (m'.map s frame va perm) := by
  refine Like.map_alike (Like.mono h fun n hn => ?_) s va perm
  rcases hn with hn | rfl
  · exact hn
  · exact hshow

lemma unmap (h : m.Alike m') (s : Nat) (va : VirtAddr) : (m.unmap s va).Alike (m'.unmap s va) :=
  (Like.unmap h s va).mono fun _ hn => hn.of_unmap

lemma dismantle (h : m.Alike m') (s : Nat) : (m.dismantle s).Alike (m'.dismantle s) :=
  (Like.dismantle h s).mono fun _ hn => hn.of_dismantle

lemma createSpace (h : m.Alike m') : Agree (Beside Alike) m.createSpace m'.createSpace := by
  refine (Like.createSpace h).mono fun x y hc hlike => ?_
  obtain ⟨s, hlike⟩ := hlike
  exact .mk s (hlike.mono fun _ hn => hn.of_createSpace hc)

/-- **A fresh page of zeros** holds the same in both, whatever its frame held. -/
lemma mapZeroed (h : m.Alike m') (s : Nat) (va : VirtAddr) (perm : Perm) :
    Beside Alike (m.mapZeroed s va perm) (m'.mapZeroed s va perm) := by
  obtain ⟨h⟩ := h
  rw [Machine.mapZeroed, Machine.mapZeroed, allocFrame, allocFrame]
  rcases h.alloc?_cases with ⟨hone, hother⟩ | ⟨frame, pool₁, pool₁', hone, hother, -, hclear⟩
  · rw [hone, hother]
    exact .mk _ ⟨h⟩
  · rw [hone, hother]
    -- the frame is shown only after it was cleared, when both hold zeros there
    have hlike : Like (fun n => m.Shows n ∨ n = frame)
        (Machine.clear { m with frames := pool₁ } frame)
        (Machine.clear { m with frames := pool₁' } frame) := ⟨hclear⟩
    have hmap :=
      Like.map_alike (m := Machine.clear { m with frames := pool₁ } frame) hlike s va perm
    dsimp only
    refine hmap.elim (fun e => ?_) fun _ _ hmapped => .mk _ hmapped
    exact .mk _ ((hlike.discard frame).mono fun _ hn => .inl hn)

/-- A write through the pages comes to the same in both. -/
lemma copyOut (h : m.Alike m') (s : Nat) (va : VirtAddr) (data : List UInt8) :
    Beside Alike (m.copyOut s va data) (m'.copyOut s va data) := by
  obtain ⟨h⟩ := h
  have hwrite := h.writePieces (m.mappedFrame s va) (pieces va.toNat data.length) data
  exact .of hwrite.fst_eq ⟨hwrite.snd⟩

lemma userWrite (h : m.Alike m') (s : Nat) (va : VirtAddr) (data : List UInt8) :
    Beside Alike (m.userWrite s va data) (m'.userWrite s va data) := by
  obtain ⟨h⟩ := h
  have hwrite := h.writePieces (m.userFrame s true va) (pieces va.toNat data.length) data
  exact .of hwrite.fst_eq ⟨hwrite.snd⟩

/-- The kernel reads the same through the pages of both. -/
lemma copyIn_eq (h : m.Alike m') (s : Nat) (va : VirtAddr) (len : Nat) (absent : UInt8) :
    m'.copyIn s va len absent = m.copyIn s va len absent := by
  obtain ⟨h⟩ := h
  exact h.readPieces_eq (fun _ _ hn => shows_of_mappedFrame hn) absent _

/-- **User code reads the same** in both. -/
lemma userRead_eq (h : m.Alike m') (s : Nat) (va : VirtAddr) (len : Nat) (absent : UInt8) :
    m'.userRead s va len absent = m.userRead s va len absent := by
  obtain ⟨h⟩ := h
  exact h.readPieces_eq (fun _ _ hn => shows_of_userFrame hn) absent _

lemma service (h : m.Alike m') (line : UInt32) :
    Agree Alike (m.service line) (m'.service line) := by
  obtain ⟨h⟩ := h
  rw [Machine.service, Machine.service]
  split
  · exact .ok ⟨h⟩
  · exact .error _

/-! ### Loading a program -/

lemma loadPage (h : m.Alike m') (s : Nat) (perm : Perm) (page : Nat) :
    Beside Alike (m.loadPage s perm page) (m'.loadPage s perm page) := by
  rw [Machine.loadPage, Machine.loadPage, Like.lookup?_eq h]
  cases he : m.lookup? s (.ofNat (page * pageSize)) with
  | none => exact h.mapZeroed s _ perm
  | some e =>
    dsimp only
    split
    · exact .mk _ h
    · exact (h.map (shows_of_lookup? he) s _ _).elim (fun _ => .mk _ h) fun _ _ hlike =>
        .mk _ hlike

lemma loadPages (h : m.Alike m') (s : Nat) (perm : Perm) (pages : List Nat) :
    Beside Alike (Machine.loadPages s perm pages m) (Machine.loadPages s perm pages m') := by
  induction pages generalizing m m' with
  | nil => exact .mk _ h
  | cons page pages ih =>
    rw [Machine.loadPages, Machine.loadPages]
    refine (h.loadPage s perm page).elim fun result _ _ hlike => ?_
    cases result with
    | error e => exact .mk _ hlike
    | ok _ => exact ih hlike

lemma loadSegment (h : m.Alike m') (s : Nat) (segment : Segment) :
    Beside Alike (m.loadSegment s segment) (m'.loadSegment s segment) := by
  rw [Machine.loadSegment, Machine.loadSegment]
  refine (h.loadPages s segment.perm segment.pages).elim fun result _ _ hlike => ?_
  cases result with
  | error e => exact .mk _ hlike
  | ok _ =>
    dsimp only
    refine (hlike.copyOut s segment.va segment.data).elim fun result _ _ hlike => ?_
    cases result <;> exact .mk _ hlike

lemma loadSegments (h : m.Alike m') (s : Nat) (segments : List Segment) :
    Beside Alike (Machine.loadSegments s segments m) (Machine.loadSegments s segments m') := by
  induction segments generalizing m m' with
  | nil => exact .mk _ h
  | cons segment segments ih =>
    rw [Machine.loadSegments, Machine.loadSegments]
    refine (h.loadSegment s segment).elim fun result _ _ hlike => ?_
    cases result with
    | error e => exact .mk _ hlike
    | ok _ => exact ih hlike

/-- **Loading a program** comes to the same in both. -/
lemma load (h : m.Alike m') (s : Nat) (image : Image) :
    Beside Alike (m.load s image) (m'.load s image) := by
  rw [Machine.load, Machine.load]
  refine (h.loadSegments s image.segments).elim fun result _ _ hlike => ?_
  cases result with
  | error e => exact .mk _ hlike
  | ok _ =>
    dsimp only
    refine (hlike.mapZeroed s (.ofNat stackPage) .userWrite).elim fun result _ _ hlike => ?_
    cases result <;> exact .mk _ hlike

end Alike

end Machine

end Exokernel
