/-
What a process has at an address, be it its own page or a window.

* `Machine.shownByte?`: the byte that an address space shows at an address;
* `Accounted.isSome_of_lookup?`: **what is shown is in use**;
* `Machine.SoleAt`: a frame that is shown at one page only;
* `Machine.KeepsBut`: **at most one page changes**;
* `KeepsBut.of_puts`, `KeepsBut.unmap`: one page that is put or hidden leaves all others alone.
-/
import Exokernel.Proofs.Memory.Guards

namespace Exokernel.Machine

open Layout

variable {m m' : Machine} {s n page : Nat} {va : VirtAddr} {e : Mapping} {kept loose : List Nat}

/-- The byte that address space `s` shows at an address, below `Layout.userTop` or in a window. -/
def shownByte? (m : Machine) (s : Nat) (va : VirtAddr) : Option UInt8 :=
  (m.lookup? s va).bind fun e => m.frames.byte? e.frame va.offset

/-- Below `Layout.userTop` that is what the pages of the address space show. -/
lemma shownByte?_of_lt (h : va.toNat < userTop) : m.shownByte? s va = m.byte? s va.toNat := by
  rw [shownByte?, lookup?_of_lt h]
  rfl

/-- The frame of a window is in use. -/
lemma Accounted.isSome_of_window (h : m.Accounted kept loose) (he : m.windows.find? page = some e) :
    (m.frames.allocated? e.frame).isSome := by
  have hwindow : e.frame ∈ m.windows.values.map (·.frame) :=
    List.mem_map.2 ⟨e, SortedMap.mem_values_iff.2 ⟨_, he⟩, rfl⟩
  have htable : e.frame ∈ m.tableFrames := List.mem_append_left _ hwindow
  exact h.ledger.backs.isSome_of_mem (List.mem_append_left _ (List.mem_append_left _ htable))

/-- **What is shown is in use**, in a window as well. -/
lemma Accounted.isSome_of_lookup? (h : m.Accounted kept loose) (he : m.lookup? s va = some e) :
    (m.frames.allocated? e.frame).isSome := by
  rw [lookup?] at he
  split at he
  · exact h.isSome_of_window he
  · exact h.isSome_of_mapping? he

/-! ### Frames that are shown once -/

/-- A frame is shown at one page of one address space, if at all, and in no window. -/
def SoleAt (m : Machine) (n s page : Nat) : Prop :=
  ∀ t va e, m.lookup? t va = some e → e.frame = n → t = s ∧ va.page = page

/-- Below `Layout.userTop`, pages are what their address spaces show. -/
lemma Accounted.lookup?_of_mapping? (h : m.Accounted kept loose) {t q : Nat}
    (he : m.mapping? t q = some e) :
    m.lookup? t (.ofNat (q * pageSize)) = some e ∧ (VirtAddr.ofNat (q * pageSize)).page = q := by
  have hbelow := h.below t q e he
  exact ⟨(lookup?_ofNat_mul hbelow).trans he, VirtAddr.page_ofNat_mul hbelow⟩

/-- A page that shows such a frame is the one. -/
lemma SoleAt.of_mapping? (h : m.SoleAt n s page) (hacc : m.Accounted kept loose) {t q : Nat}
    (he : m.mapping? t q = some e) (hframe : e.frame = n) : t = s ∧ q = page := by
  obtain ⟨hlookup, hpage⟩ := hacc.lookup?_of_mapping? he
  rw [← hpage]
  exact h t _ e hlookup hframe

/-- A page that comes to show a frame which was not in use is the only one that shows it. -/
lemma Puts.soleAt (hput : m.Puts s page e m') (hacc : m.Accounted kept loose)
    (hwindows : m'.windows = m.windows) (hfresh : (m.frames.allocated? e.frame).isSome = false) :
    m'.SoleAt e.frame s page := by
  have hold : ∀ {t va e'}, m.lookup? t va = some e' → e'.frame ≠ e.frame := fun he' hframe => by
    have hin := hacc.isSome_of_lookup? he'
    rw [hframe, hfresh] at hin
    cases hin
  intro t va e' he' hframe
  by_cases htop : userTop ≤ va.toNat
  · rw [lookup?, if_pos htop, hwindows] at he'
    have hwindow : m.lookup? t va = some e' := by rw [lookup?, if_pos htop, he']
    exact absurd hframe (hold hwindow)
  · have hlt := Nat.not_le.1 htop
    rw [lookup?_of_lt hlt, hput.mapping] at he'
    split at he'
    · next hsame => exact ⟨hsame.1.symm, hsame.2.symm⟩
    · exact absurd hframe (hold ((lookup?_of_lt hlt).trans he'))

/-! ### One page that changes -/

/-- **At most one page changes**: every other page of the address space, and every page of all other
address spaces, shows the frame that it showed, with the same permissions and the same bytes. -/
structure KeepsBut (m : Machine) (s page : Nat) (m' : Machine) : Prop where
  lookup : ∀ t va, ¬ (t = s ∧ va.page = page) → m'.lookup? t va = m.lookup? t va
  bytes : ∀ t va, ¬ (t = s ∧ va.page = page) → m'.shownByte? t va = m.shownByte? t va

namespace KeepsBut

/-- What it takes: the same windows, the same pages, and frames in use hold what they held. -/
lemma of_mapping? (hacc : m.Accounted kept loose) (hwindows : m'.windows = m.windows)
    (hmap : ∀ t q, ¬ (t = s ∧ q = page) → m'.mapping? t q = m.mapping? t q)
    (hcont : ∀ n, (m.frames.allocated? n).isSome →
      m'.frames.contents? n = m.frames.contents? n) : m.KeepsBut s page m' := by
  have hlookup : ∀ t va, ¬ (t = s ∧ va.page = page) → m'.lookup? t va = m.lookup? t va := by
    intro t va hne
    by_cases htop : userTop ≤ va.toNat
    · rw [lookup?, lookup?, if_pos htop, if_pos htop, hwindows]
    · have hlt := Nat.not_le.1 htop
      rw [lookup?_of_lt hlt, lookup?_of_lt hlt, hmap t va.page hne]
  refine ⟨hlookup, fun t va hne => ?_⟩
  rw [shownByte?, shownByte?, hlookup t va hne]
  cases he : m.lookup? t va with
  | none => rfl
  | some e => exact FramePool.byte?_eq_of_contents? (hcont _ (hacc.isSome_of_lookup? he)) _

/-- **A page that is put** changes no other. -/
lemma of_puts (hput : m.Puts s page e m') (hacc : m.Accounted kept loose)
    (hwindows : m'.windows = m.windows) : m.KeepsBut s page m' :=
  of_mapping? hacc hwindows
    (fun t q hne => (hput.mapping t q).trans (if_neg fun hc => hne ⟨hc.1.symm, hc.2.symm⟩))
    hput.contents

/-- **A page that is hidden**, neither. -/
lemma unmap (hacc : m.Accounted kept loose) : m.KeepsBut s va.page (m.unmap s va) :=
  of_mapping? hacc sameShape_unmap.windows
    (fun t q hne => (mapping?_unmap t q).trans (if_neg fun hc => hne ⟨hc.1.symm, hc.2.symm⟩))
    fun n _ => contents?_unmap n

end KeepsBut

end Exokernel.Machine
