/-
The balance of physical memory: what every frame is used for, and that nothing is lost.

* `Machine.pagesShowing`: the pages, of whatever address space, that show a frame;
* `Accounted.refs_eq`: a frame has as many references as pages that show it, or one if the kernel
  keeps a table in it;
* `Kernel.refs_small`: there are not enough pages for a count to overflow;
* `Kernel.Balanced`: memory is accounted for, frame by frame and address space by address space;
* `reachable_balanced`: **memory is balanced until the numbers of address spaces come round**, and
  once all processes are gone the same frames are free as at the start.
-/
import Mathlib.Data.Set.Card
import Exokernel.Proofs.Histories

namespace Exokernel

open Layout

namespace SortedMap

variable {α : Type} {m : SortedMap α}

/-- The keys of a map, in ascending order. -/
def keys (m : SortedMap α) : List Nat := m.entries.map Prod.fst

lemma mem_keys_iff {k : Nat} : k ∈ m.keys ↔ (m.find? k).isSome := by
  rw [keys, List.mem_map, Option.isSome_iff_exists]
  constructor
  · rintro ⟨⟨k, v⟩, h, rfl⟩
    exact ⟨v, mem_entries_iff.1 h⟩
  · rintro ⟨v, h⟩
    exact ⟨(k, v), mem_entries_iff.2 h, rfl⟩

lemma nodup_keys (m : SortedMap α) : m.keys.Nodup :=
  List.pairwise_map.2 (m.ascending.imp fun h => Nat.ne_of_lt h)

lemma length_values : m.values.length = m.keys.length := by
  rw [values, keys, List.length_map, List.length_map]

/-- A map whose keys are small has few entries. -/
lemma length_keys_le {b : Nat} (h : ∀ k v, m.find? k = some v → k < b) : m.keys.length ≤ b := by
  have hsub : m.keys ⊆ List.range b := fun k hk => by
    obtain ⟨v, hv⟩ := Option.isSome_iff_exists.1 (mem_keys_iff.1 hk)
    exact List.mem_range.2 (h k v hv)
  calc m.keys.length
      ≤ (List.range b).length := (m.nodup_keys.subperm hsub).length_le
    _ = b := List.length_range

end SortedMap

/-- Few short lists make no long one. -/
lemma length_flatMap_le {α β : Type} {l : List α} {f : α → List β} {b : Nat}
    (h : ∀ a ∈ l, (f a).length ≤ b) : (l.flatMap f).length ≤ l.length * b := by
  induction l with
  | nil => simp
  | cons a l ih =>
    have hhead := h a List.mem_cons_self
    have htail := ih fun x hx => h x (List.mem_cons_of_mem _ hx)
    rw [List.flatMap_cons, List.length_append, List.length_cons, Nat.add_one_mul]
    omega

namespace Machine

variable {m : Machine} {n : Nat} {kept : List Nat}

/-! ### The pages that show a frame -/

/-- The pages that show a frame, each with its address space. -/
def pagesShowing (m : Machine) (n : Nat) : Set (Nat × Nat) :=
  {place | ∃ e, m.mapping? place.1 place.2 = some e ∧ e.frame = n}

/-- All pages with what they show, address space by address space. -/
def places (m : Machine) : List ((Nat × Nat) × Mapping) :=
  m.spaces.spaces.entries.flatMap fun (s, a) => a.pages.entries.map fun (page, e) => ((s, page), e)

lemma mem_places_iff {s page : Nat} {e : Mapping} :
    ((s, page), e) ∈ m.places ↔ m.mapping? s page = some e := by
  simp only [places, List.mem_flatMap, List.mem_map, Prod.exists, Prod.mk.injEq]
  constructor
  · rintro ⟨s, a, ha, page, e, he, ⟨rfl, rfl⟩, rfl⟩
    rw [mapping?_of_space? (SortedMap.mem_entries_iff.1 ha)]
    exact SortedMap.mem_entries_iff.1 he
  · intro h
    obtain ⟨a, ha, he⟩ := Option.bind_eq_some_iff.1 h
    exact ⟨s, a, SortedMap.mem_entries_iff.2 ha, page, e, SortedMap.mem_entries_iff.2 he,
      ⟨rfl, rfl⟩, rfl⟩

/-- No page comes twice. -/
lemma nodup_places (m : Machine) : (m.places.map Prod.fst).Nodup := by
  rw [places, List.map_flatMap, List.nodup_flatMap]
  constructor
  · rintro ⟨s, a⟩ -
    rw [List.map_map]
    exact List.pairwise_map.2 (a.pages.ascending.imp fun h heq =>
      Nat.ne_of_lt h (congrArg Prod.snd heq))
  · have hspace : ∀ {x : Nat × AddressSpace} {place : Nat × Nat},
        place ∈ (x.2.pages.entries.map fun (page, e) => ((x.1, page), e)).map Prod.fst →
        place.1 = x.1 := fun h => by
      rw [List.map_map] at h
      obtain ⟨_, -, rfl⟩ := List.mem_map.1 h
      rfl
    refine m.spaces.spaces.ascending.imp fun {x y} hlt => List.disjoint_left.2 fun place hx hy => ?_
    exact Nat.ne_of_lt hlt ((hspace hx).symm.trans (hspace hy))

lemma shownFrames_eq : m.shownFrames = m.places.map (·.2.frame) := by
  rw [shownFrames, places, SortedMap.values, List.flatMap_map, List.map_flatMap]
  refine List.flatMap_congr fun r _ => ?_
  rw [AddressSpace.shown, SortedMap.values, List.map_map, List.map_map]
  rfl

/-- **As many pages show a frame** as it is shown. -/
lemma ncard_pagesShowing : (m.pagesShowing n).ncard = m.shownFrames.count n := by
  have hset : m.pagesShowing n = ((m.places.filter (·.2.frame = n)).map Prod.fst).toFinset := by
    ext ⟨s, page⟩
    simp only [pagesShowing, Set.mem_ofPred_eq, List.coe_toFinset, List.mem_map, List.mem_filter,
      decide_eq_true_eq]
    constructor
    · rintro ⟨e, he, rfl⟩
      exact ⟨((s, page), e), ⟨mem_places_iff.2 he, rfl⟩, rfl⟩
    · rintro ⟨⟨_, e⟩, ⟨hin, rfl⟩, rfl⟩
      exact ⟨e, mem_places_iff.1 hin, rfl⟩
  have hnodup : ((m.places.filter (·.2.frame = n)).map Prod.fst).Nodup :=
    m.nodup_places.sublist (List.filter_sublist.map _)
  calc (m.pagesShowing n).ncard
      = ((m.places.filter (·.2.frame = n)).map Prod.fst).toFinset.card := by
        rw [hset, Set.ncard_coe_finset]
    _ = (m.places.filter (·.2.frame = n)).length := by
        rw [List.toFinset_card_of_nodup hnodup, List.length_map]
    _ = m.shownFrames.count n := by
        rw [shownFrames_eq, List.count, List.countP_map, List.countP_eq_length_filter]
        rfl

/-- There are no more pages below `Layout.userTop` in each address space. -/
lemma length_shownFrames (h : m.Accounted kept []) :
    m.shownFrames.length ≤ m.spaces.spaces.keys.length * (userTop / pageSize) := by
  have hone : ∀ a ∈ m.spaces.spaces.values, a.shown.length ≤ userTop / pageSize := fun a ha => by
    obtain ⟨s, hs⟩ := SortedMap.mem_values_iff.1 ha
    rw [AddressSpace.shown, List.length_map, SortedMap.length_values]
    refine SortedMap.length_keys_le fun page e he => ?_
    have hlt : page * pageSize < userTop / pageSize * pageSize :=
      h.below s page e ((mapping?_of_space? hs page).trans he)
    exact Nat.lt_of_mul_lt_mul_right hlt
  rw [shownFrames, ← SortedMap.length_values]
  exact length_flatMap_le hone

/-! ### Frame by frame -/

namespace Accounted

/-- **A frame has as many references** as pages that show it, or one if the kernel keeps a table in
it. -/
lemma refs_eq (h : m.Accounted [] []) (n : Nat) :
    m.frames.refs n = (m.pagesShowing n).ncard + if n ∈ m.tableFrames then 1 else 0 := by
  rw [h.ledger.backs.refs_eq, List.append_nil, List.count_append, ncard_pagesShowing,
    h.ledger.nodup.count, Nat.add_comm]

/-- A frame is in use exactly if something refers to it. -/
lemma isSome_iff (h : m.Accounted kept []) (n : Nat) :
    (m.frames.allocated? n).isSome ↔ 0 < m.frames.refs n := by
  rw [h.ledger.backs.refs_eq, List.count_pos_iff]
  exact ⟨fun hin => (h.ledger.backs.used n hin).resolve_right List.not_mem_nil,
    fun hin => h.ledger.backs.isSome_of_mem hin⟩

/-- A frame that the kernel keeps a table in is shown nowhere. -/
lemma pagesShowing_of_table (h : m.Accounted kept []) (hn : n ∈ m.tableFrames) :
    m.pagesShowing n = ∅ := by
  refine Set.eq_empty_iff_forall_notMem.2 fun place ⟨e, he, hframe⟩ => ?_
  exact h.notMem_tableFrames he (hframe ▸ hn)

/-- In a machine without address spaces, the frames of the windows are in use and no others. -/
lemma mem_free_iff_of_empty (h : m.Accounted [] []) (hempty : ∀ s, m.space? s = none) :
    n ∈ m.frames.free ↔ n < m.frames.slots.size ∧ n ∉ m.windows.values.map (·.frame) := by
  have hvalues : m.spaces.spaces.values = [] := by
    refine List.eq_nil_iff_forall_not_mem.2 fun a ha => ?_
    obtain ⟨s, hs⟩ := SortedMap.mem_values_iff.1 ha
    exact absurd hs (by rw [show m.spaces.spaces.find? s = none from hempty s]; nofun)
  have htables : m.tableFrames = m.windows.values.map (·.frame) := by
    rw [tableFrames, hvalues, List.flatMap_nil, List.append_nil]
  have hshown : m.shownFrames = [] := by rw [shownFrames, hvalues, List.flatMap_nil]
  have hin : (m.frames.allocated? n).isSome ↔ n ∈ m.windows.values.map (·.frame) := by
    rw [h.isSome_iff, h.ledger.backs.refs_eq, htables, hshown, List.append_nil, List.append_nil,
      List.count_pos_iff]
  rw [h.ledger.backs.mem_free_iff, ← Option.not_isSome_iff_eq_none, hin]

end Accounted

end Machine

namespace Kernel

variable {k k' : Kernel} {id : ProcessId} {p : Process} {cpu : Nat} {n : UInt32}

/-! ### Address spaces and processes -/

/-- There are no more address spaces than slots. -/
lemma length_keys_spaces (hs : k.Separate n) :
    k.machine.spaces.spaces.keys.length ≤ k.table.capacity := by
  have hsub : k.machine.spaces.spaces.keys ⊆ k.table.records.toList.filterMap (·.space) :=
    fun s hthere => by
      obtain ⟨slot, p, hp, hspace⟩ := hs.housed.held s (SortedMap.mem_keys_iff.1 hthere)
      exact List.mem_filterMap.2 ⟨p, Array.mem_toList_iff.2 (Array.mem_of_getElem? hp), hspace⟩
  calc k.machine.spaces.spaces.keys.length
      ≤ (k.table.records.toList.filterMap (·.space)).length :=
        ((SortedMap.nodup_keys _).subperm hsub).length_le
    _ ≤ k.table.records.toList.length := List.length_filterMap_le ..
    _ = k.table.capacity := Array.length_toList

/-- **No count overflows**, not even while a call keeps a frame and shows it once more. -/
lemma refs_small (hk : k.Sound) (hs : k.Separate n) (frame : Nat) :
    k.machine.frames.refs frame + 2 < 2 ^ 32 := by
  have hcount : k.machine.frames.refs frame ≤ k.machine.shownFrames.length + 1 := by
    rw [hs.accounted.refs_eq, Machine.ncard_pagesShowing]
    have hle := List.count_le_length (a := frame) (l := k.machine.shownFrames)
    split <;> omega
  have hspaces : k.machine.spaces.spaces.keys.length ≤ ProcessId.slotCount :=
    (length_keys_spaces hs).trans hk.tables.small
  have hpages := Machine.length_shownFrames hk.accounted
  have hmul := Nat.mul_le_mul_right (userTop / pageSize) hspaces
  have hvalue : ProcessId.slotCount * (userTop / pageSize) + 3 < 2 ^ 32 := by decide
  omega

/-- **An address space exists** exactly if one slot holds it, and no other slot does. -/
lemma space?_isSome_iff (hk : k.Separate n) (s : Nat) : (k.machine.space? s).isSome ↔
    ∃! slot : Nat, ∃ p : Process, k.table.records[slot]? = some p ∧ p.space = some s := by
  constructor
  · intro hs
    obtain ⟨slot, p, hp, hspace⟩ := hk.housed.held s hs
    exact ⟨slot, ⟨p, hp, hspace⟩, fun slot' ⟨p', hp', hspace'⟩ =>
      hk.housed.unique slot' slot p' p s hp' hp hspace' hspace⟩
  · rintro ⟨slot, ⟨p, hp, hspace⟩, -⟩
    exact hk.housed.exist slot p s hp hspace

/-! ### The balance -/

/-- **Memory is balanced**: it is known what every frame in use is used for, every other frame is
free, and every address space has its process. -/
structure Balanced (k : Kernel) : Prop where
  used : ∀ n, (k.machine.frames.allocated? n).isSome ↔ 0 < k.machine.frames.refs n
  /-- A frame is referred to by the pages that show it, or by the kernel if it is one of its
  tables. -/
  refs : ∀ n, k.machine.frames.refs n =
    (k.machine.pagesShowing n).ncard + if n ∈ k.machine.tableFrames then 1 else 0
  /-- No frame is two tables. -/
  tables_nodup : k.machine.tableFrames.Nodup
  /-- No page shows a table. -/
  tables_hidden : ∀ n ∈ k.machine.tableFrames, k.machine.pagesShowing n = ∅
  free_nodup : k.machine.frames.free.Nodup
  free_iff : ∀ n, n ∈ k.machine.frames.free ↔
    n < k.machine.frames.slots.size ∧ k.machine.frames.allocated? n = none
  spaces : ∀ s, (k.machine.space? s).isSome ↔
    ∃! slot : Nat, ∃ p : Process, k.table.records[slot]? = some p ∧ p.space = some s
  spaces_held : ∀ (slot : Nat) (p : Process) (s : Nat),
    k.table.records[slot]? = some p → p.space = some s → (k.machine.space? s).isSome
  /-- Nor does a count overflow while a call keeps a frame and shows it at one more page. -/
  small : ∀ n, k.machine.frames.refs n + 2 < 2 ^ 32

lemma balanced (hk : k.Sound) (hs : k.Separate n) : k.Balanced where
  used := hs.accounted.isSome_iff
  refs := hs.accounted.refs_eq
  tables_nodup := hs.accounted.ledger.nodup
  tables_hidden _ := hs.accounted.pagesShowing_of_table
  free_nodup := hs.accounted.ledger.backs.free_nodup
  free_iff := hs.accounted.ledger.backs.mem_free_iff
  spaces := space?_isSome_iff hs
  spaces_held := hs.housed.exist
  small := refs_small hk hs

/-- A process that is destroyed, and that no other processor has bound, leaves its slot free. -/
lemma destroy_records (hk : k.Sound) (hp : k.live? id = some p)
    (hres : p.resident = none ∨ p.resident = some cpu) :
    ((Operation.destroy cpu id).apply k).table.records =
      (k.table.modify id.slot Process.cleared).records := by
  have hclears := destroyOn_clears hk hp hres
  rw [Operation.apply, destroy, hp]
  exact hclears.records

end Kernel

/-! ### Any state before the numbers of address spaces come round -/

/-- Once all slots are free, the same frames are free as at the start. -/
lemma Early.free_perm {config : Config} {frames : Nat} {k : Kernel} (h : Early config frames k)
    (hgone : ∀ p ∈ k.table.records, p.status = .free) :
    k.machine.frames.free.Perm (Machine.ofSize config.cpus frames).frames.free := by
  have hk := h.reachable.sound
  have hs := h.separate
  have hempty : ∀ s, k.machine.space? s = none := fun s => by
    by_contra hne
    obtain ⟨slot, p, hp, hspace⟩ := hs.housed.held s (Option.isSome_iff_ne_none.2 hne)
    have hsome : p.space.isSome := by rw [hspace]; rfl
    exact (hk.tables.sound slot p hp).space_iff.1 hsome (hgone p (Array.mem_of_getElem? hp))
  have hstart := Machine.accounted_ofSize config.cpus frames
  obtain ⟨hwindows, hsize⟩ := h.reachable.fixtures
  refine (List.perm_ext_iff_of_nodup hs.accounted.ledger.backs.free_nodup
    hstart.ledger.backs.free_nodup).2 fun n => ?_
  rw [hs.accounted.mem_free_iff_of_empty hempty, hstart.mem_free_iff_of_empty fun _ => rfl,
    hwindows, hsize]

/-- **Memory is balanced between any two operations**, as long as fewer than `2 ^ 32 - 1` address
spaces have been made. What no other processor has bound is gone as soon as it is destroyed, and
once all processes are gone the same frames are free as at the start. -/
theorem reachable_balanced {config : Config} {frames : Nat} {k : Kernel}
    (h : Early config frames k) :
    k.Balanced ∧
    (∀ cpu id p, k.live? id = some p → (p.resident = none ∨ p.resident = some cpu) →
      ((Operation.destroy cpu id).apply k).table.records =
        (k.table.modify id.slot Process.cleared).records) ∧
    ((∀ p ∈ k.table.records, p.status = .free) →
      k.machine.frames.free.Perm (Machine.ofSize config.cpus frames).frames.free) :=
  ⟨Kernel.balanced h.reachable.sound h.separate,
    fun _ _ _ => Kernel.destroy_records h.reachable.sound, h.free_perm⟩

/-- What a program took is free again when it is destroyed. -/
theorem reachable_balanced_destroyed : ∃ k k' : Kernel, Early { maxProcesses := 2 } 16 k ∧
    Early { maxProcesses := 2 } 16 k' ∧ k.machine.freeFrames < k'.machine.freeFrames ∧
    k.Balanced ∧ k'.machine.frames.free.Perm (Machine.ofSize 1 16).frames.free := by
  have hboot : Booted { maxProcesses := 2 } 16 _ := ⟨_, [0], rfl, .refl _, rfl⟩
  have hspawn := hboot.history.snoc (.spawn ⟨⟨0⟩, []⟩) trivial
  have hrun := hspawn.snoc (.schedule 0) rfl
  have hgone := hrun.snoc (.destroy 0 (ProcessId.self.next 0)) trivial
  have hearly := hrun.early hboot (by decide)
  have hearly' := hgone.early hboot (by decide)
  obtain ⟨hbalanced, -, -⟩ := reachable_balanced hearly
  obtain ⟨-, -, hback⟩ := reachable_balanced hearly'
  exact ⟨_, _, hearly, hearly', by decide, hbalanced, hback (by decide)⟩

end Exokernel
