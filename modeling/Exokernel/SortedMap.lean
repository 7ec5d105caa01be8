/-
Finite maps with numbers as keys, kept in ascending order of the keys. Page tables, address spaces
and the pages of a scripted process are such maps, and their order is the order in which pages are
listed and released.

* `SortedMap`: entries in strictly ascending order of their keys, so that a map has one form only;
* `SortedMap.find?_insert`, `SortedMap.find?_erase`: what a map holds after a change;
* `SortedMap.mem_entries_iff`: the entries are exactly what `find?` finds;
* `SortedMap.ext_find?`: maps that hold the same are equal.
-/

namespace Exokernel

/-- A finite map from numbers to `α`, as its entries in ascending order of the keys. -/
structure SortedMap (α : Type) where
  /-- The entries, least key first. -/
  entries : List (Nat × α)
  /-- No key comes twice, and a greater key comes later. -/
  ascending : entries.Pairwise (fun a b => a.1 < b.1)

namespace SortedMap

variable {α : Type}

/-! ### Entries in ascending order -/

/-- The value at `key` in a list of entries. -/
def findEntry (key : Nat) : List (Nat × α) → Option α
  | [] => none
  | (k, v) :: rest => if k = key then some v else findEntry key rest

/-- The entries with `value` at `key`, in place of what was there. -/
def insertEntry (key : Nat) (value : α) : List (Nat × α) → List (Nat × α)
  | [] => [(key, value)]
  | (k, v) :: rest =>
    if key < k then (key, value) :: (k, v) :: rest
    else if key = k then (key, value) :: rest
    else (k, v) :: insertEntry key value rest

/-- The entries without the one at `key`. -/
def eraseEntry (key : Nat) (entries : List (Nat × α)) : List (Nat × α) :=
  entries.filter (fun e => e.1 ≠ key)

theorem mem_of_mem_insertEntry {key : Nat} {value : α} {entries : List (Nat × α)} {e : Nat × α}
    (h : e ∈ insertEntry key value entries) : e = (key, value) ∨ e ∈ entries := by
  induction entries with
  | nil => simpa [insertEntry] using h
  | cons head rest ih =>
    obtain ⟨k, v⟩ := head
    simp only [insertEntry] at h
    split at h
    · simpa using h
    · split at h
      · rcases List.mem_cons.1 h with h | h
        · exact .inl h
        · exact .inr (List.mem_cons_of_mem _ h)
      · rcases List.mem_cons.1 h with h | h
        · exact .inr (h ▸ List.mem_cons_self)
        · exact (ih h).imp_right (List.mem_cons_of_mem _)

theorem ascending_insertEntry (key : Nat) (value : α) {entries : List (Nat × α)}
    (h : entries.Pairwise (fun a b => a.1 < b.1)) :
    (insertEntry key value entries).Pairwise (fun a b => a.1 < b.1) := by
  induction entries with
  | nil => simp [insertEntry]
  | cons head rest ih =>
    obtain ⟨k, v⟩ := head
    obtain ⟨hhead, hrest⟩ := List.pairwise_cons.1 h
    simp only [insertEntry]
    split
    · next hlt =>
      refine List.pairwise_cons.2 ⟨fun e he => ?_, h⟩
      rcases List.mem_cons.1 he with rfl | he
      · exact hlt
      · exact Nat.lt_trans hlt (hhead e he)
    · split
      · next heq =>
        subst heq
        exact List.pairwise_cons.2 ⟨hhead, hrest⟩
      · next hlt hne =>
        refine List.pairwise_cons.2 ⟨fun e he => ?_, ih hrest⟩
        rcases mem_of_mem_insertEntry he with rfl | he
        · exact Nat.lt_of_le_of_ne (Nat.not_lt.1 hlt) (Ne.symm hne)
        · exact hhead e he

theorem findEntry_insertEntry (key : Nat) (value : α) (entries : List (Nat × α)) (k : Nat) :
    findEntry k (insertEntry key value entries) =
      if key = k then some value else findEntry k entries := by
  induction entries with
  | nil => simp [insertEntry, findEntry]
  | cons head rest ih =>
    obtain ⟨k', v⟩ := head
    simp only [insertEntry]
    split
    · simp [findEntry]
    · split
      · next heq => subst heq; simp only [findEntry]; split <;> rfl
      · next hne => simp only [findEntry, ih]; grind

theorem findEntry_eraseEntry (key : Nat) (entries : List (Nat × α)) (k : Nat) :
    findEntry k (eraseEntry key entries) = if key = k then none else findEntry k entries := by
  induction entries with
  | nil => simp [eraseEntry, findEntry]
  | cons head rest ih =>
    obtain ⟨k', v⟩ := head
    simp only [eraseEntry] at ih
    by_cases hk : k' = key
    · subst hk; simp only [eraseEntry, List.filter_cons, findEntry]; grind
    · simp only [eraseEntry, List.filter_cons, findEntry]; grind [findEntry]

theorem findEntry_eq_some_iff {entries : List (Nat × α)}
    (h : entries.Pairwise (fun a b => a.1 < b.1)) {key : Nat} {value : α} :
    findEntry key entries = some value ↔ (key, value) ∈ entries := by
  induction entries with
  | nil => simp [findEntry]
  | cons head rest ih =>
    obtain ⟨k, v⟩ := head
    obtain ⟨hhead, hrest⟩ := List.pairwise_cons.1 h
    by_cases hk : k = key
    · subst hk
      simp only [findEntry, if_true, Option.some.injEq, List.mem_cons, Prod.mk.injEq, true_and]
      constructor
      · exact fun hv => .inl hv.symm
      · rintro (hv | hm)
        · exact hv.symm
        · exact absurd (hhead _ hm) (Nat.lt_irrefl _)
    · simp [findEntry, hk, ih hrest, Ne.symm hk]

/-! ### Maps -/

/-- The map without entries. -/
def empty : SortedMap α := ⟨[], .nil⟩

instance : Inhabited (SortedMap α) := ⟨empty⟩

/-- The value at `key`, if there is one. -/
def find? (m : SortedMap α) (key : Nat) : Option α :=
  findEntry key m.entries

/-- The map with `value` at `key`, in place of what was there. -/
def insert (m : SortedMap α) (key : Nat) (value : α) : SortedMap α :=
  ⟨insertEntry key value m.entries, ascending_insertEntry key value m.ascending⟩

/-- The map without an entry at `key`. -/
def erase (m : SortedMap α) (key : Nat) : SortedMap α :=
  ⟨eraseEntry key m.entries, m.ascending.filter _⟩

/-- The values, in ascending order of their keys. -/
def values (m : SortedMap α) : List α :=
  m.entries.map Prod.snd

/-- The number of entries. -/
def size (m : SortedMap α) : Nat :=
  m.entries.length

@[simp] theorem find?_empty (key : Nat) : (empty : SortedMap α).find? key = none := rfl

theorem find?_insert (m : SortedMap α) (key : Nat) (value : α) (k : Nat) :
    (m.insert key value).find? k = if key = k then some value else m.find? k :=
  findEntry_insertEntry key value m.entries k

@[simp] theorem find?_insert_self (m : SortedMap α) (key : Nat) (value : α) :
    (m.insert key value).find? key = some value := by
  simp [find?_insert]

theorem find?_insert_of_ne (m : SortedMap α) {key k : Nat} (value : α) (h : key ≠ k) :
    (m.insert key value).find? k = m.find? k := by
  simp [find?_insert, h]

theorem find?_erase (m : SortedMap α) (key k : Nat) :
    (m.erase key).find? k = if key = k then none else m.find? k :=
  findEntry_eraseEntry key m.entries k

@[simp] theorem find?_erase_self (m : SortedMap α) (key : Nat) :
    (m.erase key).find? key = none := by
  simp [find?_erase]

theorem find?_erase_of_ne (m : SortedMap α) {key k : Nat} (h : key ≠ k) :
    (m.erase key).find? k = m.find? k := by
  simp [find?_erase, h]

/-- **The entries are what is found**: a map holds a value at a key exactly if it lists it there. -/
theorem mem_entries_iff {m : SortedMap α} {key : Nat} {value : α} :
    (key, value) ∈ m.entries ↔ m.find? key = some value :=
  (findEntry_eq_some_iff m.ascending).symm

/-- **One form**: maps that hold the same value at every key are equal. -/
theorem ext_find? {m n : SortedMap α} (h : ∀ k, m.find? k = n.find? k) : m = n := by
  obtain ⟨xs, hx⟩ := m
  obtain ⟨ys, hy⟩ := n
  have hmem : ∀ e, e ∈ xs ↔ e ∈ ys := fun e => by
    rw [← findEntry_eq_some_iff hx, ← findEntry_eq_some_iff hy]
    exact iff_of_eq (congrArg (· = some e.2) (h e.1))
  congr
  induction xs generalizing ys with
  | nil =>
    cases ys with
    | nil => rfl
    | cons y ys => exact absurd ((hmem y).2 List.mem_cons_self) (by simp)
  | cons x xs ih =>
    cases ys with
    | nil => exact absurd ((hmem x).1 List.mem_cons_self) (by simp)
    | cons y ys =>
      obtain ⟨hxh, hxr⟩ := List.pairwise_cons.1 hx
      obtain ⟨hyh, hyr⟩ := List.pairwise_cons.1 hy
      have hxy : x = y := by
        rcases List.mem_cons.1 ((hmem x).1 List.mem_cons_self) with hx' | hx'
        · exact hx'
        · rcases List.mem_cons.1 ((hmem y).2 List.mem_cons_self) with hy' | hy'
          · exact hy'.symm
          · exact absurd (Nat.lt_trans (hyh x hx') (hxh y hy')) (Nat.lt_irrefl _)
      subst hxy
      have hmem' : ∀ e, e ∈ xs ↔ e ∈ ys := fun e => by
        constructor
        · intro he
          rcases List.mem_cons.1 ((hmem e).1 (List.mem_cons_of_mem _ he)) with rfl | he'
          · exact absurd (hxh _ he) (Nat.lt_irrefl _)
          · exact he'
        · intro he
          rcases List.mem_cons.1 ((hmem e).2 (List.mem_cons_of_mem _ he)) with rfl | he'
          · exact absurd (hyh _ he) (Nat.lt_irrefl _)
          · exact he'
      have hfind : ∀ k, findEntry k xs = findEntry k ys := fun k => by
        cases hk : findEntry k xs with
        | none =>
          cases hk' : findEntry k ys with
          | none => rfl
          | some v =>
            rw [(findEntry_eq_some_iff hxr).2
              ((hmem' _).2 ((findEntry_eq_some_iff hyr).1 hk'))] at hk
            cases hk
        | some v =>
          exact ((findEntry_eq_some_iff hyr).2
            ((hmem' _).1 ((findEntry_eq_some_iff hxr).1 hk))).symm
      rw [ih hxr ys hyr hfind hmem']

end SortedMap

end Exokernel
