/-
What a change of a sorted map does to its entries and its values, whatever their order.

* `SortedMap.entries_perm_of_find?`: an entry that is found can be taken out of the list of entries;
* `SortedMap.entries_insert_perm`: an entry that is put in replaces the one that was there;
* `SortedMap.flatMap_values_of_find?`, `SortedMap.flatMap_values_insert`: the same for whatever the
  values stand for, in the form in which the frames of all address spaces are counted.
-/
import Mathlib.Tactic.Common
import Exokernel.SortedMap

namespace Exokernel.SortedMap

variable {α β : Type} {m : SortedMap α} {k : Nat} {v : α}

/-- An entry that is listed can be taken out: what remains is the list without its key. -/
lemma perm_cons_eraseEntry {entries : List (Nat × α)}
    (hasc : entries.Pairwise (fun a b => a.1 < b.1)) (hmem : (k, v) ∈ entries) :
    entries.Perm ((k, v) :: eraseEntry k entries) := by
  induction entries with
  | nil => cases hmem
  | cons head rest ih =>
    obtain ⟨hhead, hrest⟩ := List.pairwise_cons.1 hasc
    rcases List.mem_cons.1 hmem with rfl | hmem
    · -- every later key is greater, so nothing of the rest goes with the head
      have hkeep : eraseEntry k rest = rest :=
        List.filter_eq_self.2 fun e he => by simpa using (Nat.ne_of_gt (hhead e he))
      rw [eraseEntry, List.filter_cons_of_neg (by simp)]
      exact (List.Perm.of_eq hkeep.symm).cons _
    · have hne : head.1 ≠ k := Nat.ne_of_lt (hhead _ hmem)
      rw [eraseEntry, List.filter_cons_of_pos (by simpa using hne)]
      exact ((ih hrest hmem).cons head).trans (List.Perm.swap _ _ _)

/-- **An entry that is found** can be taken out of the list of entries. -/
lemma entries_perm_of_find? (h : m.find? k = some v) :
    m.entries.Perm ((k, v) :: (m.erase k).entries) :=
  perm_cons_eraseEntry m.ascending (mem_entries_iff.2 h)

/-- Taking away what is not there changes nothing. -/
lemma erase_of_find?_none (h : m.find? k = none) : m.erase k = m := by
  refine ext_find? fun i => ?_
  rw [find?_erase]
  split
  · next hk => rw [← hk, h]
  · rfl

/-- What was put in under a key goes when the key goes. -/
lemma erase_insert : (m.insert k v).erase k = m.erase k := by
  refine ext_find? fun i => ?_
  simp only [find?_erase, find?_insert]
  split <;> rfl

/-- **An entry that is put in** replaces the one that was there. -/
lemma entries_insert_perm : (m.insert k v).entries.Perm ((k, v) :: (m.erase k).entries) := by
  have h := entries_perm_of_find? (m.find?_insert_self k v)
  rwa [erase_insert] at h

lemma values_perm_of_find? (h : m.find? k = some v) : m.values.Perm (v :: (m.erase k).values) :=
  (entries_perm_of_find? h).map Prod.snd

lemma values_insert_perm : (m.insert k v).values.Perm (v :: (m.erase k).values) :=
  entries_insert_perm.map Prod.snd

lemma flatMap_values_of_find? (f : α → List β) (h : m.find? k = some v) :
    (m.values.flatMap f).Perm (f v ++ (m.erase k).values.flatMap f) :=
  (values_perm_of_find? h).flatMap_right f

lemma flatMap_values_insert (f : α → List β) :
    ((m.insert k v).values.flatMap f).Perm (f v ++ (m.erase k).values.flatMap f) :=
  values_insert_perm.flatMap_right f

/-- A value is listed exactly if it is found under some key. -/
lemma mem_values_iff : v ∈ m.values ↔ ∃ k, m.find? k = some v := by
  simp only [values, List.mem_map, Prod.exists, mem_entries_iff]
  exact ⟨fun ⟨k, _, h, rfl⟩ => ⟨k, h⟩, fun ⟨k, h⟩ => ⟨k, v, h, rfl⟩⟩

end Exokernel.SortedMap
