/-
Calls of a process on its own pages that succeed.

* `executed_pageAlloc_self`: a fresh page, if there are frames for it;
* `executed_pageMap_self`: a page that is shown at another page with a page table;
* `executed_pageUnmap_self`: a page that is hidden.
-/
import Exokernel.Proofs.Kernel.Requests
import Exokernel.Proofs.Memory.Provisions

namespace Exokernel.Kernel

open Layout

variable {k : Kernel} {id : ProcessId} {cpu n s : Nat} {va srcVa : VirtAddr} {perm : Perm}
  {e : Mapping}

/-- **A fresh page** that a process asks for is given, if there are frames for it. -/
lemma executed_pageAlloc_self (hs : k.spaceOf? id = some s) (hva : va.isMappable = true)
    (hperm : perm.isRequestable = true) (hfree : k.machine.Provided s va.page (n + 1)) :
    k.execute cpu id (.pageAlloc .self va perm) =
      (.answer (.ok 0), { k with machine := (k.machine.mapZeroed s va perm).2 }) := by
  have hok : (k.machine.mapZeroed s va perm).1 = .ok () :=
    (hfree.mapZeroed (lt_userTop_of_isMappable hva)).1
  have hspace : k.allocSpace id .self va perm = .ok s :=
    allocSpace_ok_iff.2 ⟨hva, hperm, id, rfl, hs⟩
  rw [execute, pageAlloc, hspace]
  dsimp only
  rw [hok]
  rfl

/-- **A page of a process** that it shows at another one, where a page table is. -/
lemma executed_pageMap_self (hs : k.spaceOf? id = some s) (hsrc : srcVa.isMappable = true)
    (hva : va.isMappable = true) (hperm : perm.isRequestable = true)
    (he : k.machine.mapping? s srcVa.page = some e)
    (hwrite : perm.contains .writable = true → e.perm.contains .writable = true)
    (htable : k.machine.HasTable s va.page) :
    k.execute cpu id (.pageMap .self srcVa .self va perm) = (.answer (.ok 0), { k with
      machine := ((k.machine.retain e.frame).setPage s e.frame va perm).release e.frame }) := by
  have hsharable : k.sharable id srcVa perm = .ok e.frame :=
    (sharable_ok_iff (lt_userTop_of_isMappable hsrc)).2 ⟨s, e, hs, he, rfl, hwrite⟩
  have harguments : k.mapArguments id .self srcVa .self va perm = .ok (e.frame, id) :=
    mapArguments_ok_iff.2 ⟨hsrc, hva, hperm, id, rfl, rfl, hsharable⟩
  have hretained : (k.machine.retain e.frame).HasTable s va.page := htable.congr rfl
  have hmap : (k.machine.retain e.frame).map s e.frame va perm =
      .ok ((k.machine.retain e.frame).setPage s e.frame va perm) :=
    Machine.map_of_hasTable hretained (lt_userTop_of_isMappable hva)
  have hkept : mapKept { k with machine := k.machine.retain e.frame } id e.frame va perm =
      .ok { k with machine := (k.machine.retain e.frame).setPage s e.frame va perm } := by
    refine bind_ok_iff.2 ⟨s, spaceOf_ok_iff.2 hs, ?_⟩
    change withMachine _ ((k.machine.retain e.frame).map s e.frame va perm) = _
    rw [hmap]
    rfl
  rw [execute, pageMap, harguments]
  dsimp only
  rw [holding]
  dsimp only
  rw [hkept]
  rfl

/-- **A page of a process** that it hides. -/
lemma executed_pageUnmap_self (hs : k.spaceOf? id = some s) (hva : va.isMappable = true) :
    k.execute cpu id (.pageUnmap .self va) =
      (.answer (.ok 0), { k with machine := k.machine.unmap s va }) := by
  have hunmap : k.pageUnmap id .self va = .ok { k with machine := k.machine.unmap s va } :=
    bind_ok_iff.2 ⟨(), checkAddress_ok_iff.2 hva, bind_ok_iff.2 ⟨id, rfl,
      bind_ok_iff.2 ⟨s, spaceOf_ok_iff.2 hs, rfl⟩⟩⟩
  rw [execute, hunmap]
  rfl

end Exokernel.Kernel
