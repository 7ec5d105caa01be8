/-
System calls as moves.

* `Kernel.Owns`: the slots that a process may change: its own, those of its children, and free ones;
* `Deed.Own`, `CallDeed`: what a process and its calls may come to;
* `Kernel.allocateAs_takes`: a process that is made takes the first free slot;
* `Kernel.exofork_cases`, `Kernel.setStatus_cases` and their like: what a call that succeeds has
  found, and what it leaves;
* `Kernel.setStatus_move`, `Kernel.pageMap_cases`, `Kernel.trySend_cases` and their like: what each
  call comes to;
* `Kernel.execute_moves`: **a call of a process** comes to such deeds only, and a processor whose
  process gave it up claims nothing.
-/
import Exokernel.Kernel.Dispatch
import Exokernel.Proofs.Kernel.Teardown

namespace Exokernel

/-- Something that succeeds, succeeds in both its steps. -/
lemma bind_ok {ε α β : Type} {x : Except ε α} {f : α → Except ε β} {b : β}
    (h : x >>= f = .ok b) : ∃ a, x = .ok a ∧ f a = .ok b := by
  cases x with
  | error e => cases h
  | ok a => exact ⟨a, rfl, h⟩

/-- It does so exactly if both succeed. -/
lemma bind_ok_iff {ε α β : Type} {x : Except ε α} {f : α → Except ε β} {b : β} :
    x >>= f = .ok b ↔ ∃ a, x = .ok a ∧ f a = .ok b := by
  refine ⟨bind_ok, ?_⟩
  rintro ⟨a, rfl, h⟩
  exact h

namespace Kernel

variable {k k' : Kernel} {caller target id : ProcessId} {p : Process} {cpu : Nat}
  {A : Deed → Prop} {va : VirtAddr} {perm : Perm}

/-! ### Whom a process may mean -/

/-- A slot is the process's own, or a child's, or free. -/
def Owns (k : Kernel) (caller : ProcessId) (slot : Nat) : Prop :=
  ∀ p : Process, k.table.records[slot]? = some p →
    p.status = .free ∨ p.id = caller ∨ p.parent = caller

lemma resolve_cases {related : Bool} (h : k.resolve caller target related = .ok id) :
    id = caller ∨ id = target ∧ ∃ p, k.live? id = some p ∧
      (related = true → id = caller ∨ p.parent = caller) := by
  rw [resolve, ProcessTable.resolve] at h
  split at h
  · cases h
    exact .inl rfl
  · split at h
    · cases h
    · next p hp =>
      split at h
      · cases h
      · next hnot =>
        cases h
        refine .inr ⟨rfl, p, hp, fun hrel => ?_⟩
        by_contra hneither
        rw [not_or] at hneither
        exact hnot ⟨hrel, hneither⟩

/-- Whom a process may mean, it owns. -/
lemma owns_of_resolve (hcaller : k.live? caller = some p)
    (h : k.resolve caller target true = .ok id) : k.Owns caller id.slot := by
  intro q hq
  rcases resolve_cases h with rfl | ⟨rfl, r, hr, hrel⟩
  · rw [(live?_eq_some_iff.1 hcaller).1] at hq
    cases hq
    exact .inr (.inl (live?_eq_some_iff.1 hcaller).2.1)
  · rw [(live?_eq_some_iff.1 hr).1] at hq
    cases hq
    have hid := (live?_eq_some_iff.1 hr).2.1
    exact .inr ((hrel rfl).imp_left hid.trans)

/-- Whom a process means, is live, if it is so itself. -/
lemma live?_of_resolve {related : Bool} (hcaller : k.live? caller = some p)
    (h : k.resolve caller target related = .ok id) : ∃ q, k.live? id = some q := by
  rcases resolve_cases h with rfl | ⟨-, q, hq, -⟩
  · exact ⟨p, hcaller⟩
  · exact ⟨q, hq⟩

lemma get_ok {q : Process} (h : k.table.get id = .ok q) : k.live? id = some q := by
  rw [ProcessTable.get] at h
  rw [live?]
  split at h
  · cases h
  · next hq => cases h; exact hq

lemma spaceOf_ok_iff {s : Nat} : k.spaceOf id = .ok s ↔ k.spaceOf? id = some s := by
  rw [spaceOf]
  cases k.spaceOf? id <;> simp

/-! ### Calls about the family -/

/-- **A process that is made** takes the first free slot, and its identity is the next one of that
slot. -/
lemma allocateAs_takes (hk : k.Sound) {parent : ProcessId} {status : ProcessStatus}
    (h : k.allocateAs parent status = .ok (id, k')) :
    ∃ (q : Process) (rest : List Nat) (s : Nat) (machine : Machine),
      k.table.records[id.slot]? = some q ∧ q.status = .free ∧ k.table.free = id.slot :: rest ∧
      k.machine.createSpace = .ok (s, machine) ∧ id = (k.table.lastId id.slot).next id.slot ∧
      k' = { k with machine, table := { (k.table.modify id.slot fun _ =>
        { id, parent, status, space := some s,
          frame := .initial (UInt32.ofNat Layout.stackTop) }) with free := rest } } := by
  obtain ⟨slot, rest, s, machine, hfree, hcreate, hid, rfl⟩ := allocateAs_cases h
  obtain ⟨q, hq, hqs⟩ := (hk.tables.mem_free_iff slot).1 (hfree ▸ List.mem_cons_self)
  have hlt : slot < ProcessId.slotCount :=
    Nat.lt_of_lt_of_le (Array.getElem?_eq_some_iff.1 hq).1 hk.tables.small
  have hslot : id.slot = slot := hid ▸ ProcessId.slot_next _ hlt
  subst hslot
  exact ⟨q, rest, s, machine, hq, hqs, hfree, hcreate, hid, rfl⟩

/-- The slot of a process that is made was free. -/
lemma free_of_allocateAs (hk : k.Sound) {parent : ProcessId} {status : ProcessStatus}
    (h : k.allocateAs parent status = .ok (id, k')) :
    ∃ q : Process, k.table.records[id.slot]? = some q ∧ q.status = .free := by
  obtain ⟨q, rest, s, machine, hq, hqs, -⟩ := allocateAs_takes hk h
  exact ⟨q, hq, hqs⟩

/-- A process that is made is live and bound nowhere. -/
lemma live?_of_allocateAs (hk : k.Sound) {parent : ProcessId} {status : ProcessStatus}
    (hlive : status.isLive) (h : k.allocateAs parent status = .ok (id, k')) :
    ∃ s, k'.live? id = some { id, parent, status, space := some s,
                              frame := .initial (UInt32.ofNat Layout.stackTop) } := by
  obtain ⟨q, rest, s, machine, hq, -, -, -, -, rfl⟩ := allocateAs_takes hk h
  refine ⟨s, live?_eq_some_iff.2 ⟨?_, rfl, hlive⟩⟩
  change (k.table.modify id.slot _).records[id.slot]? = _
  rw [ProcessTable.getElem?_modify, if_pos rfl, hq]
  rfl

/-- A process that is made shows nothing, and neither does whose address space it takes over.
Everything else stays as it is. -/
lemma allocateAs_effect (hk : k.Sound) {parent : ProcessId} {status : ProcessStatus}
    (h : k.allocateAs parent status = .ok (id, k')) :
    k.live? id = none ∧ (∀ other s, k'.spaceOf? other = some s →
      other = id ∧ s = k.machine.spaces.nextId.toNat ∨ k.spaceOf? other = some s) ∧
      (∀ s page, k'.machine.mapping? s page =
        if k.machine.spaces.nextId.toNat = s then none else k.machine.mapping? s page) ∧
      ∀ n, k'.machine.frames.contents? n = k.machine.frames.contents? n := by
  obtain ⟨q, rest, s, machine, hq, hfree, -, hcreate, -, rfl⟩ := allocateAs_takes hk h
  have hmap := Machine.mapping?_createSpace hcreate
  obtain ⟨directory, frames, hall, hnumber, hmachine⟩ := Machine.createSpace_cases hcreate
  refine ⟨?_, fun other s' hs' => ?_, fun s' page => hnumber ▸ hmap s' page, fun n => ?_⟩
  · cases hlive : k.live? id with
    | none => rfl
    | some p =>
      obtain ⟨hrec, -, hp⟩ := live?_eq_some_iff.1 hlive
      rw [hq] at hrec
      cases hrec
      exact absurd hfree (ProcessStatus.ne_free_of_isLive hp)
  · obtain ⟨p, hp, hspace⟩ := spaceOf?_eq_some_iff.1 hs'
    obtain ⟨hrec, hpid, hlive⟩ := live?_eq_some_iff.1 hp
    change (k.table.modify id.slot _).records[other.slot]? = some p at hrec
    rw [ProcessTable.getElem?_modify] at hrec
    split at hrec
    · obtain ⟨r', -, rfl⟩ := Option.map_eq_some_iff.1 hrec
      cases hspace
      exact .inl ⟨hpid.symm, hnumber⟩
    · exact .inr (spaceOf?_eq_some_iff.2 ⟨p, live?_eq_some_iff.2 ⟨hrec, hpid, hlive⟩, hspace⟩)
  · change machine.frames.contents? n = _
    rw [hmachine]
    exact Machine.contents?_allocOwned? hall

/-- An exofork that succeeds. -/
lemma exofork_cases {answer : UInt32} (h : k.exofork caller = .ok (answer, k')) :
    ∃ parent child k₁, k.live? caller = some parent ∧
      k.allocateAs caller .notRunnable = .ok (child, k₁) ∧ answer = child.raw ∧
      k' = (k₁.modify child fun p => { p with frame := parent.frame.withResult 0 }).log .debug
        s!"[{caller}] exofork -> {child}" := by
  rw [exofork] at h
  obtain ⟨parent, hget, h⟩ := bind_ok h
  obtain ⟨⟨child, k₁⟩, hmade, h⟩ := bind_ok h
  cases h
  exact ⟨parent, child, k₁, get_ok hget, hmade, rfl, rfl⟩

/-- **An exofork** makes a child, and gives it the registers of its parent. -/
lemma exofork_moves (hk : k.Sound) {answer : UInt32} (h : k.exofork caller = .ok (answer, k'))
    (hq : A .quiet) (hmake : A (.make (some caller) k.machine.spaces.nextId))
    (hedit : ∀ (id : ProcessId) (p : Process), k.table.records[id.slot]? = some p →
      p.status = .free → A (.edit id)) : Moves A k k' := by
  obtain ⟨parent, child, k₁, hparent, hmade, -, rfl⟩ := exofork_cases h
  obtain ⟨q, hfree, hs⟩ := free_of_allocateAs hk hmade
  obtain ⟨s, hlive⟩ := live?_of_allocateAs hk rfl hmade
  have hmove : k.Move (.make (some caller) k.machine.spaces.nextId) k₁ := by
    refine .make (fun id hid => ?_) (.inr rfl) hmade
    cases hid
    rw [hparent]
    rfl
  have hframe : k₁.Move (.edit child) (k₁.modify child fun p =>
      { p with frame := parent.frame.withResult 0 }) :=
    .edit_of_same hlive rfl rfl rfl rfl rfl rfl
  exact ((Moves.one hmake hmove).trans (.one (hedit child q hfree hs) hframe)).trans
    (.quiet hq (quiet_log _ _))

lemma edit_withStatus (hlive : p.status.isLive) {status : ProcessStatus}
    (hs : status = .runnable ∨ status = .notRunnable) : p.Edit (withStatus p status) := by
  rw [withStatus]
  split
  · exact ⟨rfl, rfl, rfl, rfl, hlive, fun h => h, fun hblocked => hblocked, rfl⟩
  · split
    · next hrun =>
      subst hrun
      exact ⟨rfl, rfl, rfl, rfl, rfl, nofun, fun _ => nofun, rfl⟩
    · next hrun =>
      obtain rfl := hs.resolve_left hrun
      exact ⟨rfl, rfl, rfl, rfl, rfl, nofun, fun _ _ => rfl, rfl⟩

/-- A status that is set opens no mailbox. -/
lemma receiving_withStatus {status : ProcessStatus}
    (h : (withStatus p status).mailbox.receiving) : p.mailbox.receiving := by
  rw [withStatus] at h
  split at h
  · exact h
  · split at h
    · cases h
    · exact h

/-- A status that is set. -/
lemma setStatus_cases {status : ProcessStatus} (h : k.setStatus caller target status = .ok k') :
    ∃ id q, (status = .runnable ∨ status = .notRunnable) ∧
      k.resolve caller target true = .ok id ∧ k.live? id = some q ∧
      k' = k.modify id (withStatus · status) := by
  rw [setStatus] at h
  split at h
  · next hs =>
    obtain ⟨id, hres, h⟩ := bind_ok h
    obtain ⟨q, hget, h⟩ := bind_ok h
    cases h
    exact ⟨id, q, hs, hres, get_ok hget, rfl⟩
  · cases h

/-- **A status that is set** is an edit of a process that the caller owns. -/
lemma setStatus_move {status : ProcessStatus} (h : k.setStatus caller target status = .ok k') :
    ∃ id, k.resolve caller target true = .ok id ∧ k.Move (.edit id) k' := by
  obtain ⟨id, q, hs, hres, hq, rfl⟩ := setStatus_cases h
  exact ⟨id, hres, .edit hq (edit_withStatus (live?_eq_some_iff.1 hq).2.2 hs)
    receiving_withStatus⟩

/-- A fault handler that is set. -/
lemma setFaultHandler_cases {entry : VirtAddr}
    (h : k.setFaultHandler caller target entry = .ok k') :
    ∃ id q, k.resolve caller target true = .ok id ∧ k.live? id = some q ∧
      k' = k.modify id fun p => { p with faultHandler := some entry } := by
  rw [setFaultHandler] at h
  obtain ⟨id, hres, h⟩ := bind_ok h
  obtain ⟨q, hget, h⟩ := bind_ok h
  cases h
  exact ⟨id, q, hres, get_ok hget, rfl⟩

/-- **A fault handler that is set** is an edit of a process that the caller owns. -/
lemma setFaultHandler_move {entry : VirtAddr}
    (h : k.setFaultHandler caller target entry = .ok k') :
    ∃ id, k.resolve caller target true = .ok id ∧ k.Move (.edit id) k' := by
  obtain ⟨id, q, hres, hq, rfl⟩ := setFaultHandler_cases h
  exact ⟨id, hres, .edit_of_same hq rfl rfl rfl rfl rfl rfl⟩

/-- A frame that is set, out of the memory of the caller. -/
lemma setFrame_cases (h : k.setFrame caller target va = .ok k') :
    ∃ id bytes q, k.resolve caller target true = .ok id ∧
      k.readCaller caller va TrapFrame.size = .ok bytes ∧ k.live? id = some q ∧
      k' = k.modify id fun p => { p with frame := (TrapFrame.ofBytes bytes).forUser } := by
  rw [setFrame] at h
  split at h
  · cases h
  · next id hres =>
    split at h
    · cases h
    · next bytes hread =>
      split at h
      · cases h
      · next q hq =>
        cases h
        exact ⟨id, bytes, q, hres, hread, hq, rfl⟩

/-- **A frame that is set** is an edit of a process that the caller owns. -/
lemma setFrame_move (h : k.setFrame caller target va = .ok k') :
    ∃ id, k.resolve caller target true = .ok id ∧ k.Move (.edit id) k' := by
  obtain ⟨id, bytes, q, hres, -, hq, rfl⟩ := setFrame_cases h
  exact ⟨id, hres, .edit_of_same hq rfl rfl rfl rfl rfl rfl⟩

/-- Printing changes nothing but the console. -/
lemma putString_quiet {len : UInt32} (h : k.putString caller va len = .ok k') : k.Quiet k' := by
  rw [putString] at h
  split at h
  · cases h
  · cases h
    exact quiet_print _

/-! ### Calls about pages -/

/-- What can be mapped lies below `Layout.userTop`. -/
lemma lt_userTop_of_isMappable (h : va.isMappable = true) : va.toNat < Layout.userTop := by
  rw [VirtAddr.isMappable, Bool.and_eq_true, decide_eq_true_eq] at h
  exact h.1

lemma checkAddress_ok_iff {u : Unit} : checkAddress va = .ok u ↔ va.isMappable = true := by
  rw [checkAddress]
  cases va.isMappable <;> simp

lemma checkPerm_ok_iff {u : Unit} : checkPerm perm = .ok u ↔ perm.isRequestable = true := by
  rw [checkPerm]
  cases perm.isRequestable <;> simp

/-- Where a fresh page is to go: the address and the permissions are in order, and the caller may
mean the process. -/
lemma allocSpace_ok_iff {s : Nat} : k.allocSpace caller target va perm = .ok s ↔
    va.isMappable = true ∧ perm.isRequestable = true ∧
      ∃ id, k.resolve caller target true = .ok id ∧ k.spaceOf? id = some s := by
  simp only [allocSpace, bind_ok_iff, checkAddress_ok_iff, checkPerm_ok_iff, spaceOf_ok_iff,
    exists_const]

/-- **A fresh page** is work on the memory of a process that the caller owns. -/
lemma pageAlloc_cases : (k.pageAlloc caller target va perm).2 = k ∨ ∃ id s,
    k.resolve caller target true = .ok id ∧ k.spaceOf? id = some s ∧
      perm.isRequestable = true ∧ (k.pageAlloc caller target va perm).2 =
        { k with machine := (k.machine.mapZeroed s va perm).2 } := by
  rw [pageAlloc]
  split
  · exact .inl rfl
  · next s hs =>
    obtain ⟨-, hperm, id, hres, hs⟩ := allocSpace_ok_iff.1 hs
    exact .inr ⟨id, s, hres, hs, hperm, rfl⟩

/-- A page that may be shown elsewhere shows a frame, and lets user code write it if it is to be
written there. -/
lemma sharable_ok_iff {owner : ProcessId} {frame : Nat} (hva : va.toNat < Layout.userTop) :
    k.sharable owner va perm = .ok frame ↔ ∃ s e, k.spaceOf? owner = some s ∧
      k.machine.mapping? s va.page = some e ∧ e.frame = frame ∧
      (perm.contains .writable = true → e.perm.contains .writable = true) := by
  simp only [sharable, bind_ok_iff, spaceOf_ok_iff, Machine.lookup?_of_lt hva]
  constructor
  · rintro ⟨s, hs, h⟩
    split at h
    · cases h
    · next e he =>
      split at h
      · cases h
      · next hnot =>
        cases h
        exact ⟨s, e, hs, he, rfl, fun hwritable => by_contra fun hc => hnot ⟨hwritable, hc⟩⟩
  · rintro ⟨s, e, hs, he, rfl, hwritable⟩
    refine ⟨s, hs, ?_⟩
    rw [he]
    exact if_neg fun hc => hc.2 (hwritable hc.1)

/-- A frame that a call may show elsewhere. -/
lemma offers_of_sharable {owner : ProcessId} {frame : Nat} (hva : va.isMappable = true)
    (hperm : perm.isRequestable = true) (h : k.sharable owner va perm = .ok frame) :
    k.machine.Offers frame perm := by
  obtain ⟨s, e, -, he, hframe, hwritable⟩ :=
    (sharable_ok_iff (lt_userTop_of_isMappable hva)).1 h
  exact ⟨hperm, s, va.page, e, he, hframe, hwritable⟩

lemma withMachine_ok {r : Except MachineError Machine} (h : k.withMachine r = .ok k') :
    ∃ m, r = .ok m ∧ k' = { k with machine := m } := by
  cases r with
  | error e => cases h
  | ok m =>
    cases h
    exact ⟨m, rfl, rfl⟩

/-- What is to be shown, and where: the addresses and the permissions are in order, the caller may
mean both processes, and the page may be shown. -/
lemma mapArguments_ok_iff {src : ProcessId} {srcVa : VirtAddr} {frame : Nat} :
    k.mapArguments caller src srcVa target va perm = .ok (frame, id) ↔
      srcVa.isMappable = true ∧ va.isMappable = true ∧ perm.isRequestable = true ∧
        ∃ owner, k.resolve caller src true = .ok owner ∧
          k.resolve caller target true = .ok id ∧ k.sharable owner srcVa perm = .ok frame := by
  simp only [mapArguments, bind_ok_iff, checkAddress_ok_iff, checkPerm_ok_iff, exists_const]
  refine and_congr_right fun _ => and_congr_right fun _ => and_congr_right fun _ =>
    exists_congr fun owner => and_congr_right fun _ => ?_
  constructor
  · rintro ⟨dst, hres, n, hshare, h⟩
    cases h
    exact ⟨hres, hshare⟩
  · exact fun ⟨hres, hshare⟩ => ⟨id, hres, frame, hshare, rfl⟩

lemma offers_of_mapArguments {src : ProcessId} {srcVa : VirtAddr} {frame : Nat}
    (h : k.mapArguments caller src srcVa target va perm = .ok (frame, id)) :
    k.machine.Offers frame perm := by
  obtain ⟨hsrc, -, hperm, owner, -, -, hshare⟩ := mapArguments_ok_iff.1 h
  exact offers_of_sharable hsrc hperm hshare

lemma mapKept_ok {frame : Nat} (h : k.mapKept target frame va perm = .ok k') :
    ∃ s m, k.spaceOf? target = some s ∧ k.machine.map s frame va perm = .ok m ∧
      k' = { k with machine := m } := by
  rw [mapKept] at h
  obtain ⟨s, hs, h⟩ := bind_ok h
  obtain ⟨m, hm, rfl⟩ := withMachine_ok h
  exact ⟨s, m, spaceOf_ok_iff.1 hs, hm, rfl⟩

/-- A live process has an address space. -/
lemma spaceOf?_of_live? (hk : k.Sound) (hp : k.live? id = some p) :
    ∃ s, k.spaceOf? id = some s := by
  obtain ⟨hrec, -, hlive⟩ := live?_eq_some_iff.1 hp
  obtain ⟨s, hs⟩ := Option.isSome_iff_exists.1
    ((hk.tables.sound _ p hrec).space_iff.2 (ProcessStatus.ne_free_of_isLive hlive))
  exact ⟨s, spaceOf?_eq_some_iff.2 ⟨p, hp, hs⟩⟩

/-- **A page that is shown in another process** comes to be shown in one that the caller owns. -/
lemma pageMap_cases {src : ProcessId} {srcVa : VirtAddr} (hk : k.Sound)
    (hcaller : k.live? caller = some p) :
    (k.pageMap caller src srcVa target va perm).2 = k ∨ ∃ id,
      k.resolve caller target true = .ok id ∧
        k.Move (.remap id) (k.pageMap caller src srcVa target va perm).2 := by
  rw [pageMap]
  split
  · exact .inl rfl
  · next frame id hargs =>
    have hframe := offers_of_mapArguments hargs
    obtain ⟨-, -, -, -, -, hres, -⟩ := mapArguments_ok_iff.1 hargs
    obtain ⟨q, hq⟩ := live?_of_resolve hcaller hres
    obtain ⟨s, hs⟩ := spaceOf?_of_live? hk hq
    refine .inr ⟨id, hres, ?_⟩
    rw [holding]
    cases hkept : mapKept { k with machine := k.machine.retain frame } id frame va perm with
    | error e =>
      exact .remap hs (.kept hframe.shown)
    | ok k₁ =>
      obtain ⟨s', m, hs', hm, rfl⟩ := mapKept_ok hkept
      exact .remap (k := k) hs' (.mapKept hframe hm)

/-- A page that is taken away. -/
lemma pageUnmap_cases (h : k.pageUnmap caller target va = .ok k') :
    ∃ id s, va.isMappable = true ∧ k.resolve caller target true = .ok id ∧
      k.spaceOf? id = some s ∧ k' = { k with machine := k.machine.unmap s va } := by
  simp only [pageUnmap, bind_ok_iff, checkAddress_ok_iff, spaceOf_ok_iff, exists_const] at h
  obtain ⟨hva, id, hres, s, hs, h⟩ := h
  cases h
  exact ⟨id, s, hva, hres, hs, rfl⟩

/-- **A page that is taken away** is taken from a process that the caller owns. -/
lemma pageUnmap_move (h : k.pageUnmap caller target va = .ok k') :
    ∃ id, k.resolve caller target true = .ok id ∧ k.Move (.remap id) k' := by
  obtain ⟨id, s, -, hres, hs, rfl⟩ := pageUnmap_cases h
  exact ⟨id, hres, .remap hs (.unmap va)⟩

/-! ### Messages -/

/-- A delivery to a process that waits, without a page or with one that is kept meanwhile. -/
lemma deliver_ok {value : UInt32} {page : Option Nat} {shown : Perm}
    (h : k.deliver caller target value page perm = .ok (shown, k')) :
    ∃ q m, k.live? target = some q ∧ q.mailbox.receiving ∧
      ({ k with machine := m }.modify target fun p => { p with
        mailbox := deliveredMail caller value shown, status := .runnable }).Quiet k' ∧
      (m = k.machine ∧ shown = .none ∧ (page.isSome && q.mailbox.dstVa.isSome) = false ∨
        ∃ s frame dstVa, q.space = some s ∧ q.mailbox.dstVa = some dstVa ∧ page = some frame ∧
          shown = perm ∧ k.machine.map s frame dstVa perm = .ok m) := by
  rw [deliver] at h
  obtain ⟨q, hget, h⟩ := bind_ok h
  have hq := get_ok hget
  split at h
  · next hopen =>
    dsimp only at h
    split at h
    · next frame dstVa hdst _ =>
      obtain ⟨s, hs, h⟩ := bind_ok h
      obtain ⟨k₁, hmap, h⟩ := bind_ok h
      cases h
      obtain ⟨m, hm, rfl⟩ := withMachine_ok hmap
      obtain ⟨r, hr, hrs⟩ := spaceOf?_eq_some_iff.1 (spaceOf_ok_iff.1 hs)
      rw [hq] at hr
      cases hr
      exact ⟨q, m, hq, hopen, quiet_log _ _, .inr ⟨s, frame, dstVa, hrs, hdst, rfl, rfl, hm⟩⟩
    · next hneither =>
      cases h
      refine ⟨q, k.machine, hq, hopen, quiet_log _ _, .inl ⟨rfl, rfl, ?_⟩⟩
      rw [Bool.eq_false_iff]
      intro hboth
      obtain ⟨hpage, hdst⟩ := (Bool.and_eq_true ..).mp hboth
      obtain ⟨frame, hpage⟩ := Option.isSome_iff_exists.1 hpage
      obtain ⟨dstVa, hdst⟩ := Option.isSome_iff_exists.1 hdst
      exact hneither frame dstVa hpage hdst
  · cases h

lemma receiverOf_ok (h : k.receiverOf caller target = .ok id) :
    k.resolve caller target false = .ok id ∧ ∃ q, k.live? id = some q ∧ q.mailbox.receiving := by
  rw [receiverOf] at h
  obtain ⟨id', hres, h⟩ := bind_ok h
  obtain ⟨q, hget, h⟩ := bind_ok h
  split at h
  · next hopen =>
    cases h
    exact ⟨hres, q, get_ok hget, hopen⟩
  · cases h

lemma offered_ok_iff {frame : Nat} : k.offered caller va perm = .ok frame ↔
    va.isMappable = true ∧ perm.isRequestable = true ∧ k.sharable caller va perm = .ok frame := by
  simp only [offered, bind_ok_iff, checkAddress_ok_iff, checkPerm_ok_iff, exists_const]

lemma offers_of_offered {frame : Nat} (h : k.offered caller va perm = .ok frame) :
    k.machine.Offers frame perm := by
  obtain ⟨hva, hperm, hshare⟩ := offered_ok_iff.1 h
  exact offers_of_sharable hva hperm hshare

/-- A send that is refused leaves everything as it is, except that a frame may have been kept for a
while. -/
def Refused (k k' : Kernel) : Prop :=
  k' = k ∨ ∃ frame ∈ k.machine.shownFrames,
    k' = { k with machine := (k.machine.retain frame).release frame }

/-- A send that succeeds goes to a process that waits, which is sent the message, and possibly shown
a page where it wants one. -/
structure Sent (k : Kernel) (caller id : ProcessId) (value : UInt32) (k' : Kernel) : Prop where
  sent : ∃ (q : Process) (m : Machine) (shown : Perm), k.live? id = some q ∧ q.mailbox.receiving ∧
    Shows q.space q.mailbox.dstVa k.machine m ∧
    ({ k with machine := m }.modify id fun p => { p with
      mailbox := deliveredMail caller value shown, status := .runnable }).Quiet k'

/-- **A send** succeeds with 0 or 1, or is refused. -/
lemma trySend_cases {value : UInt32} {srcVa : Option VirtAddr} :
    (∃ e, (k.trySend caller target value srcVa perm).1 = .error e ∧
      k.Refused (k.trySend caller target value srcVa perm).2) ∨
    ∃ id v, k.resolve caller target false = .ok id ∧ (v = 0 ∨ v = 1) ∧
      (k.trySend caller target value srcVa perm).1 = .ok v ∧
      k.Sent caller id value (k.trySend caller target value srcVa perm).2 := by
  rw [trySend]
  cases hreceiver : k.receiverOf caller target with
  | error e => exact .inl ⟨e, rfl, .inl rfl⟩
  | ok id =>
    obtain ⟨hres, -⟩ := receiverOf_ok hreceiver
    have hv : ∀ shown : Perm, (if shown.isEmpty then (0 : UInt32) else 1) = 0 ∨
        (if shown.isEmpty then (0 : UInt32) else 1) = 1 := fun shown => by
      split
      · exact .inl rfl
      · exact .inr rfl
    cases srcVa with
    | none =>
      dsimp only
      rw [deliverTelling]
      cases hdel : k.deliver caller id value none perm with
      | error e => exact .inl ⟨e, rfl, .inl rfl⟩
      | ok r =>
        obtain ⟨shown, k₁⟩ := r
        obtain ⟨q, m, hq, hopen, hquiet, ⟨rfl, -⟩ | ⟨_, frame, _, _, _, hframe, _⟩⟩ :=
          deliver_ok hdel
        · exact .inr ⟨id, _, hres, hv shown, rfl,
            ⟨q, k.machine, shown, hq, hopen, .nothing, hquiet⟩⟩
        · cases hframe
    | some va =>
      dsimp only
      cases hoffer : k.offered caller va perm with
      | error e => exact .inl ⟨e, rfl, .inl rfl⟩
      | ok frame =>
        have hframe := offers_of_offered hoffer
        dsimp only
        rw [holding, deliverTelling]
        cases hdel : deliver { k with machine := k.machine.retain frame } caller id value
          (some frame) perm with
        | error e => exact .inl ⟨e, rfl, .inr ⟨frame, hframe.shown, rfl⟩⟩
        | ok r =>
          obtain ⟨shown, k₁⟩ := r
          obtain ⟨q, m, hq, hopen, hquiet, hshown⟩ := deliver_ok hdel
          refine .inr ⟨id, _, hres, hv shown, rfl,
            ⟨q, m.release frame, shown, hq, hopen, ?_, ?_⟩⟩
          · rcases hshown with ⟨rfl, -⟩ | ⟨s, frame', dstVa, hs, hdst, hf, -, hm⟩
            · exact .kept hframe.shown
            · cases hf
              exact .page hs hdst hframe hm
          · exact ⟨hquiet.records, hquiet.free, hquiet.current,
              congrArg (·.release frame) hquiet.frames, hquiet.spaces, hquiet.windows,
              ⟨hquiet.same.cpus, hquiet.same.processors, hquiet.same.received⟩, hquiet.active⟩

lemma Refused.moves (hk : k.Sound) (hcaller : k.live? caller = some p) (h : k.Refused k')
    (hremap : A (.remap caller)) : Moves A k k' := by
  rcases h with rfl | ⟨frame, hframe, rfl⟩
  · exact .refl
  · obtain ⟨s, hs⟩ := spaceOf?_of_live? hk hcaller
    exact .one hremap (.remap hs (.kept hframe))

lemma Sent.moves {value : UInt32} (h : k.Sent caller id value k') (hq : A .quiet)
    (hdeliver : A (.deliver id)) : Moves A k k' := by
  obtain ⟨q, m, shown, hlive, hopen, hshows, hquiet⟩ := h.sent
  exact (Moves.one hdeliver (.deliver hlive hopen rfl hshows)).trans (.quiet hq hquiet)

/-- A process that comes to wait for a message. -/
lemma receive_cases {dstVa : Option VirtAddr} (h : k.receive cpu caller dstVa = .ok k') :
    ∃ q, dstVa.all (·.isMappable) ∧ k.live? caller = some q ∧
      k' = (k.modify caller fun p => { p with
        mailbox := { p.mailbox with receiving := true, dstVa }
        status := .notRunnable
        frame := p.frame.withResult 0 }).unbind cpu caller := by
  rw [receive] at h
  split at h
  · next hva =>
    obtain ⟨q, hget, h⟩ := bind_ok h
    cases h
    exact ⟨q, hva, get_ok hget, rfl⟩
  · cases h

/-- **A process that waits for a message** is blocked and gives up its processor. -/
lemma receive_moves {dstVa : Option VirtAddr} (hk : k.Sound) (hp : k.live? caller = some p)
    (hres : p.resident = some cpu) (h : k.receive cpu caller dstVa = .ok k')
    (hawait : dstVa.all (·.isMappable) → A (.await caller)) :
    Moves A k k' ∧ k'.current? cpu = none := by
  obtain ⟨q, hva, -, rfl⟩ := receive_cases h
  have hedit : p.Edit { p with
      mailbox := { p.mailbox with receiving := true, dstVa }
      status := .notRunnable
      frame := p.frame.withResult 0 } :=
    ⟨rfl, rfl, rfl, rfl, rfl, nofun, fun _ _ => rfl, rfl⟩
  exact ⟨.one (hawait hva) (.await hp hedit hres nofun),
    current?_modify_unbind hk hp hres hedit⟩

/-- **A process that yields** stays ready to run and gives up its processor. -/
lemma yield_moves (hk : k.Sound) (hp : k.live? caller = some p) (hres : p.resident = some cpu)
    (hedit : A (.edit caller)) (hunbind : A (.unbind caller)) :
    Moves A k (k.yield cpu caller) ∧ (k.yield cpu caller).current? cpu = none := by
  rw [yield, hp]
  have hpause := edit_paused (live?_eq_some_iff.1 hp).2.2 True
  simp only [and_true] at hpause
  refine edit_unbind_moves hk hp hres hpause (fun h => ?_) ?_ hedit hunbind
  · split at h <;> exact h
  · split
    · nofun
    · next h => exact h

/-- **A process that destroys** itself or a child. -/
lemma exit_moves (hk : k.Sound) (hq : A .quiet)
    (hclear : ∀ id p, k.resolve caller target true = .ok id → k.live? id = some p →
      p.resident = none ∨ p.resident = some cpu → A (.clear id))
    (hdoom : ∀ id p holder, k.resolve caller target true = .ok id → k.live? id = some p →
      p.resident = some holder → holder ≠ cpu → A (.doom id)) :
    Moves A k (k.exit cpu caller target).2 ∧ ((k.exit cpu caller target).1 = .giveUp →
      (k.exit cpu caller target).2.current? cpu = none) := by
  rw [exit]
  cases hres : k.resolve caller target true with
  | error e => exact ⟨.refl, nofun⟩
  | ok id =>
    dsimp only
    generalize hmsg : (if id = caller then s!"[{caller}] exiting gracefully"
      else s!"[{caller}] destroying {id}") = message
    have hquiet := quiet_log (k := k) .info message
    have hlog : Moves A k (k.log .info message) := .quiet hq hquiet
    have hsound := hlog.sound hk
    have hmoves : Moves A k ((k.log .info message).destroyOn cpu id).2 :=
      hlog.trans (destroyOn_moves hsound hq
        (fun p hp => hclear id p hres ((hquiet.live? id).symm.trans hp))
        fun p holder hp => hdoom id p holder hres ((hquiet.live? id).symm.trans hp))
    have hswitch : ((k.log .info message).destroyOn cpu id).1 = .switch → _ :=
      destroyOn_switch hsound
    cases hd : (k.log .info message).destroyOn cpu id with
    | mk flow k₁ =>
      rw [hd] at hmoves hswitch
      cases flow with
      | stay => exact ⟨hmoves, nofun⟩
      | switch => exact ⟨hmoves, fun _ => hswitch rfl⟩

/-- A processor has one process bound at most. -/
lemma bound_unique {q : Process} (hk : k.Sound) (hq : k.live? id = some q)
    (hqres : q.resident = some cpu) (hp : k.live? caller = some p) (hres : p.resident = some cpu) :
    id = caller := by
  obtain ⟨hqrec, hqid, -⟩ := live?_eq_some_iff.1 hq
  obtain ⟨hrec, hid, -⟩ := live?_eq_some_iff.1 hp
  have hsame := (hk.tables.claim_eq hqrec hqres).symm.trans (hk.tables.claim_eq hrec hres)
  rw [Option.some.injEq, hqid, hid] at hsame
  exact hsame

/-! ### Any call -/

/-- What a process may come to by itself. -/
inductive Deed.Own (id : ProcessId) : Deed → Prop where
  | quiet : Own id .quiet
  | edit : Own id (.edit id)
  | unbind : Own id (.unbind id)
  | clear : Own id (.clear id)

/-- What a call of a process may come to. -/
inductive CallDeed (k : Kernel) (caller : ProcessId) : Syscall → Deed → Prop where
  | own {c : Syscall} {d : Deed} (hd : d.Own caller) : CallDeed k caller c d
  /-- A child that no processor has bound is cleared away. -/
  | destroy {target id : ProcessId} {p : Process} (hid : k.resolve caller target true = .ok id)
      (hp : k.live? id = some p) (hres : p.resident = none) :
      CallDeed k caller (.destroy target) (.clear id)
  /-- A child that another processor has bound is left to it. -/
  | doom {target id : ProcessId} (hid : k.resolve caller target true = .ok id) (hne : id ≠ caller) :
      CallDeed k caller (.destroy target) (.doom id)
  | await {dstVa : Option VirtAddr} (hva : dstVa.all (·.isMappable)) :
      CallDeed k caller (.receive dstVa) (.await caller)
  | make : CallDeed k caller .exofork (.make (some caller) k.machine.spaces.nextId)
  /-- The child is given registers. Its slot was free before. -/
  | child {id : ProcessId} {q : Process} (hq : k.table.records[id.slot]? = some q)
      (hs : q.status = .free) : CallDeed k caller .exofork (.edit id)
  | setStatus {target id : ProcessId} {status : ProcessStatus}
      (hid : k.resolve caller target true = .ok id) :
      CallDeed k caller (.setStatus target status) (.edit id)
  | setFrame {target id : ProcessId} {va : VirtAddr} (hid : k.resolve caller target true = .ok id) :
      CallDeed k caller (.setFrame target va) (.edit id)
  | setFaultHandler {target id : ProcessId} {entry : VirtAddr}
      (hid : k.resolve caller target true = .ok id) :
      CallDeed k caller (.setFaultHandler target entry) (.edit id)
  | pageAlloc {target id : ProcessId} {va : VirtAddr} {perm : Perm} (s : Nat)
      (hid : k.resolve caller target true = .ok id) :
      CallDeed k caller (.pageAlloc target va perm)
        (.work id k.machine (k.machine.mapZeroed s va perm).2)
  | pageMap {src dst id : ProcessId} {srcVa dstVa : VirtAddr} {perm : Perm}
      (hid : k.resolve caller dst true = .ok id) :
      CallDeed k caller (.pageMap src srcVa dst dstVa perm) (.remap id)
  | pageUnmap {target id : ProcessId} {va : VirtAddr}
      (hid : k.resolve caller target true = .ok id) :
      CallDeed k caller (.pageUnmap target va) (.remap id)
  /-- The page of a message that is refused was kept meanwhile. -/
  | refused {target : ProcessId} {value : UInt32} {va : Option VirtAddr} {perm : Perm} :
      CallDeed k caller (.trySend target value va perm) (.remap caller)
  | deliver {target id : ProcessId} {value v : UInt32} {va : Option VirtAddr} {perm : Perm}
      (hid : k.resolve caller target false = .ok id)
      (hv : (k.trySend caller target value va perm).1 = .ok v) :
      CallDeed k caller (.trySend target value va perm) (.deliver id)

variable {c : Syscall}

/-- What becomes of a processor: if its process gave it up, it claims nothing. -/
def Released (cpu : Nat) (r : Outcome × Kernel) : Prop :=
  r.1 = .giveUp → r.2.current? cpu = none

/-- **A call of a process** comes to its own deeds only, and a processor that it gives up claims
nothing. -/
lemma execute_moves (hk : k.Sound) (hp : k.live? caller = some p) (hres : p.resident = some cpu) :
    Moves (k.CallDeed caller c) k (k.execute cpu caller c).2 ∧
      Released cpu (k.execute cpu caller c) := by
  have hown : ∀ {d : Deed}, d.Own caller → k.CallDeed caller c d := .own
  cases c with
  | putString va len =>
    rw [execute]
    cases hput : k.putString caller va len with
    | error e => cases e <;> exact ⟨.refl, nofun⟩
    | ok k₁ => exact ⟨.quiet (hown .quiet) (putString_quiet hput), nofun⟩
  | getId => exact ⟨.refl, nofun⟩
  | destroy target =>
    refine exit_moves hk (hown .quiet) (fun id q hid hq hhere => ?_)
      fun id q holder hid hq hqres hne => ?_
    · rcases hhere with hnone | hsome
      · exact .destroy hid hq hnone
      · -- the processor has only its caller bound
        obtain rfl := bound_unique hk hq hsome hp hres
        exact hown .clear
    · refine .doom hid ?_
      rintro rfl
      rw [hp] at hq
      cases hq
      rw [hres, Option.some.injEq] at hqres
      exact hne hqres.symm
  | yield =>
    obtain ⟨hmoves, hnone⟩ := yield_moves hk hp hres (hown .edit) (hown .unbind)
    exact ⟨hmoves, fun _ => hnone⟩
  | exofork =>
    rw [execute]
    cases hfork : k.exofork caller with
    | error e => exact ⟨.refl, nofun⟩
    | ok r =>
      exact ⟨exofork_moves hk hfork (hown .quiet) .make fun id q hq hs => .child hq hs, nofun⟩
  | setStatus target status =>
    rw [execute]
    cases hset : k.setStatus caller target status with
    | error e => exact ⟨.refl, nofun⟩
    | ok k₁ =>
      obtain ⟨id, hid, hmove⟩ := setStatus_move hset
      exact ⟨.one (.setStatus hid) hmove, nofun⟩
  | setFrame target va =>
    rw [execute]
    cases hset : k.setFrame caller target va with
    | error e => cases e <;> exact ⟨.refl, nofun⟩
    | ok k₁ =>
      obtain ⟨id, hid, hmove⟩ := setFrame_move hset
      exact ⟨.one (.setFrame hid) hmove, nofun⟩
  | setFaultHandler target entry =>
    rw [execute]
    cases hset : k.setFaultHandler caller target entry with
    | error e => exact ⟨.refl, nofun⟩
    | ok k₁ =>
      obtain ⟨id, hid, hmove⟩ := setFaultHandler_move hset
      exact ⟨.one (.setFaultHandler hid) hmove, nofun⟩
  | pageAlloc target va perm =>
    refine ⟨?_, nofun⟩
    change Moves _ k (k.pageAlloc caller target va perm).2
    rcases pageAlloc_cases (k := k) with hsame | ⟨id, s, hid, hs, hperm, hwork⟩
    · rw [hsame]
      exact .refl
    · rw [hwork]
      exact .one (.pageAlloc s hid) (.work hs (.single (.fill va hperm)))
  | pageMap src srcVa dst dstVa perm =>
    refine ⟨?_, nofun⟩
    change Moves _ k (k.pageMap caller src srcVa dst dstVa perm).2
    rcases pageMap_cases hk hp with hsame | ⟨id, hid, hmove⟩
    · rw [hsame]
      exact .refl
    · exact .one (.pageMap hid) hmove
  | pageUnmap target va =>
    rw [execute]
    cases hunmap : k.pageUnmap caller target va with
    | error e => exact ⟨.refl, nofun⟩
    | ok k₁ =>
      obtain ⟨id, hid, hmove⟩ := pageUnmap_move hunmap
      exact ⟨.one (.pageUnmap hid) hmove, nofun⟩
  | trySend target value va perm =>
    refine ⟨?_, nofun⟩
    change Moves _ k (k.trySend caller target value va perm).2
    rcases trySend_cases (k := k) with ⟨e, -, hrefused⟩ | ⟨id, v, hid, -, hok, hsent⟩
    · exact hrefused.moves hk hp .refused
    · exact hsent.moves (hown .quiet) (.deliver hid hok)
  | receive dstVa =>
    rw [execute]
    cases hrec : k.receive cpu caller dstVa with
    | error e => exact ⟨.refl, nofun⟩
    | ok k₁ =>
      obtain ⟨hmoves, hnone⟩ := receive_moves (A := k.CallDeed caller (.receive dstVa)) hk hp hres
        hrec .await
      exact ⟨hmoves, fun _ => hnone⟩
  | time => exact ⟨.refl, nofun⟩

end Kernel

end Exokernel
