/-
What a call makes of the record of a process.

* `Kernel.Affects`: nothing, unless the call is meant for the process, or the process gives up its
  processor by it;
* `execute_affects`: **nothing else becomes of a process** that lives on;
* `Saved.affects`: that the registers of the caller were saved makes no difference to that.
-/
import Exokernel.Proofs.Kernel.Answers
import Exokernel.Proofs.Kernel.Sends

namespace Exokernel.Kernel

variable {k k' : Kernel} {s t id target : ProcessId} {p p₁ q : Process} {cpu : Nat}
  {f : TrapFrame} {c : Syscall}

/-- What a call of process `s` makes of the record `p` of process `t` that lives on. -/
inductive Affects (k : Kernel) (s t : ProcessId) (p : Process) : Syscall → Process → Prop where
  | spared {c : Syscall} : Affects k s t p c p
  | setStatus {target : ProcessId} {status : ProcessStatus}
      (hs : status = .runnable ∨ status = .notRunnable) (ht : k.resolve s target true = .ok t) :
      Affects k s t p (.setStatus target status) (withStatus p status)
  | setFrame {target : ProcessId} {va : VirtAddr} {bytes : List UInt8}
      (ht : k.resolve s target true = .ok t)
      (hread : k.readCaller s va TrapFrame.size = .ok bytes) :
      Affects k s t p (.setFrame target va) { p with frame := (TrapFrame.ofBytes bytes).forUser }
  | setFaultHandler {target : ProcessId} {entry : VirtAddr}
      (ht : k.resolve s target true = .ok t) :
      Affects k s t p (.setFaultHandler target entry) { p with faultHandler := some entry }
  | told {target : ProcessId} {value v : UInt32} {srcVa : Option VirtAddr} {perm : Perm}
      (ht : k.resolve s target false = .ok t)
      (hv : (k.trySend s target value srcVa perm).1 = .ok v) (hopen : p.mailbox.receiving) :
      Affects k s t p (.trySend target value srcVa perm) (told p s value srcVa perm)
  | yield (hself : t = s) : Affects k s t p .yield
      { (if p.status = .running then { p with status := .runnable } else p) with resident := none }
  | receive {dstVa : Option VirtAddr} (hself : t = s) (hva : dstVa.all (·.isMappable)) :
      Affects k s t p (.receive dstVa)
        { p with
          mailbox := { p.mailbox with receiving := true, dstVa }
          status := .notRunnable
          frame := p.frame.withResult 0
          resident := none }

/-! ### Records that are changed -/

/-- What is found of a live process after the record of one was changed. -/
lemma live?_modify_inv {g : Process → Process} (hq : k.live? id = some q)
    (hp : k.live? t = some p) (hp₁ : (k.modify id g).live? t = some p₁) :
    id = t ∧ p₁ = g p ∨ p₁ = p := by
  obtain ⟨hrec, -, -⟩ := live?_eq_some_iff.1 hp
  obtain ⟨hrec₁, -, -⟩ := live?_eq_some_iff.1 hp₁
  rw [modify, ProcessTable.getElem?_modify] at hrec₁
  by_cases hid : id = t
  · rw [if_pos (congrArg _ hid), hrec] at hrec₁
    exact .inl ⟨hid, (Option.some.inj hrec₁).symm⟩
  · rw [if_neg (slot_ne_of_live? hq hp hid), hrec] at hrec₁
    exact .inr (Option.some.inj hrec₁).symm

/-- A process that its processor gives up is bound nowhere. -/
lemma live?_unbind (hp : k.live? id = some p) (hres : p.resident = some cpu) :
    (k.unbind cpu id).live? id = some { p with resident := none } := by
  rw [unbind_eq hp hres]
  exact live?_modify hp rfl (live?_eq_some_iff.1 hp).2.2

/-- A process that is spared lives on as it is. -/
lemma Moves.spared {A : Deed → Prop} (h : Moves A k k') (hk : k.Sound)
    (hA : ∀ d, A d → d.Spares t.slot) (hp : k.live? t = some p) : k'.live? t = some p := by
  obtain ⟨hrec, hid, hlive⟩ := live?_eq_some_iff.1 hp
  exact live?_eq_some_iff.2
    ⟨h.record hk hA hrec (ProcessStatus.ne_free_of_isLive hlive), hid, hlive⟩

/-- What a process does to itself spares another. -/
lemma Deed.Own.spares {d : Deed} {slot : Nat} (h : d.Own s) (hne : s.slot ≠ slot) :
    d.Spares slot := by
  cases h with
  | quiet => trivial
  | edit | unbind | clear => exact hne

/-! ### Calls -/

/-- Whoever lives on when a process is destroyed, is as it was. -/
lemma destroyOn_affects (hk : k.Sound) (hid : k.live? id = some q) (hp : k.live? t = some p)
    (hp₁ : (k.destroyOn cpu id).2.live? t = some p₁) : p₁ = p := by
  have hne : id ≠ t := by
    rintro rfl
    rw [destroyOn_gone hk] at hp₁
    cases hp₁
  have hslot := slot_ne_of_live? hid hp hne
  have hmoves : Moves (Deed.Spares t.slot) k (k.destroyOn cpu id).2 :=
    destroyOn_moves hk trivial (fun _ _ _ => hslot) fun _ _ _ _ _ => hslot
  rw [hmoves.spared hk (fun _ hd => hd) hp] at hp₁
  exact (Option.some.inj hp₁).symm

lemma exit_affects (hk : k.Sound) (hs : k.live? s = some q) (hp : k.live? t = some p)
    (hp₁ : (k.exit cpu s target).2.live? t = some p₁) : p₁ = p := by
  cases hres : k.resolve s target true with
  | error e =>
    rw [exit, hres] at hp₁
    exact Option.some.inj (hp₁.symm.trans hp)
  | ok id =>
    obtain ⟨k₀, hk₀, heq⟩ := exit_eq cpu hres
    have hsound : k₀.Sound := hk₀.sound hk
    obtain ⟨r, hr⟩ := live?_of_resolve hs hres
    rw [heq] at hp₁
    exact destroyOn_affects hsound ((hk₀.live? id).trans hr) ((hk₀.live? t).trans hp) hp₁

lemma setStatus_affects {status : ProcessStatus} (h : k.setStatus s target status = .ok k')
    (hp : k.live? t = some p) (hp₁ : k'.live? t = some p₁) :
    k.Affects s t p (.setStatus target status) p₁ := by
  obtain ⟨id, r, hstatus, hid, hr, rfl⟩ := setStatus_cases h
  rcases live?_modify_inv hr hp hp₁ with ⟨rfl, rfl⟩ | rfl
  · exact .setStatus hstatus hid
  · exact .spared

lemma setFrame_affects {va : VirtAddr} (h : k.setFrame s target va = .ok k')
    (hp : k.live? t = some p) (hp₁ : k'.live? t = some p₁) :
    k.Affects s t p (.setFrame target va) p₁ := by
  obtain ⟨id, bytes, r, hid, hread, hr, rfl⟩ := setFrame_cases h
  rcases live?_modify_inv hr hp hp₁ with ⟨rfl, rfl⟩ | rfl
  · exact .setFrame hid hread
  · exact .spared

lemma setFaultHandler_affects {entry : VirtAddr} (h : k.setFaultHandler s target entry = .ok k')
    (hp : k.live? t = some p) (hp₁ : k'.live? t = some p₁) :
    k.Affects s t p (.setFaultHandler target entry) p₁ := by
  obtain ⟨id, r, hid, hr, rfl⟩ := setFaultHandler_cases h
  rcases live?_modify_inv hr hp hp₁ with ⟨rfl, rfl⟩ | rfl
  · exact .setFaultHandler hid
  · exact .spared

lemma trySend_affects {value v : UInt32} {srcVa : Option VirtAddr} {perm : Perm} (hk : k.Sound)
    (hv : (k.trySend s target value srcVa perm).1 = .ok v) (hp : k.live? t = some p)
    (hp₁ : (k.trySend s target value srcVa perm).2.live? t = some p₁) :
    k.Affects s t p (.trySend target value srcVa perm) p₁ := by
  obtain ⟨id, r, hid, hconveys⟩ := trySend_ok hk hv
  obtain ⟨hrec₁, -, -⟩ := live?_eq_some_iff.1 hp₁
  rw [hconveys.records] at hrec₁
  by_cases hne : id = t
  · subst hne
    obtain rfl : r = p := Option.some.inj (hconveys.live.symm.trans hp)
    rw [if_pos rfl, Option.some.injEq] at hrec₁
    exact hrec₁ ▸ .told hid hv hconveys.waiting
  · rw [if_neg (slot_ne_of_live? hconveys.live hp hne), (live?_eq_some_iff.1 hp).1] at hrec₁
    exact Option.some.inj hrec₁ ▸ .spared

/-- A process that is spared by a row of moves. -/
lemma affects_of_spared (hk : k.Sound) (h : Moves (Deed.Spares t.slot) k k')
    (hp : k.live? t = some p) (hp₁ : k'.live? t = some p₁) : k.Affects s t p c p₁ := by
  rw [h.spared hk (fun _ hd => hd) hp] at hp₁
  exact Option.some.inj hp₁ ▸ .spared

/-- So is a process whose record is not touched. -/
lemma affects_of_table (h : k'.table = k.table) (hp : k.live? t = some p)
    (hp₁ : k'.live? t = some p₁) : k.Affects s t p c p₁ := by
  rw [live?, h] at hp₁
  exact Option.some.inj (hp.symm.trans hp₁) ▸ .spared

lemma exofork_affects {answer : UInt32} (hk : k.Sound) (h : k.exofork s = .ok (answer, k'))
    (hp : k.live? t = some p) (hp₁ : k'.live? t = some p₁) : k.Affects s t p .exofork p₁ := by
  refine affects_of_spared hk (exofork_moves hk h trivial trivial fun child r hr hfree => ?_) hp hp₁
  -- the child had a free slot
  obtain ⟨hrec, -, hlive⟩ := live?_eq_some_iff.1 hp
  intro hslot
  rw [hslot, hrec] at hr
  cases hr
  exact ProcessStatus.ne_free_of_isLive hlive hfree

/-- A process that yields is ready to run, and bound nowhere. -/
lemma live?_yield (hs : k.live? s = some q) (hres : q.resident = some cpu) :
    (k.yield cpu s).live? s = some
      { (if q.status = .running then { q with status := .runnable } else q) with
        resident := none } := by
  have hpause := edit_paused (live?_eq_some_iff.1 hs).2.2 True
  simp only [and_true] at hpause
  rw [yield, hs]
  exact live?_unbind (live?_modify (f := fun p => if p.status = .running then
    { p with status := .runnable } else p) hs hpause.id hpause.live) (hpause.resident.trans hres)

lemma yield_affects (hk : k.Sound) (hs : k.live? s = some q) (hres : q.resident = some cpu)
    (hp : k.live? t = some p) (hp₁ : (k.yield cpu s).live? t = some p₁) :
    k.Affects s t p .yield p₁ := by
  by_cases hself : t = s
  · subst hself
    obtain rfl : q = p := Option.some.inj (hs.symm.trans hp)
    rw [live?_yield hs hres] at hp₁
    exact Option.some.inj hp₁ ▸ .yield rfl
  · have hslot := slot_ne_of_live? hs hp (Ne.symm hself)
    exact affects_of_spared hk (yield_moves hk hs hres hslot hslot).1 hp hp₁

/-- A process that waits for a message is blocked with its mailbox open, bound nowhere, and resumes
with zero. -/
lemma live?_receive {dstVa : Option VirtAddr} (hs : k.live? s = some q)
    (hres : q.resident = some cpu) (h : k.receive cpu s dstVa = .ok k') :
    dstVa.all (·.isMappable) ∧ k'.live? s = some
      { q with
        mailbox := { q.mailbox with receiving := true, dstVa }
        status := .notRunnable
        frame := q.frame.withResult 0
        resident := none } := by
  obtain ⟨r, hva, -, rfl⟩ := receive_cases h
  exact ⟨hva, live?_unbind (live?_modify (f := fun p : Process => { p with
    mailbox := { p.mailbox with receiving := true, dstVa }
    status := .notRunnable
    frame := p.frame.withResult 0 }) hs rfl rfl) hres⟩

lemma receive_affects {dstVa : Option VirtAddr} (hk : k.Sound) (hs : k.live? s = some q)
    (hres : q.resident = some cpu) (h : k.receive cpu s dstVa = .ok k') (hp : k.live? t = some p)
    (hp₁ : k'.live? t = some p₁) : k.Affects s t p (.receive dstVa) p₁ := by
  by_cases hself : t = s
  · subst hself
    obtain rfl : q = p := Option.some.inj (hs.symm.trans hp)
    obtain ⟨hva, hblocked⟩ := live?_receive hs hres h
    rw [hblocked] at hp₁
    exact Option.some.inj hp₁ ▸ .receive rfl hva
  · have hslot := slot_ne_of_live? hs hp (Ne.symm hself)
    exact affects_of_spared hk (receive_moves hk hs hres h fun _ => hslot).1 hp hp₁

/-- **What a call makes of a process that lives on.** -/
lemma execute_affects (hk : k.Sound) (hs : k.live? s = some q) (hres : q.resident = some cpu)
    (hp : k.live? t = some p) (hp₁ : (k.execute cpu s c).2.live? t = some p₁) :
    k.Affects s t p c p₁ := by
  cases c with
  | putString va len =>
    rw [execute] at hp₁
    cases hput : k.putString s va len with
    | error e =>
      rw [hput] at hp₁
      cases e <;> exact affects_of_table rfl hp hp₁
    | ok k₁ =>
      rw [hput] at hp₁
      exact affects_of_spared hk (.quiet trivial (putString_quiet hput)) hp hp₁
  | getId => exact affects_of_table rfl hp hp₁
  | destroy target => exact exit_affects hk hs hp hp₁ ▸ .spared
  | yield => exact yield_affects hk hs hres hp hp₁
  | exofork =>
    rw [execute] at hp₁
    cases hfork : k.exofork s with
    | error e =>
      rw [hfork] at hp₁
      exact affects_of_table rfl hp hp₁
    | ok r =>
      rw [hfork] at hp₁
      exact exofork_affects hk hfork hp hp₁
  | setStatus target status =>
    rw [execute] at hp₁
    cases hset : k.setStatus s target status with
    | error e =>
      rw [hset] at hp₁
      exact affects_of_table rfl hp hp₁
    | ok k₁ =>
      rw [hset] at hp₁
      exact setStatus_affects hset hp hp₁
  | setFrame target va =>
    rw [execute] at hp₁
    cases hset : k.setFrame s target va with
    | error e =>
      rw [hset] at hp₁
      cases e <;> exact affects_of_table rfl hp hp₁
    | ok k₁ =>
      rw [hset] at hp₁
      exact setFrame_affects hset hp hp₁
  | setFaultHandler target entry =>
    rw [execute] at hp₁
    cases hset : k.setFaultHandler s target entry with
    | error e =>
      rw [hset] at hp₁
      exact affects_of_table rfl hp hp₁
    | ok k₁ =>
      rw [hset] at hp₁
      exact setFaultHandler_affects hset hp hp₁
  | pageAlloc target va perm => exact affects_of_table table_pageAlloc hp hp₁
  | pageMap src srcVa dst dstVa perm => exact affects_of_table table_pageMap hp hp₁
  | pageUnmap target va =>
    have hleaves : LeavesTable cpu s (.pageUnmap target va) := pageUnmap_leavesTable
    obtain ⟨result, k₂, hexec, htable⟩ := hleaves k
    rw [hexec] at hp₁
    exact affects_of_table htable hp hp₁
  | trySend target value va perm =>
    cases hsend : (k.trySend s target value va perm).1 with
    | error e =>
      have hfails := trySend_error hk hsend
      exact affects_of_table (congrArg Kernel.table hfails) hp hp₁
    | ok v => exact trySend_affects hk hsend hp hp₁
  | receive dstVa =>
    rw [execute] at hp₁
    cases hrec : k.receive cpu s dstVa with
    | error e =>
      rw [hrec] at hp₁
      exact affects_of_table rfl hp hp₁
    | ok k₁ =>
      rw [hrec] at hp₁
      exact receive_affects hk hs hres hrec hp hp₁
  | time => exact affects_of_table rfl hp hp₁

/-! ### Registers do not matter -/

namespace Saved

/-- A buffer of the caller holds the same bytes. -/
lemma readCaller (h : k.Saved id f k') (va : VirtAddr) (len : Nat) :
    k'.readCaller id va len = k.readCaller id va len := by
  obtain ⟨hframes, hspaces, hwindows⟩ := h.memory
  have hspace : k'.spaceOf? id = k.spaceOf? id := by
    cases hs' : k'.spaceOf? id with
    | some s => exact (h.spaceOf? hs').symm
    | none =>
      cases hs : k.spaceOf? id with
      | none => rfl
      | some s => exact hs'.symm.trans (h.spaceOf?_eq hs)
  have hlookup : k'.machine.lookup? = k.machine.lookup? := by
    funext s va
    exact Machine.lookup?_of_spaces hspaces hwindows s va
  have hallowed : k'.machine.allowedFrame = k.machine.allowedFrame := by
    funext s perm address
    rw [Machine.allowedFrame, Machine.allowedFrame, hlookup]
  have hmapped : k'.machine.mappedFrame = k.machine.mappedFrame := by
    funext s va address
    rw [Machine.mappedFrame, Machine.mappedFrame, hlookup]
  rw [Kernel.readCaller, Kernel.readCaller, hspace]
  simp only [Machine.checkUser, Machine.copyIn, hallowed, hmapped, hframes]

/-- **A kernel that has saved the registers of the caller** makes the same of a process. -/
lemma affects (h : k.Saved s f k') (haffects : k'.Affects s t p c p₁) : k.Affects s t p c p₁ := by
  cases haffects with
  | spared => exact .spared
  | setStatus hs ht => exact .setStatus hs (h.resolve .. ▸ ht)
  | setFrame ht hread => exact .setFrame (h.resolve .. ▸ ht) (h.readCaller .. ▸ hread)
  | setFaultHandler ht => exact .setFaultHandler (h.resolve .. ▸ ht)
  | told ht hv hopen => exact .told (h.resolve .. ▸ ht) (h.trySend.symm.trans hv) hopen
  | yield hself => exact .yield hself
  | receive hself hva => exact .receive hself hva

end Saved

end Exokernel.Kernel
