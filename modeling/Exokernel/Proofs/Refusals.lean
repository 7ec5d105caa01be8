/-
A call that fails changes nothing.

* `FramePool.Agrees`: the same frames are free and in use, with the same counts and contents;
* `Machine.agrees_mapZeroed`: a fresh page that finds no place leaves no trace but in a free frame;
* `Kernel.Unchanged`: nothing changes but messages, events and what free frames hold;
* `Kernel.execute_error`: **a call that fails** leaves its kernel unchanged;
* `failed_call_unchanged`: so the trap that makes the call comes to nothing but the error that the
  caller is told.
-/
import Exokernel.Proofs.Kernel.Answers
import Exokernel.Proofs.Kernel.Entries
import Exokernel.Proofs.Kernel.Sends
import Exokernel.Proofs.Runs

namespace Exokernel

/-! ### Memory -/

/-- The same frames are free, in the same order, and the same frames are in use, with the same
counts and contents. What a free frame holds is not told. -/
structure FramePool.Agrees (pool pool' : FramePool) : Prop where
  free : pool'.free = pool.free
  size : pool'.slots.size = pool.slots.size
  allocated : ∀ n, pool'.allocated? n = pool.allocated? n

namespace FramePool

variable {pool pool' pool'' : FramePool} {n : Nat}

lemma Agrees.refl (pool : FramePool) : pool.Agrees pool := ⟨rfl, rfl, fun _ => rfl⟩

lemma Agrees.trans (h : pool.Agrees pool') (h' : pool'.Agrees pool'') : pool.Agrees pool'' :=
  ⟨h'.free.trans h.free, h'.size.trans h.size, fun n => (h'.allocated n).trans (h.allocated n)⟩

/-- A frame that is given out, cleared and taken back was free before and is so again. -/
lemma agrees_discard (hn : pool.allocated? n = none) (hlt : n < pool.slots.size)
    (h : pool.alloc? = some (n, pool')) : pool.Agrees ((pool'.clear n).discard n) := by
  have hslot : pool'.allocated? n = some { pool.slots[n] with allocated := true, refs := 0 } := by
    rw [allocated?_alloc? h, if_pos rfl, Array.getElem?_eq_getElem hlt]
    rfl
  have hcleared : (pool'.clear n).allocated? n =
      some { pool.slots[n] with allocated := true, refs := 0, page := .zero } := by
    rw [allocated?_clear, if_pos rfl, hslot]
    rfl
  have hzero : (pool'.clear n).refs n = 0 := by rw [refs, hcleared]
  rw [discard, if_pos hzero]
  have hin : ((pool'.clear n).allocated? n).isSome := by
    rw [hcleared]
    rfl
  obtain ⟨hfree, hothers⟩ := reclaim_of_isSome hin
  refine ⟨hfree.trans (free_of_alloc? h).symm, ?_, fun i => ?_⟩
  · exact size_reclaim.trans (size_modify.trans (size_alloc? h))
  · rw [hothers]
    split
    · next hi => rw [← hi, hn]
    · next hi => rw [allocated?_clear, if_neg hi, allocated?_alloc? h, if_neg hi]

end FramePool

namespace Machine

variable {m : Machine} {s : Nat} {va : VirtAddr} {perm : Perm} {kept : List Nat}

/-- **A fresh page that finds no place** leaves no trace but in a frame that is free. -/
lemma agrees_mapZeroed (ha : m.Accounted kept []) {e : MachineError}
    (h : (m.mapZeroed s va perm).1 = .error e) : ∃ frames,
      (m.mapZeroed s va perm).2 = { m with frames } ∧ m.frames.Agrees frames := by
  rw [mapZeroed] at h ⊢
  cases hall : m.allocFrame with
  | error e => exact ⟨m.frames, rfl, .refl _⟩
  | ok r =>
    obtain ⟨n, m₁⟩ := r
    obtain ⟨frames, hone, rfl⟩ := allocFrame_cases hall
    rw [hall] at h
    dsimp only at h ⊢
    cases hmap : ({ m with frames } : Machine).clear n |>.map s n va perm with
    | ok m₂ =>
      rw [hmap] at h
      cases h
    | error e =>
      obtain ⟨hlt, hnone⟩ := (ha.ledger.backs.mem_free_iff n).1
        (FramePool.free_of_alloc? hone ▸ List.mem_cons_self)
      exact ⟨_, rfl, FramePool.agrees_discard hnone hlt hone⟩

end Machine

namespace Kernel

variable {k k' k'' : Kernel} {id caller target : ProcessId} {p : Process} {cpu : Nat}
  {f : TrapFrame} {c : Syscall} {e : KernelError}

/-! ### Kernels that do not change -/

/-- **Nothing changes** but what was printed, what was recorded, and what free frames hold: the
records of all processes, the free slots and the place of the scheduler, the processors, the address
spaces with their pages and tables, and the frames in use are as they were. -/
structure Unchanged (k k' : Kernel) : Prop where
  config : k'.config = k.config
  table : k'.table = k.table
  cpus : k'.cpus = k.cpus
  machine : ∃ console frames, k'.machine = { k.machine with console, frames } ∧
    k.machine.frames.Agrees frames

namespace Unchanged

lemma refl (k : Kernel) : k.Unchanged k := ⟨rfl, rfl, rfl, _, _, rfl, .refl _⟩

lemma trans (h : k.Unchanged k') (h' : k'.Unchanged k'') : k.Unchanged k'' := by
  obtain ⟨console, frames, hm, hagrees⟩ := h.machine
  obtain ⟨console', frames', hm', hagrees'⟩ := h'.machine
  rw [hm] at hm' hagrees'
  exact ⟨h'.config.trans h.config, h'.table.trans h.table, h'.cpus.trans h.cpus, console', frames',
    hm', hagrees.trans hagrees'⟩

lemma log (level : LogLevel) (message : String) : k.Unchanged (k.log level message) := by
  rw [Kernel.log]
  split
  · exact ⟨rfl, rfl, rfl, _, _, rfl, .refl _⟩
  · exact .refl k

lemma audit (id : ProcessId) (kind : EventKind) : k.Unchanged (k.audit id kind) :=
  ⟨rfl, rfl, rfl, _, _, rfl, .refl _⟩

/-- A record that is changed in both. -/
lemma modify (h : k.Unchanged k') (id : ProcessId) (g : Process → Process) :
    (k.modify id g).Unchanged (k'.modify id g) :=
  ⟨h.config, congrArg (·.modify id.slot g) h.table, h.cpus, h.machine⟩

lemma live? (h : k.Unchanged k') (id : ProcessId) : k'.live? id = k.live? id := by
  rw [Kernel.live?, Kernel.live?, h.table]

end Unchanged

/-! ### Calls that fail -/

lemma pageAlloc_error {va : VirtAddr} {perm : Perm} (hk : k.Sound)
    (h : (k.pageAlloc caller target va perm).1 = .error e) :
    k.Unchanged (k.pageAlloc caller target va perm).2 := by
  rw [pageAlloc] at h ⊢
  cases hspace : k.allocSpace caller target va perm with
  | error e => exact .refl k
  | ok s =>
    rw [hspace] at h
    dsimp only at h ⊢
    cases hr : (k.machine.mapZeroed s va perm).1 with
    | ok _ =>
      rw [hr] at h
      cases h
    | error e' =>
      obtain ⟨frames, hm, hagrees⟩ := Machine.agrees_mapZeroed hk.accounted hr
      exact ⟨rfl, rfl, rfl, k.machine.console, frames, hm, hagrees⟩

/-- A page that is not shown was kept meanwhile, and is let go. -/
lemma pageMap_error {src : ProcessId} {srcVa va : VirtAddr} {perm : Perm} (hk : k.Sound)
    (h : (k.pageMap caller src srcVa target va perm).1 = .error e) :
    (k.pageMap caller src srcVa target va perm).2 = k := by
  rw [pageMap] at h ⊢
  cases hargs : k.mapArguments caller src srcVa target va perm with
  | error e => rfl
  | ok r =>
    obtain ⟨frame, dst⟩ := r
    rw [hargs] at h
    dsimp only at h ⊢
    rw [holding] at h ⊢
    cases hkept : mapKept { k with machine := k.machine.retain frame } dst frame va perm with
    | ok k₁ =>
      rw [hkept] at h
      cases h
    | error e =>
      have hsame := hk.accounted.release_retain (offers_of_mapArguments hargs).shown
      change { k with machine := (k.machine.retain frame).release frame } = k
      rw [hsame]

/-- A buffer that a call is refused for, or an error of the call. -/
lemma acknowledgeBuffer_error {r : Except BufferError Kernel}
    (h : (k.acknowledgeBuffer r).1 = .answer (.error e)) : (k.acknowledgeBuffer r).2 = k := by
  cases r with
  | ok k₁ => cases h
  | error e => cases e <;> rfl

lemma acknowledge_error {r : Except KernelError Kernel}
    (h : (k.acknowledge r).1 = .answer (.error e)) : (k.acknowledge r).2 = k := by
  cases r with
  | ok k₁ => cases h
  | error e => rfl

lemma exit_error (h : (k.exit cpu caller target).1 = .answer (.error e)) :
    (k.exit cpu caller target).2 = k := by
  rw [exit] at h ⊢
  cases hres : k.resolve caller target true with
  | error e => rfl
  | ok id =>
    rw [hres] at h
    dsimp only at h
    split at h <;> cases h

/-- **A call that fails changes nothing.** -/
lemma execute_error (hk : k.Sound) (h : (k.execute cpu caller c).1 = .answer (.error e)) :
    k.Unchanged (k.execute cpu caller c).2 := by
  have hsame : (k.execute cpu caller c).2 = k → k.Unchanged (k.execute cpu caller c).2 :=
    fun heq => by
      rw [heq]
      exact .refl k
  cases c with
  | putString va len => exact hsame (acknowledgeBuffer_error h)
  | getId => cases h
  | destroy target => exact hsame (exit_error h)
  | yield => cases h
  | exofork =>
    rw [execute] at h hsame ⊢
    cases hfork : k.exofork caller with
    | error e => exact .refl k
    | ok r =>
      rw [hfork] at h
      cases h
  | setStatus target status => exact hsame (acknowledge_error h)
  | setFrame target va => exact hsame (acknowledgeBuffer_error h)
  | setFaultHandler target entry => exact hsame (acknowledge_error h)
  | pageAlloc target va perm =>
    refine pageAlloc_error (e := e) hk ?_
    cases hr : (k.pageAlloc caller target va perm).1 <;> simp_all [execute, tell, Except.map]
  | pageMap src srcVa dst dstVa perm =>
    refine hsame (pageMap_error (e := e) hk ?_)
    cases hr : (k.pageMap caller src srcVa dst dstVa perm).1 <;>
      simp_all [execute, tell, Except.map]
  | pageUnmap target va => exact hsame (acknowledge_error h)
  | trySend target value va perm =>
    refine hsame (trySend_error (e := e) hk ?_)
    cases hr : (k.trySend caller target value va perm).1 <;> simp_all [execute, tell, Except.map]
  | receive dstVa =>
    rw [execute] at h hsame ⊢
    cases hrec : k.receive cpu caller dstVa with
    | error e => exact .refl k
    | ok k₁ =>
      rw [hrec] at h
      cases h
  | time => cases h

/-- So it is with a call that is not even understood. -/
lemma perform_error {call : RawCall} (hk : k.Sound)
    (h : (k.perform cpu caller call).1 = .answer (.error e)) :
    k.Unchanged (k.perform cpu caller call).2 := by
  rw [perform] at h ⊢
  cases hc : Syscall.decode call with
  | error e => exact .log _ _
  | ok c =>
    rw [hc] at h
    have hsound : (k.log .trace s!"[{caller}] {c.name}").Sound := (quiet_log _ _).sound hk
    exact (Unchanged.log _ _).trans (execute_error hsound h)

/-- An answer in the registers that were saved. -/
lemma modify_entered (k : Kernel) (cpu : Nat) (id : ProcessId) (f : TrapFrame) (answer : UInt32) :
    (k.entered cpu id f).modify id (fun p => { p with frame := p.frame.withResult answer }) =
      k.entered cpu id (f.withResult answer) :=
  congrArg (fun table => { k.modifyCpu cpu fun c => { c with traps := c.traps + 1 } with table })
    (ProcessTable.modify_modify ..)

/-- What an answer changes is the registers of the caller. -/
lemma setAnswer_eq (answer : Int32) (hp : k.live? id = some p) (hres : p.resident = some cpu) :
    k.setAnswer cpu id answer =
      k.modify id fun p => { p with frame := p.frame.withResult answer.toUInt32 } := by
  rw [setAnswer, hp]
  dsimp only
  rw [if_pos hres]

end Kernel

/-- **A call that fails comes to nothing** but the error that its caller is told. The trap has been
counted, and the caller goes on with the registers that it trapped with, apart from the answer.
Otherwise nothing changes: no record, claim or free slot, no page, no page table, and no frame that
is in use. -/
theorem failed_call_unchanged {config : Config} {frames : Nat} {k : Kernel} {cpu : Nat}
    {id : ProcessId} {p : Process} {f : TrapFrame} {e : KernelError}
    (h : Reachable config frames k) (hcur : k.current? cpu = some id) (hp : k.live? id = some p)
    (hrun : p.status = .running) (huser : f.isUser)
    (hcause : TrapCause.ofNumber f.trapno = .syscall)
    (herror : (k.performed cpu id f).1 = .answer (.error e)) :
    (k.trap cpu f).1 = .user id (f.withResult (encodeResult (.error e)).toUInt32) ∧
      (k.entered cpu id (f.withResult (encodeResult (.error e)).toUInt32)).Unchanged
        (k.trap cpu f).2 := by
  have hk := h.sound
  have hres := (hk.current?_iff hp).1 hcur
  have hcalled := (Kernel.called_saved k cpu id f).sound hk hp
  have hsame : (k.entered cpu id f).Unchanged (k.performed cpu id f).2 :=
    (Kernel.Unchanged.audit _ _).trans (Kernel.perform_error hcalled herror)
  have hlive : (k.performed cpu id f).2.live? id = some { p with frame := f } :=
    (hsame.live? id).trans ((Kernel.entered_saved k cpu id f).live? hp)
  obtain ⟨request, hhandle⟩ := Kernel.handle_performed cpu hp hcause
  rw [herror, Kernel.conclude] at hhandle
  have hanswered := Kernel.live?_setAnswer (encodeResult (.error e)) hlive hres
  have hleave := Kernel.leave_running (k := ((k.performed cpu id f).2.setAnswer cpu id
    (encodeResult (.error e))).audit id (.response request (some (encodeResult (.error e)))))
    hanswered hrun hres
  rw [Kernel.trap_entered hcur hp hres huser, hhandle, hleave]
  refine ⟨rfl, ?_⟩
  rw [Kernel.setAnswer_eq _ hlive hres, ← Kernel.modify_entered]
  exact (hsame.modify id _).trans (.audit _ _)

/-- With one free frame left, a process asks for a page where it has no page table yet. The frame is
given out and cleared before it turns out that there is none for the table, and is free again after
that. -/
theorem failed_call_unchanged_fresh : ∃ (k : Kernel) (f : TrapFrame),
    Reachable { maxProcesses := 2 } 6 k ∧ k.machine.frames.free.length = 1 ∧
    (k.trap 0 f).1 = .user (ProcessId.self.next 0)
      (f.withResult (encodeResult (.error .outOfMemory)).toUInt32) ∧
    (k.trap 0 f).2.machine.frames.free = k.machine.frames.free ∧
    (k.entered 0 (ProcessId.self.next 0)
      (f.withResult (encodeResult (.error .outOfMemory)).toUInt32)).Unchanged (k.trap 0 f).2 := by
  have hboot : Reachable { maxProcesses := 2 } 6 _ := .boot rfl (.refl _) rfl
  have hrun := (hboot.step (.spawn ⟨⟨0⟩, []⟩) trivial).step (.schedule 0) rfl
  have hlive : ∀ {k : Kernel}, Reachable { maxProcesses := 2 } 6 k →
      (k.live? (ProcessId.self.next 0)).any (fun p => p.status = .running) →
      ∃ p, k.live? (ProcessId.self.next 0) = some p ∧ p.status = .running := fun _ h => by
    simpa using (Option.any_eq_true ..).1 h
  obtain ⟨p, hp, hstatus⟩ := hlive hrun (by decide +kernel)
  have hfailed := @failed_call_unchanged _ _ _ 0 _ p
    (Kernel.callFrame (.initial 0) (.pageAlloc .self ⟨0x800000⟩ ⟨7⟩)) .outOfMemory
    hrun rfl hp hstatus rfl rfl (by decide +kernel)
  exact ⟨_, _, hrun, by decide +kernel, hfailed.1, by decide +kernel, hfailed.2⟩

end Exokernel
