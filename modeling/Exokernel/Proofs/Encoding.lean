/-
System calls on their way through the registers.

* `Syscall.arity`: how many of the five words a call uses;
* `Syscall.Writable`: a call that registers can carry. The address that stands for no page is not a
  page of any call that does;
* `Syscall.decode_eq_ok_iff`: the words of a call are its number and the arguments that it uses, and
  the others do not matter;
* `Kernel.trap_encoded`: a trap with the words of a call carries out that call;
* `call_round_trip`: **a system call survives its trip through the registers**, both ways and
  through the trap.
-/
import Exokernel.Proofs.Kernel.Answers
import Exokernel.Proofs.Kernel.Entries
import Exokernel.Proofs.Runs

namespace Exokernel

/-- The call with its first `n` arguments, and zeros for the others. -/
def RawCall.first (r : RawCall) (n : Nat) : RawCall where
  number := r.number
  a1 := if 0 < n then r.a1 else 0
  a2 := if 1 < n then r.a2 else 0
  a3 := if 2 < n then r.a3 else 0
  a4 := if 3 < n then r.a4 else 0
  a5 := if 4 < n then r.a5 else 0

namespace Syscall

variable {r : RawCall} {c c' : Syscall}

/-! ### The words of a call -/

/-- How many words a call uses besides its number. -/
def arity : Syscall → Nat
  | .getId | .yield | .exofork | .time => 0
  | .destroy _ | .receive _ => 1
  | .putString .. | .setStatus .. | .setFrame .. | .setFaultHandler .. | .pageUnmap .. => 2
  | .pageAlloc .. => 3
  | .trySend .. => 4
  | .pageMap .. => 5

/-- The page that a call names or leaves out. -/
def page? : Syscall → Option VirtAddr
  | .trySend _ _ srcVa _ => srcVa
  | .receive dstVa => dstVa
  | _ => none

/-- A call that registers can carry: its page is not the address that stands for none. -/
abbrev Writable (c : Syscall) : Prop := c.page? ≠ some ⟨noPage⟩

/-- No argument names the address that stands for no page. -/
lemma pageArg_ne_noPage (w : UInt32) : pageArg w ≠ some ⟨noPage⟩ := by
  rw [pageArg]
  split
  · rintro ⟨⟩
  · next hne =>
    rw [Ne, Option.some.injEq, VirtAddr.mk.injEq]
    exact hne

/-- **A call that was written is read again.** -/
lemma decode_encode (h : c.Writable) : decode c.encode = .ok c := by
  cases c with
  | setStatus target status => cases status <;> rfl
  | trySend target value srcVa perm =>
    exact congrArg (fun page => Except.ok (Syscall.trySend target value page perm))
      (pageArg_pageWord h)
  | receive dstVa =>
    exact congrArg (fun page => Except.ok (Syscall.receive page)) (pageArg_pageWord h)
  | _ => rfl

/-- The words of a call of one number, or of a later one in the table. -/
lemma encode_of_branch {number : UInt32} {c' : Syscall} {rest : Except KernelError Syscall}
    (hhere : r.number = number → c'.Writable ∧ c'.encode = r.first c'.arity)
    (hrest : rest = .ok c → c.Writable ∧ c.encode = r.first c.arity)
    (h : (if r.number = number then .ok c' else rest) = .ok c) :
    c.Writable ∧ c.encode = r.first c.arity := by
  split at h
  · next hnumber =>
    cases h
    exact hhere hnumber
  · exact hrest h

/-- **What was read is written again**, but for the words that the call does not use. -/
lemma encode_of_decode (h : decode r = .ok c) : c.Writable ∧ c.encode = r.first c.arity := by
  rw [decode] at h
  revert h
  iterate 5 refine encode_of_branch (fun hn => ⟨nofun, by rw [encode, ← hn]; rfl⟩) ?_
  intro h
  by_cases hn : r.number = SyscallNumber.setStatus
  · rw [if_pos hn] at h
    split at h
    · next status hstatus =>
      cases h
      refine ⟨nofun, ?_⟩
      rw [encode, ← hn, ProcessStatus.number_of_ofNumber? hstatus]
      rfl
    · cases h
  rw [if_neg hn] at h
  revert h
  iterate 5 refine encode_of_branch (fun hn => ⟨nofun, by rw [encode, ← hn]; rfl⟩) ?_
  refine encode_of_branch (fun hn => ⟨pageArg_ne_noPage _, ?_⟩) ?_
  · rw [encode, ← hn, pageWord_pageArg]
    rfl
  refine encode_of_branch (fun hn => ⟨pageArg_ne_noPage _, ?_⟩) ?_
  · rw [encode, ← hn, pageWord_pageArg]
    rfl
  refine encode_of_branch (fun hn => ⟨nofun, by rw [encode, ← hn]; rfl⟩) ?_
  nofun

/-- **The words of a call** are its number and the arguments that it uses: the others do not
matter. -/
lemma decode_eq_ok_iff : decode r = .ok c ↔ c.Writable ∧ c.encode = r.first c.arity := by
  refine ⟨encode_of_decode, fun ⟨hpage, hwords⟩ => ?_⟩
  rw [← decode_encode hpage]
  obtain ⟨number, a1, a2, a3, a4, a5⟩ := r
  cases c with
  -- these two carry a plain word, which the equation of the words is written out for
  | putString va len =>
    have hwords : RawCall.mk _ va.word len 0 0 0 = ⟨number, a1, a2, 0, 0, 0⟩ := hwords
    cases hwords
    rfl
  | trySend target value srcVa perm =>
    have hwords : RawCall.mk _ target.raw value _ _ 0 = ⟨number, a1, a2, a3, a4, 0⟩ := hwords
    cases hwords
    rfl
  | _ =>
    cases hwords
    rfl

/-- Calls that registers can carry are carried by different words. -/
lemma encode_injective (hc : c.Writable) (hc' : c'.Writable) (heq : c.encode = c'.encode) :
    c = c' := by
  have hread : decode c.encode = decode c'.encode := congrArg decode heq
  rw [decode_encode hc, decode_encode hc'] at hread
  exact Except.ok.inj hread

end Syscall

/-! ### Through the trap -/

namespace Kernel

variable {k : Kernel} {id : ProcessId} {p : Process} {cpu : Nat} {f : TrapFrame} {c : Syscall}

/-- **A trap with the words of a call** carries out that call, after it has told the log, and ends
it with its outcome. -/
lemma trap_encoded (hk : k.Sound) (hp : k.live? id = some p) (hres : p.resident = some cpu)
    (huser : f.isUser) (hc : c.Writable) : k.trap cpu (callFrame f c) =
      let told := (k.called cpu id (callFrame f c)).log .trace s!"[{id}] {c.name}"
      let done := told.execute cpu id c
      let ended := done.2.conclude cpu id k.auditLog.nextId done.1
      ended.2.leave cpu id ended.1 := by
  have hperform : k.performed cpu id (callFrame f c) =
      ((k.called cpu id (callFrame f c)).log .trace s!"[{id}] {c.name}").execute cpu id c := by
    rw [performed, perform, show (callFrame f c).call = c.encode from rfl,
      Syscall.decode_encode hc]
  have hhandle : (k.entered cpu id (callFrame f c)).handle cpu id (callFrame f c) =
      (k.performed cpu id (callFrame f c)).2.conclude cpu id k.auditLog.nextId
        (k.performed cpu id (callFrame f c)).1 := by
    rw [handle, show TrapCause.ofNumber (callFrame f c).trapno = .syscall from rfl]
    dsimp only
    rw [systemCall, (entered_saved k cpu id _).live? hp]
    rfl
  have huser : (callFrame f c).isUser := huser
  rw [trap_entered ((hk.current?_iff hp).2 hres) hp hres huser, hhandle, hperform]

end Kernel

/-! ### Both ways -/

/-- **A system call survives its trip through the registers.** A call that was read writes its
number and the words that it uses, and zeros for the others, and reads the same again; a call that
does not name the address that stands for no page is read as it was written, so that no two such
calls are written alike; and a process that traps out of user code with the words of such a call in
its registers, whatever else they hold, has that call carried out. -/
theorem call_round_trip {config : Config} {frames : Nat} :
    (∀ (r : RawCall) (c : Syscall), Syscall.decode r = .ok c →
      c.encode = r.first c.arity ∧ Syscall.decode c.encode = .ok c) ∧
    (∀ c : Syscall, c.Writable → Syscall.decode c.encode = .ok c) ∧
    (∀ c c' : Syscall, c.Writable → c'.Writable → c ≠ c' → c.encode ≠ c'.encode) ∧
    ∀ (k : Kernel) (cpu : Nat) (id : ProcessId) (p : Process) (f : TrapFrame) (c : Syscall),
      Reachable config frames k → k.live? id = some p → p.resident = some cpu → f.isUser →
      c.Writable → k.trap cpu (Kernel.callFrame f c) =
        let told := (k.called cpu id (Kernel.callFrame f c)).log .trace s!"[{id}] {c.name}"
        let done := told.execute cpu id c
        let ended := done.2.conclude cpu id k.auditLog.nextId done.1
        ended.2.leave cpu id ended.1 := by
  refine ⟨fun r c hread => ?_, fun c => Syscall.decode_encode, fun c c' hc hc' hne heq => ?_,
    fun k cpu id p f c hk hp hres huser hc => Kernel.trap_encoded hk.sound hp hres huser hc⟩
  · obtain ⟨hpage, hwords⟩ := Syscall.decode_eq_ok_iff.1 hread
    exact ⟨hwords, Syscall.decode_encode hpage⟩
  · exact hne (Syscall.encode_injective hc hc' heq)

/-- A process waits for a message and takes no page; its registers hold other words as well. -/
theorem call_round_trip_receive : ∃ (k : Kernel) (id : ProcessId) (p : Process),
    Reachable { maxProcesses := 2 } 16 k ∧ k.live? id = some p ∧ p.resident = some 0 ∧
    Syscall.decode ⟨12, noPage, 2, 3, 4, 5⟩ = .ok (.receive none) ∧
    (Syscall.receive none).encode = ⟨12, noPage, 0, 0, 0, 0⟩ ∧
    (Syscall.receive none).encode ≠ (Syscall.receive (some ⟨0⟩)).encode ∧
    k.trap 0 (Kernel.callFrame (.initial 7) (.receive none)) =
      let told := (k.called 0 id (Kernel.callFrame (.initial 7) (.receive none))).log .trace
        s!"[{id}] ipc_recv"
      let done := told.execute 0 id (.receive none)
      let ended := done.2.conclude 0 id k.auditLog.nextId done.1
      ended.2.leave 0 id ended.1 := by
  have hboot : Reachable { maxProcesses := 2 } 16 _ := .boot rfl (.refl _) rfl
  have hreach := (hboot.step (.spawn ⟨⟨0⟩, []⟩) trivial).step (.schedule 0) rfl
  obtain ⟨hreads, -, hdiffer, htraps⟩ := @call_round_trip { maxProcesses := 2 } 16
  have hread : Syscall.decode ⟨12, noPage, 2, 3, 4, 5⟩ = .ok (.receive none) := rfl
  exact ⟨_, ⟨4096⟩, _, hreach, rfl, rfl, hread, (hreads _ _ hread).1,
    hdiffer _ _ (by decide) (by decide) (by decide),
    htraps _ 0 _ _ (.initial 7) (.receive none) hreach rfl rfl rfl (by decide)⟩

end Exokernel
