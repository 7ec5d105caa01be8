/-
What a caller reads out of an answer.

* `Kernel.Gives`: the value with which each call succeeds, and `Kernel.execute_gives`: it is that;
* `Reachable.id_positive`: the identities of processes are positive as signed numbers;
* `Kernel.trap_received`: a process that waits for a message finds zero when it goes on;
* `Kernel.Ticked`, `Reachable.ticks`: a processor that halts lets the clock tick as often as one
  likes, and nothing else happens;
* `answers_decode`: **an answer is told back as it was given**, with one exception: the time, once
  it has its highest bit set.
-/
import Exokernel.Proofs.Identities
import Exokernel.Proofs.Kernel.Returns
import Exokernel.Proofs.Kernel.Trails
import Exokernel.Proofs.Kernel.Answers
import Exokernel.Proofs.Kernel.Sends

namespace Exokernel

namespace Kernel

variable {k k' : Kernel} {id caller : ProcessId} {p : Process} {cpu slot : Nat} {f : TrapFrame}
  {c : Syscall} {v : UInt32}

/-! ### The values of calls that succeed -/

/-- The value that a call of `caller` gives when it succeeds: an identity, whether a page was sent,
the time, or zero. -/
def Gives (k : Kernel) (caller : ProcessId) : Syscall → UInt32 → Prop
  | .getId, v => v = caller.raw
  | .exofork, v => ∃ slot child, k.issue? caller .notRunnable = some (slot, child) ∧ v = child.raw
  | .trySend .., v => v = 0 ∨ v = 1
  | .time, v => v = k.machine.millis
  | .putString .., v | .destroy _, v | .yield, v | .setStatus .., v | .setFrame .., v
  | .setFaultHandler .., v | .pageAlloc .., v | .pageMap .., v | .pageUnmap .., v
  | .receive _, v => v = 0

lemma acknowledgeBuffer_ok {r : Except BufferError Kernel}
    (h : (k.acknowledgeBuffer r).1 = .answer (.ok v)) : v = 0 := by
  cases r with
  | ok k₁ => cases h; rfl
  | error e => cases e <;> cases h

lemma exit_ok {target : ProcessId} (h : (k.exit cpu caller target).1 = .answer (.ok v)) :
    v = 0 := by
  rw [exit] at h
  split at h
  · cases h
  · dsimp only at h
    split at h
    · cases h
    · cases h
      rfl

/-- **A call that succeeds gives its value.** -/
lemma execute_gives (hk : k.Sound) (h : (k.execute cpu caller c).1 = .answer (.ok v)) :
    k.Gives caller c v := by
  cases c with
  | putString va len => exact acknowledgeBuffer_ok h
  | setFrame target va => exact acknowledgeBuffer_ok h
  | getId | time =>
    cases h
    rfl
  | destroy target => exact exit_ok h
  | yield => cases h
  | exofork =>
    obtain ⟨parent, child, k₁, -, hmade, rfl, -⟩ := exofork_cases (answer_ok (Prod.ext h rfl))
    obtain ⟨slot, rest, -, -, hfree, -, -, -⟩ := allocateAs_cases hmade
    exact ⟨slot, child, issue?_of_allocateAs hmade (by rw [hfree]; rfl), rfl⟩
  | setStatus | setFaultHandler | pageUnmap => exact (acknowledge_ok (Prod.ext h rfl)).2
  | pageAlloc | pageMap =>
    obtain ⟨-, -, hv⟩ := tell_ok (Prod.ext h rfl)
    exact hv
  | trySend target value va perm =>
    obtain ⟨w, hsend, rfl⟩ := tell_ok (Prod.ext h rfl)
    obtain ⟨t, q, -, hconveys⟩ := trySend_ok hk (congrArg Prod.fst hsend)
    have hw := hconveys.answer
    split at hw
    · exact .inr hw
    · exact .inl hw
  | receive dstVa =>
    rw [execute] at h
    split at h <;> cases h

/-- What is given by the kernel that has saved the registers of the caller, the kernel gives that it
trapped into. -/
lemma Saved.gives (h : k.Saved id f k') (hmillis : k'.machine.millis = k.machine.millis)
    (hv : k'.Gives caller c v) : k.Gives caller c v := by
  cases c with
  | exofork =>
    obtain ⟨slot, child, hissue, rfl⟩ := hv
    exact ⟨slot, child, h.issue?.symm.trans hissue, rfl⟩
  | time => exact Eq.trans hv hmillis
  | _ => exact hv

/-- **A trap that is answered with a value** made a call that gives it. -/
lemma performed_gives (hk : k.Sound) (hp : k.live? id = some p)
    (hout : (k.performed cpu id f).1 = .answer (.ok v)) :
    ∃ c, Syscall.decode f.call = .ok c ∧ k.Gives id c v := by
  cases hc : Syscall.decode f.call with
  | error e =>
    obtain ⟨k₁, -, heq⟩ := performed_error k id cpu hc
    rw [heq] at hout
    cases hout
  | ok c =>
    have hsaved : k.Saved id f ((k.called cpu id f).log .trace s!"[{id}] {c.name}") :=
      ⟨_, quiet_countTrap, (quiet_audit _ _).trans (quiet_log _ _)⟩
    rw [performed, perform, hc] at hout
    exact ⟨c, rfl, hsaved.gives (millis_log ..) (execute_gives (hsaved.sound hk hp) hout)⟩

/-! ### Waiting for a message -/

/-- **A process that waits for a message** finds zero when it goes on. -/
lemma trap_received {dstVa : Option VirtAddr} (hk : k.Sound) (hcur : k.current? cpu = some id)
    (hp : k.live? id = some p) (huser : f.isUser) (hcause : TrapCause.ofNumber f.trapno = .syscall)
    (hc : Syscall.decode f.call = .ok (.receive dstVa))
    (hout : (k.performed cpu id f).1 = .giveUp) :
    ∃ q, (k.trap cpu f).2.live? id = some q ∧ q.frame.regs.eax = 0 := by
  have hres := (hk.current?_iff hp).1 hcur
  obtain ⟨request, hhandle⟩ := handle_performed cpu hp hcause
  have hlive := trap_live hk hcur hp hres huser
  obtain ⟨k₁, hsaved, heq⟩ := performed_ok k id cpu hc
  rw [heq, execute] at hout
  rw [hhandle, heq, execute] at hlive
  cases hrec : k₁.receive cpu id dstVa with
  | error e =>
    rw [hrec] at hout
    cases hout
  | ok k₂ =>
    have hwaits : (k₂.audit id (.response request none)).live? id = _ :=
      ((quiet_audit _ _).live? id).trans (live?_receive (hsaved.live? hp) hres hrec).2
    rw [hrec] at hlive
    dsimp only [conclude] at hlive
    rw [hwaits] at hlive
    obtain ⟨q, hq, hframe, -⟩ := hlive
    exact ⟨q, hq, by rw [hframe]; rfl⟩

end Kernel

/-! ### Identities as answers -/

/-- **The identities of processes are positive as signed numbers**, in whatever state. -/
lemma Reachable.id_positive {config : Config} {frames : Nat} {k : Kernel}
    (h : Reachable config frames k) {slot : Nat} {p : Process}
    (hp : k.table.records[slot]? = some p) : p.id.raw.toNat < 2 ^ 31 := by
  induction h generalizing p with
  | boot hcreate _ hboot =>
    rw [Kernel.record_start hcreate hboot hp]
    decide
  | @step k hreach op hlegal ih =>
    rcases op.id_or_issue? hreach.sound hp with hlast | hissue
    · -- the slot had this identity before
      rw [hlast, ProcessTable.lastId]
      cases hp' : k.table.records[slot]? with
      | none => decide
      | some q => exact ih hp'
    · obtain ⟨hnext, hfree⟩ := op.issue?_next hissue
      obtain ⟨q, hq, -⟩ := (hreach.sound.tables.mem_free_iff slot).1 hfree
      have hslot := Nat.lt_of_lt_of_le (Array.getElem?_eq_some_iff.1 hq).1
        hreach.sound.tables.small
      rw [hnext]
      exact (ProcessId.iterate_next_bounds _ hslot 0).2.1

/-- **What a call gives is not negative as a signed number**, unless it is the time. -/
lemma Reachable.gives_positive {config : Config} {frames : Nat} {k : Kernel} {id : ProcessId}
    {p : Process} {c : Syscall} {v : UInt32} (h : Reachable config frames k)
    (hp : k.live? id = some p) (hv : k.Gives id c v) (hc : c ≠ .time) : v.toNat < 2 ^ 31 := by
  cases c with
  | getId =>
    obtain ⟨hrec, rfl, -⟩ := Kernel.live?_eq_some_iff.1 hp
    rw [show v = p.id.raw from hv]
    exact h.id_positive hrec
  | exofork =>
    obtain ⟨slot, child, hissue, rfl⟩ := hv
    obtain ⟨rfl, hfree⟩ := Kernel.issue?_eq_some hissue
    obtain ⟨q, hq, -⟩ := (h.sound.tables.mem_free_iff slot).1 hfree
    have hslot := Nat.lt_of_lt_of_le (Array.getElem?_eq_some_iff.1 hq).1 h.sound.tables.small
    exact (ProcessId.iterate_next_bounds _ hslot 0).2.1
  | trySend target value va perm =>
    rcases hv with rfl | rfl <;> decide
  | time => exact absurd rfl hc
  | _ =>
    obtain rfl : v = 0 := hv
    decide

/-! ### The clock -/

namespace Kernel

/-- One state is the other with its clock ticked `n` times, as far as processes and processors
go. -/
structure Ticked (n : Nat) (k k' : Kernel) : Prop where
  table : k'.table = k.table
  cpus : k'.cpus.size = k.cpus.size
  current : ∀ cpu, k'.current? cpu = k.current? cpu
  ticks : k'.machine.ticks = k.machine.ticks + UInt32.ofNat n

variable {k k' k'' : Kernel} {n : Nat}

lemma Ticked.snoc (h : Ticked n k k') (h' : Ticked 1 k' k'') : Ticked (n + 1) k k'' where
  table := h'.table.trans h.table
  cpus := h'.cpus.trans h.cpus
  current cpu := (h'.current cpu).trans (h.current cpu)
  ticks := by rw [h'.ticks, h.ticks, UInt32.ofNat_add, UInt32.add_assoc]

lemma ticks_log (level : LogLevel) (message : String) :
    (k.log level message).machine.ticks = k.machine.ticks := by
  rw [Kernel.log]
  split <;> rfl

/-- The trap by which the clock interrupts a processor that halts. -/
abbrev clockFrame : TrapFrame := .kernel (Irq.offset + Irq.timer)

/-- A processor that halts, with nothing to run, lets the clock tick and halts again. -/
lemma trap_tick (hcpu : Machine.bootCpu < k.cpus.size)
    (hnone : k.current? Machine.bootCpu = none) (hnext : k.nextSlot? = none)
    (hidle : k.dispatchable idleSlot = false) :
    Ticked 1 k (k.trap Machine.bootCpu clockFrame).2 := by
  let k₁ := (k.modifyCpu Machine.bootCpu fun c => { c with traps := c.traps + 1 })
    |>.acknowledgeInterrupt Machine.bootCpu .timer
  have hquiet : k.Quiet k₁ := quiet_countTrap.trans (quiet_acknowledgeInterrupt _)
  have hcpus : k₁.cpus.size = k.cpus.size := Array.size_modify
  have hschedule : k₁.schedule Machine.bootCpu =
      (.idle, (k₁.log .trace s!"cpu {Machine.bootCpu}: nothing to run, halting").activate
        Machine.bootCpu none) := by
    have hnext₁ : k₁.nextSlot? = none := hnext
    have hidle₁ : k₁.dispatchable idleSlot = false := hidle
    rw [schedule, if_pos (hcpus ▸ hcpu), hnext₁]
    dsimp only
    rw [if_neg fun h => by rw [hidle₁] at h; exact Bool.noConfusion h.2]
  have htrap : k.trap Machine.bootCpu clockFrame = k₁.schedule Machine.bootCpu := by
    rw [current?, Array.getElem?_eq_getElem hcpu, Option.bind_some] at hnone
    rw [trap, Array.getElem?_eq_getElem hcpu]
    dsimp only
    rw [hnone]
    rfl
  have hlog := quiet_log (k := k₁) .trace s!"cpu {Machine.bootCpu}: nothing to run, halting"
  rw [htrap, hschedule]
  exact {
    table := by rw [Kernel.log]; split <;> rfl
    cpus := hlog.same.cpus.trans hcpus
    current := fun cpu => (hlog.current cpu).trans (hquiet.current cpu)
    ticks := ticks_log .. }

end Kernel

open Kernel in
/-- **The clock ticks as often as one likes** while a processor has nothing to run, and nothing else
happens to processes and processors. -/
lemma Reachable.ticks {config : Config} {frames : Nat} {k : Kernel} (h : Reachable config frames k)
    (hcpu : Machine.bootCpu < k.cpus.size) (hnone : k.current? Machine.bootCpu = none)
    (hnext : k.nextSlot? = none) (hidle : k.dispatchable Kernel.idleSlot = false) (n : Nat) :
    ∃ k', Reachable config frames k' ∧ Ticked n k k' := by
  induction n with
  | zero => exact ⟨k, h, rfl, rfl, fun _ => rfl, by simp⟩
  | succ n ih =>
    obtain ⟨k', hk', hticked⟩ := ih
    refine ⟨_, hk'.step (.trap Machine.bootCpu clockFrame) trivial, hticked.snoc (trap_tick ?_ ?_
      ?_ ?_)⟩
    · rwa [hticked.cpus]
    · rwa [hticked.current]
    · rwa [nextSlot?, show k'.dispatchable = k.dispatchable by
        funext slot; rw [dispatchable, dispatchable, hticked.table], hticked.table]
    · rwa [dispatchable, hticked.table]

/-! ### Any answer -/

/-- A word is negative as a signed number exactly if its highest bit is set. -/
lemma toInt32_neg_iff (v : UInt32) : v.toInt32 < 0 ↔ 2 ^ 31 ≤ v.toNat := by
  have h := @BitVec.toInt_neg_iff 32 v.toBitVec
  rw [Int32.lt_iff_toInt_lt, Int32.toInt_zero, ← UInt32.toNat_toBitVec]
  change v.toBitVec.toInt < 0 ↔ _
  omega

/-- A value is told back as it was exactly if its highest bit is not set. -/
lemma decodeResult_ok_iff (v : UInt32) :
    decodeResult (encodeResult (.ok v)) = .ok v ↔ v.toNat < 2 ^ 31 := by
  rw [decodeResult_encodeResult_ok, toInt32_neg_iff, Nat.not_le]

/-- **An answer is told back as it was given**, whatever state the kernel is in. A call that is
answered leaves the answer in the registers of the caller. An error is told back as that error. A
value is the one that the call gives, and unless the call asked for the time it is not negative as a
signed number and is told back as that value. The time is told back if its highest bit is not set;
otherwise the caller is told of an error that did not happen. A caller that waits for a message
finds zero. -/
theorem answers_decode {config : Config} {frames : Nat} {k : Kernel} {cpu : Nat} {id : ProcessId}
    {f : TrapFrame} (h : Reachable config frames k) (hcur : k.current? cpu = some id)
    (hlive : (k.live? id).isSome) (huser : f.isUser)
    (hcause : TrapCause.ofNumber f.trapno = .syscall) :
    (∀ result, (k.performed cpu id f).1 = .answer result → ∃ q answer,
      (k.trap cpu f).2.live? id = some q ∧ q.frame.regs.eax.toInt32 = answer ∧
      match result with
      | .error e => decodeResult answer = .error e
      | .ok v => ∃ c, Syscall.decode f.call = .ok c ∧ k.Gives id c v ∧
          (c ≠ .time → ¬answer < 0 ∧ decodeResult answer = .ok v) ∧
          (c = .time → if k.machine.millis.toNat < 2 ^ 31 then decodeResult answer = .ok v
            else ∃ e, decodeResult answer = .error e)) ∧
    ∀ dstVa, Syscall.decode f.call = .ok (.receive dstVa) →
      (k.performed cpu id f).1 = .giveUp → ∃ q, (k.trap cpu f).2.live? id = some q ∧
        decodeResult q.frame.regs.eax.toInt32 = .ok 0 := by
  obtain ⟨p, hp⟩ := Option.isSome_iff_exists.1 hlive
  have hk := h.sound
  have hres := (hk.current?_iff hp).1 hcur
  refine ⟨fun result hout => ?_, fun dstVa hc hout => ?_⟩
  · obtain ⟨q, hq, heax⟩ := Kernel.trap_answered hk hcur hp hres huser hcause hout
    refine ⟨q, _, hq, by rw [heax, Int32.toInt32_toUInt32], ?_⟩
    cases result with
    | error e => exact decodeResult_encodeResult_error e
    | ok v =>
      obtain ⟨c, hc, hgives⟩ := Kernel.performed_gives hk hp hout
      refine ⟨c, hc, hgives, fun hne => ?_, ?_⟩
      · have hsmall := h.gives_positive hp hgives hne
        refine ⟨fun hneg => ?_, (decodeResult_ok_iff v).2 hsmall⟩
        exact Nat.not_le.2 hsmall ((toInt32_neg_iff v).1 hneg)
      · rintro rfl
        obtain rfl : v = k.machine.millis := hgives
        split
        · next hsmall => exact (decodeResult_ok_iff _).2 hsmall
        · next hlarge =>
          have hneg : k.machine.millis.toInt32 < 0 :=
            (toInt32_neg_iff _).2 (Nat.not_lt.1 hlarge)
          exact ⟨_, if_pos hneg⟩
  · obtain ⟨q, hq, heax⟩ := Kernel.trap_received hk hcur hp huser hcause hc hout
    exact ⟨q, hq, by rw [heax]; rfl⟩

/-- The registers of a process that makes a call. -/
abbrev callingFrame (c : Syscall) : TrapFrame :=
  { (TrapFrame.initial 0).withCall c.encode with trapno := TrapNumber.syscall }

/-- A process runs on the second of two processors, and the first one halts. -/
lemma reachable_second_runs : ∃ k : Kernel, Reachable { maxProcesses := 2, cpus := 2 } 16 k ∧
    Machine.bootCpu < k.cpus.size ∧ k.current? Machine.bootCpu = none ∧
    k.current? 1 = some (ProcessId.self.next 0) ∧ (k.live? (ProcessId.self.next 0)).isSome ∧
    k.nextSlot? = none ∧ k.dispatchable Kernel.idleSlot = false ∧ k.machine.ticks = 0 := by
  have hboot : Reachable { maxProcesses := 2, cpus := 2 } 16 _ := .boot rfl (.refl _) rfl
  have hspawn := hboot.step (.spawn ⟨⟨0⟩, []⟩) trivial
  have hrun := hspawn.step (.schedule 1) rfl
  exact ⟨_, hrun, by decide +kernel⟩

/-- A process asks for its identity and reads it out of the answer. -/
theorem answers_decode_identity : ∃ k : Kernel,
    Reachable { maxProcesses := 2, cpus := 2 } 16 k ∧
    k.current? 1 = some (ProcessId.self.next 0) ∧ (k.live? (ProcessId.self.next 0)).isSome ∧
    (callingFrame .getId).isUser ∧
    TrapCause.ofNumber (callingFrame .getId).trapno = .syscall ∧
    ∃ q answer, (k.trap 1 (callingFrame .getId)).2.live? (ProcessId.self.next 0) = some q ∧
      q.frame.regs.eax.toInt32 = answer ∧ ¬answer < 0 ∧ decodeResult answer = .ok 4096 := by
  obtain ⟨k, hk, -, -, hcur, hlive, -⟩ := reachable_second_runs
  obtain ⟨hanswer, -⟩ := answers_decode (f := callingFrame .getId) hk hcur hlive (by decide)
    (by decide)
  obtain ⟨q, answer, hq, heax, c, hc, -, hother, -⟩ := hanswer (.ok 4096) rfl
  have hget : c = .getId := (Except.ok.inj hc).symm
  obtain ⟨hpos, hdecoded⟩ := hother (by rw [hget]; nofun)
  exact ⟨k, hk, hcur, hlive, by decide, by decide, q, answer, hq, heax, hpos, hdecoded⟩

/-- **The time is taken for an error** when the clock has ticked 214748365 times: the call gives
2147483650 milliseconds, and its caller reads that an argument makes no sense. -/
theorem time_read_as_error : ∃ k : Kernel,
    Reachable { maxProcesses := 2, cpus := 2 } 16 k ∧
    k.current? 1 = some (ProcessId.self.next 0) ∧
    (k.performed 1 (ProcessId.self.next 0) (callingFrame .time)).1 = .answer (.ok 2147483650) ∧
    ∃ q, (k.trap 1 (callingFrame .time)).2.live? (ProcessId.self.next 0) = some q ∧
      q.frame.regs.eax.toInt32 < 0 ∧
      decodeResult q.frame.regs.eax.toInt32 = .error .invalidArgument := by
  obtain ⟨k₀, hk₀, hcpu, hnone, hcur₀, hlive₀, hnext, hidle, hstart⟩ := reachable_second_runs
  obtain ⟨k, hk, hticked⟩ := hk₀.ticks hcpu hnone hnext hidle 214748365
  have hcur : k.current? 1 = some (ProcessId.self.next 0) := (hticked.current 1).trans hcur₀
  obtain ⟨p, hp⟩ : ∃ p, k.live? (ProcessId.self.next 0) = some p :=
    Option.isSome_iff_exists.1 (by rwa [Kernel.live?, hticked.table])
  have hmillis : k.machine.millis = 2147483650 := by
    rw [Machine.millis, hticked.ticks, hstart]
    rfl
  have hout : (k.performed 1 (ProcessId.self.next 0) (callingFrame .time)).1 =
      .answer (.ok 2147483650) := by
    have hc : Syscall.decode (callingFrame .time).call = .ok .time := rfl
    rw [Kernel.performed, Kernel.perform, hc, ← hmillis]
    exact congrArg (fun v => Outcome.answer (.ok v)) (Kernel.millis_log ..)
  obtain ⟨q, hq, heax⟩ := Kernel.trap_answered hk.sound hcur hp
    ((hk.sound.current?_iff hp).1 hcur) (by decide) (by decide) hout
  exact ⟨k, hk, hcur, hout, q, hq, by rw [heax]; decide, by rw [heax]; rfl⟩

end Exokernel
