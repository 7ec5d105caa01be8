/-
System calls, from the registers of the caller to the answer in them.

* `Outcome`: how a call ends;
* `Kernel.execute`: carries out a call that has been understood. A call that fails changes nothing;
* `Kernel.systemCall`: takes the call from the saved registers of the caller, records it, carries it
  out, answers it and records the answer. A caller whose buffer is not its own is destroyed.
-/
import Exokernel.Kernel.Family
import Exokernel.Kernel.Messages
import Exokernel.Syscall

namespace Exokernel

/-- How a system call ends. -/
inductive Outcome where
  /-- The caller gets an answer and goes on. -/
  | answer (result : Except KernelError UInt32)
  /-- The caller gives up the processor and gets no answer now. -/
  | giveUp
  /-- The caller may not use the byte at this address of its own buffer. -/
  | badBuffer (va : VirtAddr)

namespace Kernel

/-! ### Carrying out a call -/

/-- Answers with a value, or with the error of a call that changed nothing. -/
def answer (k : Kernel) : Except KernelError (UInt32 × Kernel) → Outcome × Kernel
  | .error e => (.answer (.error e), k)
  | .ok (v, k) => (.answer (.ok v), k)

/-- Answers with what a call gives, zero if that is nothing in particular. -/
def tell {α : Type} (word : α → UInt32) (r : Except KernelError α × Kernel) : Outcome × Kernel :=
  (.answer (r.1.map word), r.2)

/-- Answers with zero, or with the error of a call that changed nothing. -/
def acknowledge (k : Kernel) : Except KernelError Kernel → Outcome × Kernel
  | .error e => (.answer (.error e), k)
  | .ok k => (.answer (.ok 0), k)

/-- Answers with zero, or with the error of a call on a buffer. -/
def acknowledgeBuffer (k : Kernel) : Except BufferError Kernel → Outcome × Kernel
  | .error (.kernel e) => (.answer (.error e), k)
  | .error (.inaccessible va) => (.badBuffer va, k)
  | .ok k => (.answer (.ok 0), k)

/-- Destroys the caller or a child of its. -/
def exit (k : Kernel) (cpu : Nat) (caller target : ProcessId) : Outcome × Kernel :=
  match k.resolve caller target true with
  | .error e => (.answer (.error e), k)
  | .ok target =>
    let k := k.log .info <|
      if target = caller then s!"[{caller}] exiting gracefully"
      else s!"[{caller}] destroying {target}"
    match k.destroyOn cpu target with
    | (.switch, k) => (.giveUp, k)
    | (.stay, k) => (.answer (.ok 0), k)

/-- The caller gives up the processor and stays ready to run. -/
def yield (k : Kernel) (cpu : Nat) (caller : ProcessId) : Kernel :=
  match k.live? caller with
  | none => k
  | some _ =>
    let k := k.modify caller fun p =>
      if p.status = .running then { p with status := .runnable } else p
    k.unbind cpu caller

/-- Carries out a system call. -/
def execute (k : Kernel) (cpu : Nat) (caller : ProcessId) : Syscall → Outcome × Kernel
  | .putString va len => k.acknowledgeBuffer (k.putString caller va len)
  | .getId => (.answer (.ok caller.raw), k)
  | .destroy target => k.exit cpu caller target
  | .yield => (.giveUp, k.yield cpu caller)
  | .exofork => k.answer (k.exofork caller)
  | .setStatus target status => k.acknowledge (k.setStatus caller target status)
  | .setFrame target frameVa => k.acknowledgeBuffer (k.setFrame caller target frameVa)
  | .setFaultHandler target entry => k.acknowledge (k.setFaultHandler caller target entry)
  | .pageAlloc target va perm => tell (fun _ => 0) (k.pageAlloc caller target va perm)
  | .pageMap src srcVa dst dstVa perm =>
    tell (fun _ => 0) (k.pageMap caller src srcVa dst dstVa perm)
  | .pageUnmap target va => k.acknowledge (k.pageUnmap caller target va)
  | .trySend target value srcVa perm => tell id (k.trySend caller target value srcVa perm)
  | .receive dstVa =>
    match k.receive cpu caller dstVa with
    | .error e => (.answer (.error e), k)
    | .ok k => (.giveUp, k)
  | .time => (.answer (.ok k.machine.millis), k)

/-! ### From the registers to the answer -/

/-- Understands a call and carries it out. -/
def perform (k : Kernel) (cpu : Nat) (caller : ProcessId) (call : RawCall) : Outcome × Kernel :=
  match Syscall.decode call with
  | .ok c => (k.log .trace s!"[{caller}] {c.name}").execute cpu caller c
  | .error e => (.answer (.error e), k.log .warn s!"[{caller}] bad syscall {call.number}")

/-- Puts an answer into the register of the caller, if the caller is still bound to the processor
that it called on. -/
def setAnswer (k : Kernel) (cpu : Nat) (caller : ProcessId) (answer : Int32) : Kernel :=
  match k.live? caller with
  | none => k
  | some p =>
    if p.resident = some cpu then
      k.modify caller fun p => { p with frame := p.frame.withResult answer.toUInt32 }
    else k

/-- Ends the call that was recorded as event number `request`. -/
def conclude (k : Kernel) (cpu : Nat) (caller : ProcessId) (request : Nat) :
    Outcome → Flow × Kernel
  | .answer result =>
    let answer := encodeResult result
    (.stay, (k.setAnswer cpu caller answer).audit caller (.response request (some answer)))
  | .giveUp => (.switch, k.audit caller (.response request none))
  | .badBuffer va =>
    let k := k.log .warn s!"[{caller}] user_mem_check assertion failure for va {va}"
    let k := k.audit caller (.response request none)
    let k := k.auditTermination caller (.badUserBuffer va.word)
    k.destroyOn cpu caller

/-- Handles the system call in the saved registers of `caller`. -/
def systemCall (k : Kernel) (cpu : Nat) (caller : ProcessId) : Flow × Kernel :=
  match k.live? caller with
  | none => (.stay, k)
  | some p =>
    let call := p.frame.call
    let request := k.auditLog.nextId
    let k := k.audit caller (.request call.number call.args)
    let (outcome, k) := k.perform cpu caller call
    k.conclude cpu caller request outcome

end Kernel

end Exokernel
