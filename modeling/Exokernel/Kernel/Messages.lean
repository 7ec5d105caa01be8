/-
Messages between processes. A receiver blocks with its mailbox open; a sender either finds it open
and delivers one value, and possibly one page, or fails at once.

* `Kernel.trySend`: delivers to a receiver that waits. A receiver that does not wait is refused
  before the page is looked at, and a send that fails changes nothing;
* `Kernel.deliver`: the delivery itself;
* `Kernel.receive`: opens the mailbox of the caller and blocks it.
-/
import Exokernel.Kernel.Pages

namespace Exokernel.Kernel

/-- The mailbox after a delivery. -/
def deliveredMail (sender : ProcessId) (value : UInt32) (perm : Perm) : Mailbox :=
  { receiving := false, dstVa := none, sender, value, perm }

/-- Delivers a value, and a page if the sender gives one and the receiver takes one. Gives the
permissions with which the page was shown; they are empty if none was. -/
def deliver (k : Kernel) (caller target : ProcessId) (value : UInt32) (page : Option Nat)
    (perm : Perm) : Except KernelError (Perm × Kernel) := do
  let receiver ← k.table.get target
  if receiver.mailbox.receiving then
    let (shown, k) ← match page, receiver.mailbox.dstVa with
      | some frame, some dstVa => do
        let s ← k.spaceOf target
        let k ← k.withMachine (k.machine.map s frame dstVa perm)
        pure (perm, k)
      | _, _ => pure (Perm.none, k)
    let k := k.modify target fun p =>
      { p with mailbox := deliveredMail caller value shown, status := .runnable }
    return (shown, k.log .trace s!"[{caller}] ipc {Text.hexCode value} -> {target}")
  else throw .receiverNotWaiting

/-- The frame that the caller offers, if its address and the permissions are in order. -/
def offered (k : Kernel) (caller : ProcessId) (va : VirtAddr) (perm : Perm) :
    Except KernelError Nat := do
  checkAddress va
  checkPerm perm
  k.sharable caller va perm

/-- Whom `caller` means by `target`, if that process waits for a message. -/
def receiverOf (k : Kernel) (caller target : ProcessId) : Except KernelError ProcessId := do
  let target ← k.resolve caller target false
  let receiver ← k.table.get target
  if receiver.mailbox.receiving then return target else throw .receiverNotWaiting

/-- Delivers, and tells whether a page was shown to the receiver: 1 if so, and 0 otherwise. -/
def deliverTelling (k : Kernel) (caller target : ProcessId) (value : UInt32) (page : Option Nat)
    (perm : Perm) : Except KernelError UInt32 × Kernel :=
  match k.deliver caller target value page perm with
  | .error e => (.error e, k)
  | .ok (shown, k) => (.ok (if shown.isEmpty then 0 else 1), k)

/-- Sends `value` to `target`, with the caller's page at `srcVa` if there is one. Gives 1 if a page
was shown to the receiver, and 0 otherwise. -/
def trySend (k : Kernel) (caller target : ProcessId) (value : UInt32) (srcVa : Option VirtAddr)
    (perm : Perm) : Except KernelError UInt32 × Kernel :=
  match k.receiverOf caller target with
  | .error e => (.error e, k)
  | .ok target =>
    match srcVa with
    | none => k.deliverTelling caller target value none perm
    | some va =>
      match k.offered caller va perm with
      | .error e => (.error e, k)
      | .ok frame =>
        k.holding frame fun k => k.deliverTelling caller target value (some frame) perm

/-- Opens the mailbox of the caller and blocks it. The call answers 0 when the caller runs again. -/
def receive (k : Kernel) (cpu : Nat) (caller : ProcessId) (dstVa : Option VirtAddr) :
    Except KernelError Kernel := do
  if dstVa.all (·.isMappable) then
    let _ ← k.table.get caller
    let k := k.modify caller fun p =>
      { p with
        mailbox := { p.mailbox with receiving := true, dstVa }
        status := .notRunnable
        frame := p.frame.withResult 0 }
    return k.unbind cpu caller
  else throw .invalidArgument

end Exokernel.Kernel
