/-
Messages as processes exchange them.

* `Program.Sends`: a message is sent, and sent again after a pause as long as the receiver does not
  wait, however long that may be;
* `Program.send`: the same with a bound on how often it is sent again. After the last refusal it
  fails with that refusal;
* `Program.receive`: waits for a message and reads it from the mailbox.
-/
import Exokernel.LibOS.Host

namespace Exokernel

/-- What came over with a message. -/
inductive Delivery where
  | value
  /-- A page as well. -/
  | page
  deriving DecidableEq

/-- A message that was received. -/
structure Received where
  value : UInt32
  sender : ProcessId
  /-- The permissions of the page that came with it; empty if none did. -/
  perm : Perm
  deriving DecidableEq

namespace Program

variable {σ : Type} [Host σ]

/-- One attempt to send `value` to `target`, with the page at `srcVa` if there is one. It gives
nothing if the receiver does not wait. -/
def attemptSend (target : ProcessId) (value : UInt32) (srcVa : Option VirtAddr) (perm : Perm) :
    Program σ (Option Delivery) := do
  match decodeResult (← raw (.trySend target value srcVa perm)) with
  | .ok v => return some (if v = 1 then .page else .value)
  | .error .receiverNotWaiting => return none
  | .error e => throw (.kernel e)

/-- **A send that goes on until the receiver waits**, or until it fails for another reason. It begins
on a host in state `s` and ends in state `s'` with `result`. After each refusal it gives up the
processor for a while. If the receiver never waits, there is no such end. -/
inductive Sends (target : ProcessId) (value : UInt32) (srcVa : Option VirtAddr) (perm : Perm) :
    σ → Except LibError Delivery → σ → Prop where
  | delivered {s s' : σ} {delivery : Delivery}
      (h : (attemptSend target value srcVa perm).exec s = (.ok (some delivery), s')) :
      Sends target value srcVa perm s (.ok delivery) s'
  | failed {s s' : σ} {e : LibError}
      (h : (attemptSend target value srcVa perm).exec s = (.error e, s')) :
      Sends target value srcVa perm s (.error e) s'
  | again {s s₁ s₂ s' : σ} {result : Except LibError Delivery}
      (h : (attemptSend target value srcVa perm).exec s = (.ok none, s₁))
      (hyield : yield.exec s₁ = (.ok (), s₂))
      (hrest : Sends target value srcVa perm s₂ result s') :
      Sends target value srcVa perm s result s'

/-- Sends in at most `retries + 1` attempts. After each refusal but the last it gives up the
processor for a while. -/
def sendWithin (target : ProcessId) (value : UInt32) (srcVa : Option VirtAddr) (perm : Perm) :
    Nat → Program σ Delivery
  | 0 => do
    match ← attemptSend target value srcVa perm with
    | some delivery => return delivery
    | none => throw (.kernel .receiverNotWaiting)
  | retries + 1 => do
    match ← attemptSend target value srcVa perm with
    | some delivery => return delivery
    | none => do
      yield
      sendWithin target value srcVa perm retries

/-- Sends a value, and possibly a page with the permissions that the receiver is to have. -/
def send (retries : Nat) (target : ProcessId) (value : UInt32) (page : Option (VirtAddr × Perm)) :
    Program σ Delivery :=
  match page with
  | none => sendWithin target value none .none retries
  | some (va, perm) => sendWithin target value (some va) perm retries

/-- Waits for a message, taking a page at `dstVa`. -/
def receive (dstVa : Option VirtAddr) : Program σ Received := do
  wait dstVa
  let mail ← mailbox
  return ⟨mail.value, mail.sender, mail.perm⟩

end Program

end Exokernel
