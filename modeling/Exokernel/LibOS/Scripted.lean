/-
A process without a kernel, for trials of user code: it keeps its own pages and answers its own
system calls from a script.

* `ScriptedProcess`: what it keeps, and what it is told to answer;
* `ScriptedProcess.execute`: its answers. Calls on itself change its pages; calls on others do
  nothing and succeed;
* it is a `Host` that takes down every call.
-/
import Exokernel.LibOS.Host
import Exokernel.Machine.Page
import Exokernel.SortedMap

namespace Exokernel

open Layout

/-- A process that answers its own system calls. -/
structure ScriptedProcess where
  id : ProcessId := ⟨0x1001⟩
  /-- The calls that it made, in their order. -/
  calls : List Syscall := []
  /-- The permissions of its pages, by the numbers of their addresses. -/
  pages : SortedMap Perm := .empty
  /-- The contents of its pages, by the numbers of their addresses. -/
  memory : SortedMap Page := .empty
  /-- The answer to an exofork. -/
  exoforkAnswer : Int32 := 0
  /-- The error of every request for a fresh page, if any. -/
  pageAllocError : Option KernelError := none
  /-- How many sends find the receiver not waiting. -/
  refusals : Nat := 0
  /-- The error of every send, if any. -/
  sendError : Option KernelError := none
  /-- What the next wait finds in the mailbox. -/
  incoming : Option Mailbox := none
  mailbox : Mailbox := {}

namespace ScriptedProcess

/-- Whether an identity means the process itself. -/
def isOwn (p : ScriptedProcess) (id : ProcessId) : Bool := id = .self || id = p.id

/-- Adds a page, filled with `byte` unless that is zero. -/
def withPage (p : ScriptedProcess) (va : VirtAddr) (perm : Perm) (byte : UInt8) :
    ScriptedProcess :=
  let p := { p with pages := p.pages.insert va.toNat perm }
  if byte = 0 then p else { p with memory := p.memory.insert va.toNat (.filled byte) }

/-- Answers a call. -/
def execute (p : ScriptedProcess) : Syscall → Except KernelError UInt32 × ScriptedProcess
  | .getId => (.ok p.id.raw, p)
  | .exofork => (.ok p.exoforkAnswer.toUInt32, p)
  | .pageAlloc target va perm =>
    match p.pageAllocError with
    | some e => (.error e, p)
    | none =>
      if p.isOwn target then
        (.ok 0, { p with pages := p.pages.insert va.toNat perm
                         memory := p.memory.insert va.toNat .zero })
      else (.ok 0, p)
  | .pageMap src srcVa dst dstVa perm =>
    if p.isOwn src ∧ (p.pages.find? srcVa.toNat).isNone then (.error .invalidArgument, p)
    else if p.isOwn dst then
      let p := { p with pages := p.pages.insert dstVa.toNat perm }
      match p.memory.find? srcVa.toNat with
      | none => (.ok 0, p)
      | some page => (.ok 0, { p with memory := p.memory.insert dstVa.toNat page })
    else (.ok 0, p)
  | .pageUnmap target va =>
    if p.isOwn target then
      (.ok 0, { p with pages := p.pages.erase va.toNat, memory := p.memory.erase va.toNat })
    else (.ok 0, p)
  | .trySend _ _ srcVa _ =>
    match p.sendError with
    | some e => (.error e, p)
    | none =>
      match p.refusals with
      | refusals + 1 => (.error .receiverNotWaiting, { p with refusals })
      | 0 => (.ok (if srcVa.isSome then 1 else 0), p)
  | .receive _ =>
    match p.incoming with
    | none => (.ok 0, p)
    | some mail => (.ok 0, { p with incoming := none, mailbox := mail })
  | _ => (.ok 0, p)

/-- Takes down a call and answers it. -/
def trap (c : Syscall) (p : ScriptedProcess) : Int32 × ScriptedProcess :=
  let (result, p) := { p with calls := p.calls ++ [c] }.execute c
  (encodeResult result, p)

/-- Copies a page; what was never written is zero. -/
def copyPage (dst src : VirtAddr) (p : ScriptedProcess) :
    Except LibError Unit × ScriptedProcess :=
  let page := (p.memory.find? src.toNat).getD .zero
  (.ok (), { p with memory := p.memory.insert dst.toNat page })

/-- The pages below `Layout.userTop`. -/
def userPages (p : ScriptedProcess) : List (VirtAddr × Perm) :=
  (p.pages.entries.filter (·.1 < userTop)).map fun (va, perm) => (.ofNat va, perm)

instance : Host ScriptedProcess where
  trap := trap
  perm? p va := p.pages.find? va.toNat
  pages := userPages
  copyPage := copyPage
  mailbox := mailbox
  handlerEntry _ := .ofNat (textBase + 0x100)

end ScriptedProcess

end Exokernel
