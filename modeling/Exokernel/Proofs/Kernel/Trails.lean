/-
What the kernel records, and that nothing it does depends on that.

* `AuditLog.recordAll`: a row of events recorded one after the other;
* `Kernel.withLog`: the kernel with another audit log. Nearly all that it does leaves the log alone
  and does not look at it: `destroyOn_withLog`, `execute_withLog`, `schedule_withLog` and their
  like;
* `Kernel.callTrail`, `Kernel.trapTrail`: the events that a trap records;
* `trap_withLog`: **a trap records these events in whatever log there is**, and does the same
  otherwise.
-/
import Exokernel.Kernel.Trap
import Exokernel.Proofs.Kernel.Entries

namespace Exokernel

namespace AuditLog

/-- Adds events one after the other, under the next numbers. -/
def recordAll (log : AuditLog) (xs : List AuditEvent) : AuditLog :=
  xs.foldl (fun log x => log.record x.process x.kind x.timestamp) log

@[simp] lemma recordAll_nil (log : AuditLog) : log.recordAll [] = log := rfl

lemma recordAll_cons (log : AuditLog) (x : AuditEvent) (xs : List AuditEvent) :
    log.recordAll (x :: xs) = (log.record x.process x.kind x.timestamp).recordAll xs := rfl

lemma recordAll_append (log : AuditLog) (xs ys : List AuditEvent) :
    log.recordAll (xs ++ ys) = (log.recordAll xs).recordAll ys := List.foldl_append

@[simp] lemma nextId_recordAll (log : AuditLog) (xs : List AuditEvent) :
    (log.recordAll xs).nextId = log.nextId + xs.length := by
  induction xs generalizing log with
  | nil => rfl
  | cons x xs ih =>
    rw [recordAll_cons, ih, nextId_record, List.length_cons]
    omega

/-- Events that are numbered from `n` on. -/
def Numbered (n : Nat) (xs : List AuditEvent) : Prop := xs.map (·.id) = List.range' n xs.length

/-- A log that holds no more than it may, keeps the last of its own and the new events. -/
lemma events_recordAll {log : AuditLog} {xs : List AuditEvent}
    (hlog : log.events.length ≤ log.capacity) (hxs : Numbered log.nextId xs) :
    (log.recordAll xs).events = lastN log.capacity (log.events ++ xs) := by
  induction xs generalizing log with
  | nil => rw [recordAll_nil, List.append_nil, lastN, Nat.sub_eq_zero_of_le hlog, List.drop_zero]
  | cons x xs ih =>
    rw [Numbered, List.map_cons, List.length_cons, List.range'_succ, List.cons.injEq] at hxs
    obtain ⟨hid, hrest⟩ := hxs
    have hrecorded : (log.record x.process x.kind x.timestamp).events =
        lastN log.capacity (log.events ++ [x]) := by
      rw [record, ← hid]
    rw [recordAll_cons, ih (length_events_record _ _ _ _) hrest, hrecorded]
    change lastN log.capacity _ = _
    rw [lastN_lastN_append, List.append_assoc, List.singleton_append]

end AuditLog

namespace Kernel

variable {k k' : Kernel} {log : AuditLog} {id caller target : ProcessId} {cpu : Nat} {f : TrapFrame}
  {va : VirtAddr} {perm : Perm}

/-- The kernel with another audit log. -/
def withLog (k : Kernel) (log : AuditLog) : Kernel := { k with auditLog := log }

section Fields

variable (k : Kernel) (log : AuditLog)

@[simp] lemma withLog_config : (k.withLog log).config = k.config := rfl
@[simp] lemma withLog_machine : (k.withLog log).machine = k.machine := rfl
@[simp] lemma withLog_table : (k.withLog log).table = k.table := rfl
@[simp] lemma withLog_cpus : (k.withLog log).cpus = k.cpus := rfl
@[simp] lemma withLog_auditLog : (k.withLog log).auditLog = log := rfl
@[simp] lemma live?_withLog (id : ProcessId) : (k.withLog log).live? id = k.live? id := rfl
@[simp] lemma spaceOf?_withLog (id : ProcessId) : (k.withLog log).spaceOf? id = k.spaceOf? id := rfl
@[simp] lemma resolve_withLog (caller id : ProcessId) (related : Bool) :
    (k.withLog log).resolve caller id related = k.resolve caller id related := rfl
@[simp] lemma readCaller_withLog (caller : ProcessId) (va : VirtAddr) (len : Nat) :
    (k.withLog log).readCaller caller va len = k.readCaller caller va len := rfl
@[simp] lemma allocSpace_withLog (caller target : ProcessId) (va : VirtAddr) (perm : Perm) :
    (k.withLog log).allocSpace caller target va perm = k.allocSpace caller target va perm := rfl
@[simp] lemma mapArguments_withLog (caller src dst : ProcessId) (srcVa dstVa : VirtAddr)
    (perm : Perm) : (k.withLog log).mapArguments caller src srcVa dst dstVa perm =
      k.mapArguments caller src srcVa dst dstVa perm := rfl
@[simp] lemma offered_withLog (caller : ProcessId) (va : VirtAddr) (perm : Perm) :
    (k.withLog log).offered caller va perm = k.offered caller va perm := rfl
@[simp] lemma receiverOf_withLog (caller target : ProcessId) :
    (k.withLog log).receiverOf caller target = k.receiverOf caller target := rfl
@[simp] lemma isBound_withLog (cpu : Nat) (id : ProcessId) :
    (k.withLog log).isBound cpu id = k.isBound cpu id := rfl

end Fields

/-! ### Pieces -/

-- The lemmas take the kernel with the other log as an equation: it is mostly one with a new table.

lemma log_withLog (h : k' = k.withLog log) (level : LogLevel) (message : String) :
    k'.log level message = (k.log level message).withLog log := by
  rw [h, Kernel.log, Kernel.log, withLog_config]
  split <;> rfl

lemma machine_withLog (h : k' = k.withLog log) (g : Machine → Machine) :
    ({ k' with machine := g k'.machine } : Kernel) =
      { k with machine := g k.machine }.withLog log := by
  rw [h]
  rfl

lemma modify_withLog (h : k' = k.withLog log) (g : Process → Process) :
    k'.modify id g = (k.modify id g).withLog log := by
  rw [h]
  rfl

lemma reap_withLog (h : k' = k.withLog log) (holder : Option Nat) :
    k'.reap id holder = (k.reap id holder).withLog log := by
  rw [h, reap, reap, withLog_table]
  split
  · rfl
  · next space table _ => cases holder <;> cases space <;> exact log_withLog (by rfl) _ _

lemma clearStale_withLog (h : k' = k.withLog log) :
    k'.clearStale cpu id = (k.clearStale cpu id).withLog log :=
  reap_withLog (h ▸ rfl) _

lemma unbind_withLog (h : k' = k.withLog log) :
    k'.unbind cpu id = (k.unbind cpu id).withLog log := by
  rw [h, unbind, unbind, withLog_table]
  split <;> rfl

lemma free_withLog (h : k' = k.withLog log) : k'.free id = (k.free id).withLog log := by
  rw [h, free, free, withLog_table]
  split
  · rfl
  · exact reap_withLog (by rfl) _

lemma destroyOn_withLog (h : k' = k.withLog log) : k'.destroyOn cpu id =
    ((k.destroyOn cpu id).1, (k.destroyOn cpu id).2.withLog log) := by
  rw [h, destroyOn, destroyOn, withLog_table]
  split
  · rfl
  · exact congrArg _ (reap_withLog (by rfl) _)
  · next holder table _ =>
    dsimp only
    split
    · exact congrArg _ (clearStale_withLog (by rfl))
    · exact congrArg _ (machine_withLog (log_withLog (by rfl) _ _)
        (·.interrupt holder TrapNumber.reschedule))

lemma destroy_withLog : (k.withLog log).destroy cpu id =
    (k.destroy cpu id).map fun r => (r.1, r.2.withLog log) := by
  rw [destroy, destroy, live?_withLog]
  split
  · rfl
  · rw [destroyOn_withLog rfl]
    rfl

/-! ### Beginnings -/

lemma allocateAs_withLog {parent : ProcessId} {status : ProcessStatus} :
    (k.withLog log).allocateAs parent status =
      (k.allocateAs parent status).map fun r => (r.1, r.2.withLog log) := by
  rw [allocateAs, allocateAs, withLog_table, withLog_machine]
  split
  · rfl
  · split
    · rfl
    · split <;> rfl

lemma allocate_withLog {parent : ProcessId} : (k.withLog log).allocate parent =
    (k.allocate parent).map fun r => (r.1, r.2.withLog log) := by
  rw [allocate, allocate, allocateAs_withLog]
  cases k.allocateAs parent .runnable with
  | error e => rfl
  | ok r => exact congrArg _ (congrArg _ (log_withLog rfl _ _))

lemma load_withLog {image : Image} (h : k' = k.withLog log) : k'.load id image =
    ((k.load id image).1, (k.load id image).2.withLog log) := by
  rw [h, load, load, spaceOf?_withLog, withLog_machine]
  split
  · rfl
  · split <;> rfl

lemma spawn_withLog {image : Image} : (k.withLog log).spawn image =
    ((k.spawn image).1, (k.spawn image).2.withLog log) := by
  rw [spawn, spawn, allocateAs_withLog]
  split
  · cases k.allocateAs .self .notRunnable with
    | error e => rfl
    | ok r =>
      obtain ⟨id, k₁⟩ := r
      dsimp only [Except.map]
      rw [load_withLog rfl]
      cases k₁.load id image with
      | mk result k₂ =>
        cases result with
        | error e => exact congrArg _ (free_withLog rfl)
        | ok _ => exact congrArg _ (log_withLog (modify_withLog rfl _) _ _)
  · rfl

/-! ### System calls -/

lemma exofork_withLog : (k.withLog log).exofork caller =
    (k.exofork caller).map fun r => (r.1, r.2.withLog log) := by
  rw [exofork, exofork, withLog_table, allocateAs_withLog]
  cases k.table.get caller with
  | error e => rfl
  | ok parent =>
    cases k.allocateAs caller .notRunnable with
    | error e => rfl
    | ok r => exact congrArg _ (congrArg _ (log_withLog (modify_withLog rfl _) _ _))

lemma setStatus_withLog {status : ProcessStatus} : (k.withLog log).setStatus caller target status =
    (k.setStatus caller target status).map (·.withLog log) := by
  rw [setStatus, setStatus, resolve_withLog, withLog_table]
  split
  · cases k.resolve caller target true with
    | error e => rfl
    | ok id =>
      change (k.table.get id >>= _) = (k.table.get id >>= _).map _
      cases k.table.get id <;> rfl
  · rfl

lemma setFaultHandler_withLog {entry : VirtAddr} :
    (k.withLog log).setFaultHandler caller target entry =
      (k.setFaultHandler caller target entry).map (·.withLog log) := by
  rw [setFaultHandler, setFaultHandler, resolve_withLog, withLog_table]
  cases k.resolve caller target true with
  | error e => rfl
  | ok id =>
    change (k.table.get id >>= _) = (k.table.get id >>= _).map _
    cases k.table.get id <;> rfl

lemma setFrame_withLog : (k.withLog log).setFrame caller target va =
    (k.setFrame caller target va).map (·.withLog log) := by
  rw [setFrame, setFrame, resolve_withLog]
  cases k.resolve caller target true with
  | error e => rfl
  | ok id =>
    dsimp only
    rw [readCaller_withLog]
    cases k.readCaller caller va TrapFrame.size with
    | error e => rfl
    | ok bytes =>
      dsimp only
      rw [live?_withLog]
      cases k.live? id <;> rfl

lemma putString_withLog {len : UInt32} : (k.withLog log).putString caller va len =
    (k.putString caller va len).map (·.withLog log) := by
  rw [putString, putString, readCaller_withLog]
  cases k.readCaller caller va len.toNat <;> rfl

lemma pageAlloc_withLog : (k.withLog log).pageAlloc caller target va perm =
    ((k.pageAlloc caller target va perm).1, (k.pageAlloc caller target va perm).2.withLog log) := by
  rw [pageAlloc, pageAlloc, allocSpace_withLog]
  cases k.allocSpace caller target va perm <;> rfl

lemma withMachine_withLog (h : k' = k.withLog log) (r : Except MachineError Machine) :
    k'.withMachine r = (k.withMachine r).map (·.withLog log) := by
  rw [h]
  cases r <;> rfl

lemma holding_withLog {α : Type} {frame : Nat} {act act' : Kernel → Except KernelError α × Kernel}
    (hact : ∀ k : Kernel, act' (k.withLog log) = ((act k).1, (act k).2.withLog log)) :
    (k.withLog log).holding frame act' =
      ((k.holding frame act).1, (k.holding frame act).2.withLog log) := by
  have hkept := hact { k with machine := k.machine.retain frame }
  rw [holding, holding]
  dsimp only
  rw [show ({ k.withLog log with machine := (k.withLog log).machine.retain frame } : Kernel) =
    ({ k with machine := k.machine.retain frame } : Kernel).withLog log from rfl, hkept]
  rfl

lemma mapKept_withLog {dst : ProcessId} {frame : Nat} : (k.withLog log).mapKept dst frame va perm =
    (k.mapKept dst frame va perm).map (·.withLog log) := by
  rw [mapKept, mapKept]
  change (k.spaceOf dst >>= _) = (k.spaceOf dst >>= _).map _
  cases k.spaceOf dst with
  | error e => rfl
  | ok s => exact withMachine_withLog rfl _

lemma pageMap_withLog {src dst : ProcessId} {srcVa : VirtAddr} :
    (k.withLog log).pageMap caller src srcVa dst va perm =
      ((k.pageMap caller src srcVa dst va perm).1,
        (k.pageMap caller src srcVa dst va perm).2.withLog log) := by
  rw [pageMap, pageMap, mapArguments_withLog]
  split
  · rfl
  · refine holding_withLog fun k₁ => ?_
    rw [mapKept_withLog]
    cases k₁.mapKept _ _ va perm <;> rfl

lemma pageUnmap_withLog : (k.withLog log).pageUnmap caller target va =
    (k.pageUnmap caller target va).map (·.withLog log) := by
  rw [pageUnmap, pageUnmap]
  cases checkAddress va with
  | error e => rfl
  | ok _ =>
    change (k.resolve caller target true >>= _) = (k.resolve caller target true >>= _).map _
    cases k.resolve caller target true with
    | error e => rfl
    | ok id =>
      change (k.spaceOf id >>= _) = (k.spaceOf id >>= _).map _
      cases k.spaceOf id <;> rfl

lemma deliver_withLog {value : UInt32} {page : Option Nat} (h : k' = k.withLog log) :
    k'.deliver caller target value page perm =
      (k.deliver caller target value page perm).map fun r => (r.1, r.2.withLog log) := by
  -- what follows once the page is shown
  have hdelivered : ∀ (k : Kernel) (shown : Perm),
      ((k.withLog log).modify target fun p => { p with
          mailbox := deliveredMail caller value shown, status := .runnable }).log .trace
            s!"[{caller}] ipc {Text.hexCode value} -> {target}" =
        ((k.modify target fun p => { p with
          mailbox := deliveredMail caller value shown, status := .runnable }).log .trace
            s!"[{caller}] ipc {Text.hexCode value} -> {target}").withLog log :=
    fun k shown => log_withLog (modify_withLog rfl _) _ _
  rw [h, deliver, deliver, withLog_table]
  cases k.table.get target with
  | error e => rfl
  | ok receiver =>
    dsimp only [bind, Except.bind]
    split
    · cases page with
      | none => exact congrArg _ (congrArg _ (hdelivered k .none))
      | some frame =>
        cases receiver.mailbox.dstVa with
        | none => exact congrArg _ (congrArg _ (hdelivered k .none))
        | some dstVa =>
          change (k.spaceOf target >>= _) = _
          cases k.spaceOf target with
          | error e => rfl
          | ok s =>
            dsimp only [bind, Except.bind]
            rw [withMachine_withLog rfl, withLog_machine]
            cases k.withMachine (k.machine.map s frame dstVa perm) with
            | error e => rfl
            | ok k₁ => exact congrArg _ (congrArg _ (hdelivered k₁ perm))
    · rfl

lemma deliverTelling_withLog {value : UInt32} {page : Option Nat} (h : k' = k.withLog log) :
    k'.deliverTelling caller target value page perm =
      ((k.deliverTelling caller target value page perm).1,
        (k.deliverTelling caller target value page perm).2.withLog log) := by
  rw [deliverTelling, deliverTelling, deliver_withLog h, h]
  cases k.deliver caller target value page perm <;> rfl

lemma trySend_withLog {value : UInt32} {srcVa : Option VirtAddr} :
    (k.withLog log).trySend caller target value srcVa perm =
      ((k.trySend caller target value srcVa perm).1,
        (k.trySend caller target value srcVa perm).2.withLog log) := by
  rw [trySend, trySend, receiverOf_withLog]
  split
  · rfl
  · cases srcVa with
    | none => exact deliverTelling_withLog rfl
    | some va =>
      dsimp only
      rw [offered_withLog]
      split
      · rfl
      · exact holding_withLog fun k₁ => deliverTelling_withLog rfl

lemma receive_withLog {dstVa : Option VirtAddr} : (k.withLog log).receive cpu caller dstVa =
    (k.receive cpu caller dstVa).map (·.withLog log) := by
  rw [receive, receive]
  split
  · change (k.table.get caller >>= _) = (k.table.get caller >>= _).map _
    cases k.table.get caller with
    | error e => rfl
    | ok p => exact congrArg _ (unbind_withLog (modify_withLog rfl _))
  · rfl

lemma yield_withLog : (k.withLog log).yield cpu caller = (k.yield cpu caller).withLog log := by
  rw [yield, yield, live?_withLog]
  split
  · rfl
  · exact unbind_withLog (modify_withLog rfl _)

lemma exit_withLog : (k.withLog log).exit cpu caller target =
    ((k.exit cpu caller target).1, (k.exit cpu caller target).2.withLog log) := by
  rw [exit, exit, resolve_withLog]
  split
  · rfl
  · dsimp only
    -- without unfolding, or the two sides are compared down to the text that is printed
    with_reducible rw [destroyOn_withLog (log_withLog rfl _ _)]
    cases (Kernel.destroyOn _ cpu _) with
    | mk flow k₁ => cases flow <;> rfl

/-- **A call does the same** whatever the kernel has recorded. -/
lemma execute_withLog (h : k' = k.withLog log) (c : Syscall) : k'.execute cpu caller c =
    ((k.execute cpu caller c).1, (k.execute cpu caller c).2.withLog log) := by
  rw [h]
  cases c with
  | putString va len =>
    rw [execute, execute, putString_withLog]
    cases k.putString caller va len with
    | error e => cases e <;> rfl
    | ok k₁ => rfl
  | setFrame target va =>
    rw [execute, execute, setFrame_withLog]
    cases k.setFrame caller target va with
    | error e => cases e <;> rfl
    | ok k₁ => rfl
  | getId | time => rfl
  | destroy target => exact exit_withLog
  | yield => exact congrArg _ yield_withLog
  | exofork =>
    rw [execute, execute, exofork_withLog]
    cases k.exofork caller <;> rfl
  | setStatus target status =>
    rw [execute, execute, setStatus_withLog]
    cases k.setStatus caller target status <;> rfl
  | setFaultHandler target entry =>
    rw [execute, execute, setFaultHandler_withLog]
    cases k.setFaultHandler caller target entry <;> rfl
  | pageUnmap target va =>
    rw [execute, execute, pageUnmap_withLog]
    cases k.pageUnmap caller target va <;> rfl
  | pageAlloc target va perm =>
    rw [execute, execute, pageAlloc_withLog]
    rfl
  | pageMap src srcVa dst dstVa perm =>
    rw [execute, execute, pageMap_withLog]
    rfl
  | trySend target value va perm =>
    rw [execute, execute, trySend_withLog]
    rfl
  | receive dstVa =>
    rw [execute, execute, receive_withLog]
    cases k.receive cpu caller dstVa <;> rfl

lemma perform_withLog (h : k' = k.withLog log) (call : RawCall) : k'.perform cpu caller call =
    ((k.perform cpu caller call).1, (k.perform cpu caller call).2.withLog log) := by
  rw [h, perform, perform]
  split
  · exact execute_withLog (log_withLog rfl _ _) _
  · exact congrArg _ (log_withLog rfl _ _)

lemma setAnswer_withLog (h : k' = k.withLog log) (answer : Int32) :
    k'.setAnswer cpu caller answer = (k.setAnswer cpu caller answer).withLog log := by
  rw [h, setAnswer, setAnswer, live?_withLog]
  split
  · rfl
  · split <;> rfl

/-! ### System calls, with what they record -/

/-- What the end of a call records that was recorded itself as event number `request`. -/
def conclusion (k : Kernel) (caller : ProcessId) (request : Nat) (outcome : Outcome) :
    List AuditEvent :=
  let event (n : Nat) (kind : EventKind) : AuditEvent :=
    ⟨k.auditLog.nextId + n, caller.raw, k.machine.millis, kind⟩
  match outcome with
  | .answer result => [event 0 (.response request (some (encodeResult result)))]
  | .giveUp => [event 0 (.response request none)]
  | .badBuffer va =>
    [event 0 (.response request none), event 1 (.terminated (.badUserBuffer va.word))]

/-- What a process records by a call. -/
def callTrail (k : Kernel) (cpu : Nat) (caller : ProcessId) (call : RawCall) : List AuditEvent :=
  let request := k.auditLog.nextId
  let (outcome, k') := (k.audit caller (.request call.number call.args)).perform cpu caller call
  ⟨request, caller.raw, k.machine.millis, .request call.number call.args⟩ ::
    k'.conclusion caller request outcome

/-- All that a call records is recorded of the caller. -/
lemma callTrail_process {call : RawCall} {e : AuditEvent} (he : e ∈ k.callTrail cpu caller call) :
    e.process = caller.raw := by
  have hend : ∀ (k' : Kernel) (request : Nat) (outcome : Outcome),
      ∀ e ∈ k'.conclusion caller request outcome, e.process = caller.raw := by
    intro k' request outcome e he
    cases outcome <;> simp only [conclusion, List.mem_cons, List.not_mem_nil, or_false] at he
    · rw [he]
    · rw [he]
    · rcases he with rfl | rfl <;> rfl
  rcases List.mem_cons.1 he with rfl | hlater
  · rfl
  · exact hend _ _ _ e hlater

/-- What a kernel records by ending a process. -/
def endTrail (k : Kernel) (id : ProcessId) (cause : TerminationCause) : List AuditEvent :=
  [⟨k.auditLog.nextId, id.raw, k.machine.millis, .terminated cause⟩]

lemma audit_withLog (h : k' = k.withLog log) (kind : EventKind) : k'.audit id kind =
    (k.audit id kind).withLog (log.record id.raw kind k.machine.millis) := by
  rw [h]
  rfl

lemma millis_audit (kind : EventKind) :
    (k.audit id kind).machine.millis = k.machine.millis := rfl

lemma millis_log (level : LogLevel) (message : String) :
    (k.log level message).machine.millis = k.machine.millis := by
  rw [Kernel.log]
  split <;> rfl

lemma millis_setAnswer (answer : Int32) :
    (k.setAnswer cpu caller answer).machine.millis = k.machine.millis := by
  rw [setAnswer]
  split
  · rfl
  · split <;> rfl

lemma conclude_withLog (h : k' = k.withLog log) (request : Nat) (outcome : Outcome) :
    k'.conclude cpu caller request outcome = ((k.conclude cpu caller request outcome).1,
      (k.conclude cpu caller request outcome).2.withLog
        (log.recordAll (k.conclusion caller request outcome))) := by
  cases outcome with
  | answer result =>
    rw [conclude, conclude, setAnswer_withLog h, audit_withLog rfl, millis_setAnswer]
    rfl
  | giveUp =>
    rw [conclude, conclude, audit_withLog h]
    rfl
  | badBuffer va =>
    rw [conclude, conclude]
    refine destroyOn_withLog ?_
    rw [log_withLog h, audit_withLog rfl, auditTermination, auditTermination, audit_withLog rfl,
      millis_audit, millis_log]
    rfl

/-- **A call records its trail**, in whatever log there is, and does the same otherwise. -/
lemma systemCall_withLog {p : Process} (h : k' = k.withLog log)
    (hlog : log.nextId = k.auditLog.nextId) (hp : k.live? caller = some p) :
    k'.systemCall cpu caller = ((k.systemCall cpu caller).1, (k.systemCall cpu caller).2.withLog
      (log.recordAll (k.callTrail cpu caller p.frame.call))) := by
  rw [h, systemCall, systemCall, live?_withLog, hp]
  dsimp only
  rw [perform_withLog (audit_withLog rfl _), conclude_withLog rfl, withLog_auditLog, hlog]
  rfl

lemma reflectFault_withLog (h : k' = k.withLog log) (va : VirtAddr) : k'.reflectFault id f va =
    ((k.reflectFault id f va).1, (k.reflectFault id f va).2.withLog log) := by
  rw [h, reflectFault, reflectFault, live?_withLog]
  split
  · rfl
  · split
    · rfl
    · rfl
    · rw [withLog_machine]
      split
      · rfl
      · split <;> rfl

/-- What a page fault records. -/
def faultTrail (k : Kernel) (cpu : Nat) (id : ProcessId) (f : TrapFrame) : List AuditEvent :=
  let faultVa := k.machine.faultAddress cpu
  match k.reflectFault id f faultVa with
  | (.ok _, _) => []
  | (.error _, k) => k.endTrail id (.pageFault faultVa.word f.eip)

lemma pageFault_withLog (h : k' = k.withLog log) : k'.pageFault cpu id f =
    ((k.pageFault cpu id f).1, (k.pageFault cpu id f).2.withLog
      (log.recordAll (k.faultTrail cpu id f))) := by
  rw [h, pageFault, pageFault, faultTrail, withLog_machine, reflectFault_withLog rfl]
  cases k.reflectFault id f (k.machine.faultAddress cpu) with
  | mk result k₁ =>
    cases result with
    | ok frameVa => exact congrArg _ (log_withLog rfl _ _)
    | error e =>
      dsimp only
      rw [log_withLog rfl, auditTermination, audit_withLog rfl, millis_log]
      exact destroyOn_withLog rfl

/-! ### Traps -/

lemma acknowledgeInterrupt_withLog (h : k' = k.withLog log) (cause : TrapCause) :
    k'.acknowledgeInterrupt cpu cause = (k.acknowledgeInterrupt cpu cause).withLog log := by
  have hservice : k'.serviceInterrupt cpu cause = (k.serviceInterrupt cpu cause).withLog log := by
    rw [h]
    cases cause with
    | timer =>
      rw [serviceInterrupt, serviceInterrupt]
      split <;> rfl
    | spurious => exact log_withLog rfl _ _
    | device line =>
      rw [serviceInterrupt, serviceInterrupt, withLog_machine]
      split
      · rfl
      · exact log_withLog rfl _ _
    | _ => rfl
  exact machine_withLog hservice (·.acknowledge cpu)

lemma preempt_withLog (h : k' = k.withLog log) :
    k'.preempt cpu id = (k.preempt cpu id).withLog log := by
  rw [h, preempt, preempt, live?_withLog]
  split
  · exact clearStale_withLog rfl
  · exact unbind_withLog (modify_withLog rfl _)

/-- What a trap of the bound process `id` records. -/
def handleTrail (k : Kernel) (cpu : Nat) (id : ProcessId) (f : TrapFrame) : List AuditEvent :=
  match TrapCause.ofNumber f.trapno with
  | .pageFault => k.faultTrail cpu id f
  | .syscall => k.callTrail cpu id f.call
  | .unexpected trapno => k.endTrail id (.unhandledTrap trapno f.eip)
  | .timer | .reschedule | .spurious | .controllerError | .device _ => []

lemma handle_withLog {p : Process} (h : k' = k.withLog log)
    (hlog : log.nextId = k.auditLog.nextId) (hp : k.live? id = some p) (hframe : p.frame = f) :
    k'.handle cpu id f = ((k.handle cpu id f).1, (k.handle cpu id f).2.withLog
      (log.recordAll (k.handleTrail cpu id f))) := by
  rw [handle, handle, handleTrail]
  cases TrapCause.ofNumber f.trapno with
  | pageFault => exact pageFault_withLog h
  | syscall => exact hframe ▸ systemCall_withLog h hlog hp
  | timer => exact congrArg _ (preempt_withLog (acknowledgeInterrupt_withLog h _))
  | unexpected trapno =>
    dsimp only
    rw [log_withLog h, auditTermination, audit_withLog rfl, millis_log]
    exact destroyOn_withLog rfl
  | reschedule | spurious | controllerError | device =>
    exact congrArg _ (acknowledgeInterrupt_withLog h _)

lemma dispatch_withLog {slot : Nat} (h : k' = k.withLog log) : k'.dispatch cpu slot =
    ((k.dispatch cpu slot).1, (k.dispatch cpu slot).2.withLog log) := by
  rw [h, dispatch, dispatch, withLog_table]
  split
  · rfl
  · exact congrArg _ (log_withLog (by rfl) _ _)

/-- **A processor is given the same to run** whatever the kernel has recorded. -/
lemma schedule_withLog (h : k' = k.withLog log) :
    k'.schedule cpu = ((k.schedule cpu).1, (k.schedule cpu).2.withLog log) := by
  have hnext : (k.withLog log).nextSlot? = k.nextSlot? := rfl
  have hidle : (k.withLog log).dispatchable idleSlot = k.dispatchable idleSlot := rfl
  rw [h, schedule, schedule, hnext, hidle, withLog_cpus, withLog_config]
  split
  · split
    · exact dispatch_withLog (by rfl)
    · split
      · exact dispatch_withLog rfl
      · exact congrArg _ (machine_withLog (log_withLog rfl _ _) (·.activate cpu none))
  · rfl

lemma leave_withLog (h : k' = k.withLog log) (flow : Flow) : k'.leave cpu id flow =
    ((k.leave cpu id flow).1, (k.leave cpu id flow).2.withLog log) := by
  cases flow with
  | switch => exact schedule_withLog (clearStale_withLog h)
  | stay =>
    rw [leave, leave, h, live?_withLog]
    split
    · exact schedule_withLog (clearStale_withLog rfl)
    · split
      · rfl
      · exact schedule_withLog (unbind_withLog rfl)

/-- What a trap records: something only if a live process takes it that is bound to the
processor. -/
def trapTrail (k : Kernel) (cpu : Nat) (f : TrapFrame) : List AuditEvent :=
  match k.current? cpu with
  | none => []
  | some id =>
    if f.isUser ∧ k.isBound cpu id then (k.entered cpu id f).handleTrail cpu id f else []

lemma userTrap_withLog (h : k' = k.withLog log) (hlog : log.nextId = k.auditLog.nextId)
    (current : Option ProcessId) : k'.userTrap cpu current f =
      ((k.userTrap cpu current f).1, (k.userTrap cpu current f).2.withLog (log.recordAll
        (match current with
          | none => []
          | some id => if k.isBound cpu id then
              (k.modify id fun p => { p with frame := f }).handleTrail cpu id f else []))) := by
  cases current with
  | none => exact congrArg (Prod.mk _) (log_withLog h _ _)
  | some id =>
    rw [userTrap, userTrap, h, isBound_withLog]
    dsimp only
    by_cases hbound : k.isBound cpu id
    · obtain ⟨p, hp, -⟩ := isBound_iff.1 hbound
      have hsaved : (k.modify id fun p => { p with frame := f }).live? id =
        some { p with frame := f } := live?_modify hp rfl (live?_eq_some_iff.1 hp).2.2
      rw [if_pos hbound, if_pos hbound, if_pos hbound, modify_withLog rfl,
        handle_withLog (k := k.modify id fun p => { p with frame := f }) rfl hlog hsaved rfl]
      exact leave_withLog rfl _
    · rw [if_neg hbound, if_neg hbound, if_neg hbound]
      have hclear : ((k.withLog log).log .debug s!"cpu {cpu}: {id} is gone").clearStale cpu id =
          ((k.log .debug s!"cpu {cpu}: {id} is gone").clearStale cpu id).withLog log :=
        clearStale_withLog (log_withLog rfl _ _)
      refine schedule_withLog ?_
      split
      · exact acknowledgeInterrupt_withLog hclear _
      · exact hclear

lemma kernelTrap_withLog (h : k' = k.withLog log) (current : Option ProcessId) :
    k'.kernelTrap cpu current f = ((k.kernelTrap cpu current f).1,
      (k.kernelTrap cpu current f).2.withLog log) := by
  rw [h, kernelTrap, kernelTrap]
  dsimp only
  split
  · refine schedule_withLog ?_
    cases current with
    | none => exact acknowledgeInterrupt_withLog rfl _
    | some id => exact preempt_withLog (acknowledgeInterrupt_withLog rfl _)
  · exact congrArg _ (log_withLog rfl _ _)

/-- **A trap records its trail**, in whatever log there is, and does the same otherwise. -/
lemma trap_withLog (hlog : log.nextId = k.auditLog.nextId) : (k.withLog log).trap cpu f =
    ((k.trap cpu f).1, (k.trap cpu f).2.withLog (log.recordAll (k.trapTrail cpu f))) := by
  rw [trap, trap, trapTrail, current?, withLog_cpus]
  cases k.cpus[cpu]? with
  | none => rfl
  | some c =>
    dsimp only
    rw [Option.bind_some]
    split
    · next huser =>
      refine (userTrap_withLog (k := k.modifyCpu cpu fun c => { c with traps := c.traps + 1 })
        (by rfl) hlog _).trans ?_
      cases c.current with
      | none => rfl
      | some id =>
        simp only [huser, true_and]
        rfl
    · next huser =>
      refine (kernelTrap_withLog (k := k.modifyCpu cpu fun c => { c with traps := c.traps + 1 })
        (by rfl) _).trans ?_
      cases c.current with
      | none => rfl
      | some id =>
        simp only [huser]
        rfl

end Kernel

end Exokernel
