/-
What the audit log tells of a run.

* `Transition.trail`: the events that a transition records;
* `Transition.TakenBy`: a trap that a live process takes that is bound to the processor;
* `TellsCall`, `TellsEnd`: what is recorded of the call that such a trap makes, and of any other;
* `audit_truthful`: **the log tells all of it and nothing else**, as far back as it reaches.
-/
import Exokernel.Proofs.Endings
import Exokernel.Proofs.Kernel.Returns
import Exokernel.Proofs.Kernel.Trails
import Exokernel.Proofs.Privileges

namespace Exokernel

/-! ### Events and their numbers -/

namespace AuditLog

variable {n : Nat} {xs ys : List AuditEvent}

/-- A log without events that numbers them from `n` on and has room for so many. -/
def blank (n room : Nat) : AuditLog := ⟨[], n, room⟩

lemma Numbered.append (hxs : Numbered n xs) (hys : Numbered (n + xs.length) ys) :
    Numbered n (xs ++ ys) := by
  rw [Numbered, List.map_append, hxs, hys, List.length_append, List.range'_append_1]

end AuditLog

namespace Kernel

open AuditLog (Numbered)

variable {k : Kernel} {id : ProcessId} {cpu : Nat} {f : TrapFrame}

/-- What does the same with any log leaves its own alone. -/
lemma auditLog_perform (call : RawCall) : (k.perform cpu id call).2.auditLog = k.auditLog := by
  have hsame : k.perform cpu id call = ((k.perform cpu id call).1,
    (k.perform cpu id call).2.withLog k.auditLog) := perform_withLog (by rfl) call
  exact congrArg (·.2.auditLog) hsame

lemma auditLog_reflectFault (va : VirtAddr) :
    (k.reflectFault id f va).2.auditLog = k.auditLog := by
  have hsame : k.reflectFault id f va = ((k.reflectFault id f va).1,
    (k.reflectFault id f va).2.withLog k.auditLog) := reflectFault_withLog (by rfl) va
  exact congrArg (·.2.auditLog) hsame

lemma conclusion_numbered (request : Nat) (outcome : Outcome) :
    Numbered k.auditLog.nextId (k.conclusion id request outcome) := by
  cases outcome <;> rfl

lemma callTrail_numbered (call : RawCall) :
    Numbered k.auditLog.nextId (k.callTrail cpu id call) := by
  let k₁ := k.audit id (.request call.number call.args)
  have hnext : (k₁.perform cpu id call).2.auditLog = k₁.auditLog := auditLog_perform call
  have hconclusion : Numbered (k₁.perform cpu id call).2.auditLog.nextId
    ((k₁.perform cpu id call).2.conclusion id k.auditLog.nextId (k₁.perform cpu id call).1) :=
    conclusion_numbered _ _
  rw [hnext] at hconclusion
  have hrequest : Numbered k.auditLog.nextId
    [⟨k.auditLog.nextId, id.raw, k.machine.millis, .request call.number call.args⟩] := rfl
  exact hrequest.append hconclusion

lemma faultTrail_numbered : Numbered k.auditLog.nextId (k.faultTrail cpu id f) := by
  have hsame : (k.reflectFault id f (k.machine.faultAddress cpu)).2.auditLog = k.auditLog :=
    auditLog_reflectFault _
  rw [faultTrail]
  split
  · rfl
  · next heq =>
    rw [heq] at hsame
    rw [← hsame]
    rfl

/-- **The events of a trap** are numbered on from where the log stands. -/
lemma trapTrail_numbered : Numbered k.auditLog.nextId (k.trapTrail cpu f) := by
  rw [trapTrail]
  split
  · rfl
  · next id _ =>
    split
    · change Numbered (k.entered cpu id f).auditLog.nextId _
      rw [handleTrail]
      split
      · exact faultTrail_numbered
      · exact callTrail_numbered _
      all_goals rfl
    · rfl

end Kernel

/-! ### Operations -/

namespace Operation

/-- The events that an operation records: only traps record any. -/
def recorded (k : Kernel) : Operation → List AuditEvent
  | .trap cpu f => k.trapTrail cpu f
  | .spawn _ | .allocate _ | .destroy _ _ | .schedule _ | .latch _ _ | .store _ _ _ => []

variable {k : Kernel} {op : Operation} {log : AuditLog}

/-- **An operation records its events** in whatever log there is, and does the same otherwise. -/
lemma apply_withLog (hlog : log.nextId = k.auditLog.nextId) : op.apply (k.withLog log) =
    (op.apply k).withLog (log.recordAll (op.recorded k)) := by
  cases op with
  | spawn image => exact congrArg Prod.snd Kernel.spawn_withLog
  | allocate parent =>
    rw [apply, apply, Kernel.allocate_withLog]
    cases k.allocate parent <;> rfl
  | destroy cpu id =>
    rw [apply, apply, Kernel.destroy_withLog]
    cases k.destroy cpu id <;> rfl
  | trap cpu f => exact congrArg Prod.snd (Kernel.trap_withLog hlog)
  | schedule cpu => exact congrArg Prod.snd (Kernel.schedule_withLog rfl)
  | latch cpu va | store s va data => rfl

lemma auditLog_apply : (op.apply k).auditLog = k.auditLog.recordAll (op.recorded k) := by
  have hsame : op.apply k = (op.apply k).withLog (k.auditLog.recordAll (op.recorded k)) :=
    apply_withLog rfl
  exact congrArg Kernel.auditLog hsame

lemma recorded_numbered : AuditLog.Numbered k.auditLog.nextId (op.recorded k) := by
  cases op with
  | trap cpu f => exact Kernel.trapTrail_numbered
  | _ => rfl

end Operation

namespace Transition

/-- **The events that a transition records**: those that it leaves in a log that is empty before it
and has room for all of them, which are as many as it uses up numbers. -/
def trail (e : Transition) : List AuditEvent :=
  (e.op.apply (e.before.withLog (.blank e.before.auditLog.nextId
    (e.after.auditLog.nextId - e.before.auditLog.nextId)))).auditLog.events

lemma trail_eq (e : Transition) : e.trail = e.op.recorded e.before := by
  have hroom : e.after.auditLog.nextId - e.before.auditLog.nextId =
      (e.op.recorded e.before).length := by
    rw [after, Operation.auditLog_apply, AuditLog.nextId_recordAll, Nat.add_sub_cancel_left]
  have hnumbered : AuditLog.Numbered (AuditLog.blank e.before.auditLog.nextId
      (e.op.recorded e.before).length).nextId (e.op.recorded e.before) :=
    Operation.recorded_numbered
  rw [trail, hroom, Operation.apply_withLog (by rfl), Kernel.withLog_auditLog,
    AuditLog.events_recordAll (Nat.zero_le _) hnumbered, AuditLog.blank, List.nil_append,
    AuditLog.lastN, Nat.sub_self, List.drop_zero]

/-! ### What trails tell -/

/-- A trap out of user code that process `id` takes with registers `f`: it is live, and bound to the
processor. -/
structure TakenBy (e : Transition) (cpu : Nat) (id : ProcessId) (f : TrapFrame) : Prop where
  op : e.op = .trap cpu f
  user : f.isUser
  current : e.before.current? cpu = some id
  bound : e.before.isBound cpu id

/-- Why the call that process `id` makes by a trap has no answer: it gives up the processor for
others, or it waits for a message now, or it is gone, because it asked for that or because it gave a
buffer that is not its own. -/
inductive Unanswered (e : Transition) (id : ProcessId) (f : TrapFrame) : Prop where
  | yields (hc : Syscall.decode f.call = .ok .yield)
  | waits {dstVa : Option VirtAddr} {p : Process}
      (hc : Syscall.decode f.call = .ok (.receive dstVa))
      (hp : e.after.live? id = some p) (hopen : p.mailbox.receiving)
  | exits {target : ProcessId} (hc : Syscall.decode f.call = .ok (.destroy target))
      (hgone : e.after.live? id = none)
  | killed {c : Syscall} (hc : Syscall.decode f.call = .ok c) (hreads : c.ReadsBuffer)
      (hgone : e.after.live? id = none)

/-- What is told of the call that process `id` makes by a trap: the request, and then the response
to it, with the result `result` or none; and that the process is ended, if it is for the sake of the
address `bad` in its buffer. -/
structure TellsCall (e : Transition) (id : ProcessId) (f : TrapFrame) (result : Option Int32)
    (bad : Option VirtAddr) : Prop where
  trail : e.trail.map (fun x => (x.id, x.process, x.kind)) =
    (e.before.auditLog.nextId, id.raw, .request f.call.number f.call.args) ::
    (e.before.auditLog.nextId + 1, id.raw, .response e.before.auditLog.nextId result) ::
    bad.toList.map fun va =>
      (e.before.auditLog.nextId + 2, id.raw, .terminated (.badUserBuffer va.word))
  /-- The result is what the caller finds in its register. -/
  answer : ∀ v, result = some v → ∃ p, e.after.live? id = some p ∧ p.frame.regs.eax = v.toUInt32
  unanswered : result = none ↔ e.Unanswered id f
  killed : bad.isSome ↔
    (∃ c, Syscall.decode f.call = .ok c ∧ c.ReadsBuffer) ∧ e.after.live? id = none

/-- Why process `id` is ended by a trap other than a call, if it is. -/
def cause (e : Transition) (cpu : Nat) (f : TrapFrame) : TerminationCause :=
  match TrapCause.ofNumber f.trapno with
  | .unexpected trapno => .unhandledTrap trapno f.eip
  | _ => .pageFault (e.before.machine.faultAddress cpu).word f.eip

/-- What is told of a trap of process `id` that is no call: that the process is ended, if it is. -/
def TellsEnd (e : Transition) (cpu : Nat) (id : ProcessId) (f : TrapFrame) : Prop :=
  e.trail.map (fun x => (x.id, x.process, x.kind)) =
    if (e.after.live? id).isSome then []
    else [(e.before.auditLog.nextId, id.raw, .terminated (e.cause cpu f))]

/-- **What is told of a transition**: of a call, of another trap of a live process, and nothing of
anything else. -/
structure Truthful (e : Transition) : Prop where
  call : ∀ cpu id f, e.TakenBy cpu id f → TrapCause.ofNumber f.trapno = .syscall →
    ∃ result bad, e.TellsCall id f result bad
  other : ∀ cpu id f, e.TakenBy cpu id f → TrapCause.ofNumber f.trapno ≠ .syscall →
    e.TellsEnd cpu id f
  nothing : (∀ cpu id f, ¬ e.TakenBy cpu id f) → e.trail = []

end Transition

namespace Kernel

variable {k : Kernel} {id : ProcessId} {p : Process} {cpu : Nat} {f : TrapFrame}

/-! ### Traps that are no calls -/

/-- Whoever the kernel ends is gone. -/
lemma ended_gone {k' : Kernel} {cause : TerminationCause} (hk : k.Sound) (h : k.Quiet k') :
    ((k'.auditTermination id cause).destroyOn cpu id).2.live? id = none :=
  destroyOn_quiet_gone hk (h.trans (quiet_audit _ _))

/-- What is left of a process by a page fault, and what is told. -/
lemma pageFault_end (hk : k.Sound) (hp : k.live? id = some p) :
    (k.faultTrail cpu id f).map (fun x => (x.id, x.process, x.kind)) =
      if ((k.pageFault cpu id f).2.live? id).isSome then []
      else [(k.auditLog.nextId, id.raw,
        .terminated (.pageFault (k.machine.faultAddress cpu).word f.eip))] := by
  have hsame : (k.reflectFault id f (k.machine.faultAddress cpu)).2.auditLog = k.auditLog :=
    auditLog_reflectFault _
  rw [faultTrail, pageFault]
  dsimp only
  cases hreflect : k.reflectFault id f (k.machine.faultAddress cpu) with
  | mk result k₁ =>
    rw [hreflect] at hsame
    cases result with
    | ok frameVa =>
      obtain ⟨entry, plan, -, -, hlive⟩ := reflectFault_ok hp hreflect
      dsimp only
      rw [(quiet_log _ _).live?, hlive]
      rfl
    | error e =>
      have hmoves : Moves anyDeed k (k.reflectFault id f (k.machine.faultAddress cpu)).2 :=
        reflectFault_moves _ trivial fun _ _ => trivial
      rw [hreflect] at hmoves
      dsimp only at hsame ⊢
      rw [ended_gone (hmoves.sound hk) (quiet_log _ _), endTrail, hsame]
      rfl

/-- What is left of a process by a trap that it was handled for, and what is told. -/
lemma handled_end (hk : k.Sound) (hp : k.live? id = some p) (hres : p.resident = some cpu)
    (hcause : TrapCause.ofNumber f.trapno ≠ .syscall) :
    ((k.entered cpu id f).handleTrail cpu id f).map (fun x => (x.id, x.process, x.kind)) =
      if (((k.entered cpu id f).handle cpu id f).2.live? id).isSome then []
      else
        [(k.auditLog.nextId, id.raw, .terminated (Transition.cause ⟨k, .trap cpu f⟩ cpu f))] := by
  have hsaved := k.entered_saved cpu id f
  have hp₀ := hsaved.live? hp
  have hk₀ := hsaved.sound hk hp
  have hack : ∀ cause, ((k.entered cpu id f).acknowledgeInterrupt cpu cause).live? id =
      some { p with frame := f } := fun cause =>
    ((quiet_acknowledgeInterrupt cause).live? id).trans hp₀
  rw [handleTrail, handle, Transition.cause]
  cases hcause' : TrapCause.ofNumber f.trapno with
  | syscall => exact absurd hcause' hcause
  | pageFault => exact pageFault_end hk₀ hp₀
  | unexpected trapno =>
    dsimp only
    rw [ended_gone hk₀ (quiet_log _ _)]
    rfl
  | timer =>
    have hpause := edit_paused (live?_eq_some_iff.1 (hack .timer)).2.2
      (({ p with frame := f } : Process).resident = some cpu)
    have hpaused := live?_unbind (live?_modify (f := fun p => if p.status = .running ∧
      p.resident = some cpu then { p with status := .runnable } else p) (hack .timer) hpause.id
      hpause.live) (hpause.resident.trans hres)
    dsimp only
    rw [preempt, hack .timer]
    dsimp only
    rw [hpaused]
    rfl
  | reschedule | spurious | controllerError | device =>
    dsimp only
    rw [hack]
    rfl

/-! ### Calls -/

lemma nextId_performed :
    (k.performed cpu id f).2.auditLog.nextId = k.auditLog.nextId + 1 := by
  have hsame : (k.performed cpu id f).2.auditLog = (k.called cpu id f).auditLog :=
    auditLog_perform _
  rw [hsame]
  rfl

/-- What is left of a process by its call, up to where the processor goes on. -/
lemma handled_call (cpu : Nat) (hp : k.live? id = some p)
    (hcause : TrapCause.ofNumber f.trapno = .syscall) :
    ∃ request, ((k.entered cpu id f).handle cpu id f).2.live? id =
      ((k.performed cpu id f).2.conclude cpu id request (k.performed cpu id f).1).2.live? id := by
  obtain ⟨request, hhandle⟩ := handle_performed cpu hp hcause
  exact ⟨request, by rw [hhandle]⟩

/-- What gives up its processor by a call and is not answered. -/
lemma performed_giveUp (hk : k.Sound) (hcur : k.current? cpu = some id) (hp : k.live? id = some p)
    (hres : p.resident = some cpu) (huser : f.isUser)
    (hcause : TrapCause.ofNumber f.trapno = .syscall) (hout : (k.performed cpu id f).1 = .giveUp) :
    Transition.Unanswered ⟨k, .trap cpu f⟩ id f ∧
      ∀ c, Syscall.decode f.call = .ok c → ¬ c.ReadsBuffer := by
  obtain ⟨request, hhandled⟩ := handled_call cpu hp hcause
  have hlive := trap_live hk hcur hp hres huser
  rw [hout] at hhandled
  change _ = ((k.performed cpu id f).2.audit id (.response request none)).live? id at hhandled
  rw [(quiet_audit _ _).live?] at hhandled
  rw [hhandled] at hlive
  cases hc : Syscall.decode f.call with
  | error e =>
    obtain ⟨k₁, -, heq⟩ := performed_error k id cpu hc
    rw [heq] at hout
    cases hout
  | ok c =>
    obtain ⟨k₁, hsaved, heq⟩ := performed_ok k id cpu hc
    have hp₁ := hsaved.live? hp
    rw [heq] at hout hlive
    rcases giveUp_cases hout with rfl | ⟨target, rfl⟩ | ⟨dstVa, k₂, rfl, hreceive⟩
    · refine ⟨.yields hc, fun c hc' hreads => ?_⟩
      cases hc'
      exact hreads
    · refine ⟨.exits hc ?_, fun c hc' hreads => ?_⟩
      · cases hq : (k₁.execute cpu id (.destroy target)).2.live? id with
        | none => rwa [hq] at hlive
        | some q =>
          rcases giveUp_frame (hsaved.sound hk hp) hp₁ hres hq hout with
            ⟨hother, -⟩ | ⟨dstVa, hother, -⟩ <;> cases hother
      · cases hc'
        exact hreads
    · obtain ⟨-, hblocked⟩ := live?_receive hp₁ hres hreceive
      rw [execute, hreceive, hblocked] at hlive
      obtain ⟨q, hq, -, hbox⟩ := hlive
      refine ⟨.waits hc hq (by rw [hbox]), fun c hc' hreads => ?_⟩
      cases hc'
      exact hreads

/-- What gives a buffer that is not its own is ended. -/
lemma performed_badBuffer {va : VirtAddr} (hk : k.Sound) (hcur : k.current? cpu = some id)
    (hp : k.live? id = some p) (hres : p.resident = some cpu) (huser : f.isUser)
    (hcause : TrapCause.ofNumber f.trapno = .syscall)
    (hout : (k.performed cpu id f).1 = .badBuffer va) :
    (∃ c, Syscall.decode f.call = .ok c ∧ c.ReadsBuffer) ∧ (k.trap cpu f).2.live? id = none := by
  constructor
  · cases hc : Syscall.decode f.call with
    | error e =>
      obtain ⟨k₁, -, heq⟩ := performed_error k id cpu hc
      rw [heq] at hout
      cases hout
    | ok c =>
      obtain ⟨k₁, -, heq⟩ := performed_ok k id cpu hc
      rw [heq] at hout
      exact ⟨c, rfl, badBuffer_cases hout⟩
  · obtain ⟨request, hhandled⟩ := handled_call cpu hp hcause
    have hlive := trap_live hk hcur hp hres huser
    rw [hout] at hhandled
    rwa [hhandled.trans (ended_gone (performed_sound hk hp hres)
      ((quiet_log _ _).trans (quiet_audit _ _)))] at hlive

/-- What is answered lives on, and does not wait for a message. -/
lemma performed_answer {result : Except KernelError UInt32} (hk : k.Sound) (hw : k.Waits)
    (hcur : k.current? cpu = some id) (hp : k.live? id = some p) (hres : p.resident = some cpu)
    (huser : f.isUser) (hcause : TrapCause.ofNumber f.trapno = .syscall)
    (hout : (k.performed cpu id f).1 = .answer result) :
    ¬ Transition.Unanswered ⟨k, .trap cpu f⟩ id f := by
  obtain ⟨q, hq, -⟩ := trap_answered hk hcur hp hres huser hcause hout
  intro h
  cases h with
  | yields hc =>
    obtain ⟨k₁, -, heq⟩ := performed_ok k id cpu hc
    rw [heq] at hout
    cases hout
  | waits hc hp' hopen =>
    have hshut : k.Shut id := fun p' hp' => by
      cases hp.symm.trans hp'
      refine Bool.eq_false_iff.2 fun hopen => ?_
      have hidle := hw _ p (live?_eq_some_iff.1 hp).1 hopen
      rw [hidle] at hres
      cases hres
    have hnot : ¬ (Operation.trap cpu f).Awaits k id := by
      rintro ⟨-, ⟨-, -, -, hc'⟩, hva⟩
      obtain ⟨k₁, hsaved, heq⟩ := performed_ok k id cpu hc'
      obtain ⟨k₂, hreceive⟩ := receive_ok cpu (hsaved.live? hp) hva
      rw [heq, execute, hreceive] at hout
      cases hout
    have hclosed := Operation.shut hk (show (Operation.trap cpu f).Legal k from trivial) hnot
      hshut _ hp'
    rw [hclosed] at hopen
    cases hopen
  | exits hc hgone => cases hgone.symm.trans hq
  | killed hc hreads hgone => cases hgone.symm.trans hq

end Kernel

/-! ### Any run -/

namespace Transition

variable {e : Transition} {cpu : Nat} {id : ProcessId} {f : TrapFrame}

lemma TakenBy.trail (h : e.TakenBy cpu id f) :
    e.trail = (e.before.entered cpu id f).handleTrail cpu id f := by
  rw [trail_eq, h.op, Operation.recorded, Kernel.trapTrail, h.current]
  exact if_pos ⟨h.user, h.bound⟩

/-- Nothing is recorded but of traps that live processes take. -/
lemma trail_nothing (h : ∀ cpu id f, ¬ e.TakenBy cpu id f) : e.trail = [] := by
  rw [trail_eq]
  obtain ⟨before, op⟩ := e
  cases op with
  | trap cpu f =>
    rw [Operation.recorded, Kernel.trapTrail]
    split
    · rfl
    · next id hcur => exact if_neg fun hboth => h cpu id f ⟨rfl, hboth.1, hcur, hboth.2⟩
  | _ => rfl

/-- **What is recorded of a call** is the call, its answer, and the end of its caller if it is
ended. -/
lemma TakenBy.tellsCall (h : e.TakenBy cpu id f) (hk : e.before.Sound) (hw : e.before.Waits)
    (hcause : TrapCause.ofNumber f.trapno = .syscall) :
    ∃ result bad, e.TellsCall id f result bad := by
  obtain ⟨p, hp, hres⟩ := Kernel.isBound_iff.1 h.bound
  have htrail := h.trail
  have huser := h.user
  have hcur := h.current
  obtain ⟨k, op⟩ := e
  obtain rfl : op = .trap cpu f := h.op
  rw [Kernel.handleTrail, hcause] at htrail
  change _ = _ :: (k.performed cpu id f).2.conclusion id k.auditLog.nextId
    (k.performed cpu id f).1 at htrail
  have hnext : (k.performed cpu id f).2.auditLog.nextId = k.auditLog.nextId + 1 :=
    Kernel.nextId_performed
  cases hout : (k.performed cpu id f).1 with
  | answer result =>
    rw [hout, Kernel.conclusion, hnext] at htrail
    obtain ⟨q, hq, heax⟩ := Kernel.trap_answered hk hcur hp hres huser hcause hout
    have hanswered := Kernel.performed_answer hk hw hcur hp hres huser hcause hout
    refine ⟨some (encodeResult result), none, by rw [htrail]; rfl, fun v hv => ?_,
      ⟨by rintro ⟨⟩, fun h => absurd h hanswered⟩, ⟨by rintro ⟨⟩, fun hgone => ?_⟩⟩
    · cases hv
      exact ⟨q, hq, heax⟩
    · cases hgone.2.symm.trans hq
  | giveUp =>
    rw [hout, Kernel.conclusion, hnext] at htrail
    obtain ⟨hwhy, hbuffer⟩ := Kernel.performed_giveUp hk hcur hp hres huser hcause hout
    refine ⟨none, none, by rw [htrail]; rfl, by rintro _ ⟨⟩, ⟨fun _ => hwhy, fun _ => rfl⟩,
      ⟨by rintro ⟨⟩, ?_⟩⟩
    rintro ⟨⟨c, hc, hreads⟩, -⟩
    exact absurd hreads (hbuffer c hc)
  | badBuffer va =>
    rw [hout, Kernel.conclusion, hnext] at htrail
    obtain ⟨⟨c, hc, hreads⟩, hgone⟩ := Kernel.performed_badBuffer hk hcur hp hres huser hcause hout
    exact ⟨none, some va, by rw [htrail]; rfl, by rintro _ ⟨⟩,
      ⟨fun _ => .killed hc hreads hgone, fun _ => rfl⟩, ⟨fun _ => ⟨⟨c, hc, hreads⟩, hgone⟩,
        fun _ => rfl⟩⟩

/-- **What is recorded of another trap** is the end of the process, if it is ended. -/
lemma TakenBy.tellsEnd (h : e.TakenBy cpu id f) (hk : e.before.Sound)
    (hcause : TrapCause.ofNumber f.trapno ≠ .syscall) : e.TellsEnd cpu id f := by
  obtain ⟨p, hp, hres⟩ := Kernel.isBound_iff.1 h.bound
  have hlive := Kernel.trap_live hk h.current hp hres h.user
  have hend := Kernel.handled_end hk hp hres hcause
  have hafter : e.after = (e.before.trap cpu f).2 := by rw [after, h.op, Operation.apply]
  rw [TellsEnd, h.trail, hend, hafter]
  have hsame : ((e.before.trap cpu f).2.live? id).isSome =
      (((e.before.entered cpu id f).handle cpu id f).2.live? id).isSome := by
    split at hlive
    · next hgone => rw [hgone, hlive]
    · next q hq =>
      obtain ⟨q', hq', -⟩ := hlive
      rw [hq, hq']
      rfl
  rw [hsame]
  rfl

end Transition

section Run

variable {config : Config} {frames : Nat} {k k' : Kernel} {es : List Transition}

/-- A log that nothing was recorded in yet. -/
lemma Booted.auditLog (h : Booted config frames k) :
    k.auditLog = .empty config.auditCapacity := by
  obtain ⟨k₀, order, hcreate, -, hjoined⟩ := h
  have hsame : k.auditLog = k₀.auditLog := by
    refine Kernel.bootAll_induct (P := fun k₁ => k₁.auditLog = k₀.auditLog) hjoined rfl
      fun k₁ cpu k₂ hlog hboot => ?_
    rw [Kernel.boot] at hboot
    split at hboot
    · cases hboot
      exact (Kernel.auditLog_log _ _).trans hlog
    · cases hboot
  rw [hsame]
  rw [Kernel.create] at hcreate
  split at hcreate <;> cases hcreate
  rfl

/-- A log that everything so far was recorded in. -/
lemma History.auditLog (h : History k es k') :
    k'.auditLog = k.auditLog.recordAll (es.flatMap Transition.trail) ∧
      AuditLog.Numbered k.auditLog.nextId (es.flatMap Transition.trail) := by
  induction h with
  | nil => exact ⟨rfl, rfl⟩
  | @snoc es k₁ _ op _ ih =>
    obtain ⟨hlog, hnumbered⟩ := ih
    have hlast : Transition.trail ⟨k₁, op⟩ = op.recorded k₁ := Transition.trail_eq _
    have hnext : AuditLog.Numbered k₁.auditLog.nextId (op.recorded k₁) :=
      Operation.recorded_numbered
    rw [hlog, AuditLog.nextId_recordAll] at hnext
    rw [List.flatMap_append, List.flatMap_singleton, hlast]
    exact ⟨by rw [Operation.auditLog_apply, hlog, AuditLog.recordAll_append],
      hnumbered.append hnext⟩

/-- **The audit log is complete and truthful.** In any run of a fresh kernel, the log consists of
the last events, as many as it has room for, of all that the transitions of the run recorded, which
are numbered from zero on. And what a transition records is this: of a call of a live process, the
request and the response to it, which has a result if and only if the call returned, and then the
one that the caller finds in its register; the end of a process that the kernel ends by itself; and
nothing else. -/
theorem audit_truthful (hk : Booted config frames k) (h : History k es k') :
    k'.auditLog.events =
        AuditLog.lastN config.auditCapacity (es.flatMap Transition.trail) ∧
      AuditLog.Numbered 0 (es.flatMap Transition.trail) ∧
      k'.auditLog.nextId = (es.flatMap Transition.trail).length ∧ ∀ e ∈ es, e.Truthful := by
  obtain ⟨hlog, hnumbered⟩ := h.auditLog
  rw [hk.auditLog] at hlog hnumbered
  refine ⟨?_, hnumbered, ?_, fun e he => ?_⟩
  · rw [hlog, AuditLog.events_recordAll (Nat.zero_le _) hnumbered]
    rfl
  · rw [hlog, AuditLog.nextId_recordAll]
    exact Nat.zero_add _
  · obtain ⟨es₁, es₂, rfl⟩ := List.append_of_mem he
    have hreach := h.split.1.reachable hk.reachable
    exact ⟨fun cpu id f htaken hcause => htaken.tellsCall hreach.sound hreach.waits hcause,
      fun cpu id f htaken hcause => htaken.tellsEnd hreach.sound hcause, Transition.trail_nothing⟩

/-- A process asks for its identity, and then to print what is not in its memory. The log keeps the
last three of the five events: the second request, the response without a result, and the end of the
process. -/
theorem audit_truthful_killed : ∃ (k k' : Kernel) (es : List Transition),
    Booted { maxProcesses := 2, auditCapacity := 3 } 16 k ∧ History k es k' ∧ es.length = 4 ∧
    k'.auditLog.events = AuditLog.lastN 3 (es.flatMap Transition.trail) ∧
    k'.auditLog.events.map (fun x => (x.id, x.kind)) =
      [(2, .request SyscallNumber.putString [0, 1, 0, 0, 0]), (3, .response 2 none),
        (4, .terminated (.badUserBuffer 0))] ∧
    ∀ e ∈ es, e.Truthful := by
  have hboot : Booted { maxProcesses := 2, auditCapacity := 3 } 16 _ := ⟨_, [0], rfl, .refl _, rfl⟩
  have hbegin : ∀ {k : Kernel}, Booted { maxProcesses := 2, auditCapacity := 3 } 16 k →
      History k [] k := fun _ => .nil
  let call (c : Syscall) : Operation := .trap 0 (Kernel.callFrame (.initial 0) c)
  have hhist := ((((hbegin hboot).snoc (.spawn ⟨⟨0⟩, []⟩) trivial).snoc (.schedule 0) rfl).snoc
    (call .getId) trivial).snoc (call (.putString ⟨0⟩ 1)) trivial
  obtain ⟨hevents, -, -, htruthful⟩ := audit_truthful hboot hhist
  exact ⟨_, _, _, hboot, hhist, rfl, hevents, by decide +kernel, htruthful⟩

end Run

end Exokernel
