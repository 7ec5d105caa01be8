/-
On whose behalf the calls of user code are carried out.

* `Bench.withLog`: the bench with another audit log; what it does is the same with any
  (`timer_withLog`, `runWithin_withLog`, `call_withLog`, `trap_withLog`);
* `UserContext.trail`: the events that a call records, by which it is seen who made it, and
  `UserContext.trail_eq`: they are those of its first trap, since waiting records nothing;
* `UserContext.Use`, `UserContext.after`: what user code may do, any number of times;
* `calls_attributed`: **a call is carried out for whoever runs on the processor**. That is the
  process of user code, or the call comes after one that was answered as if the process were gone.
-/
import Exokernel.Proofs.Bench.Calls
import Exokernel.Proofs.Trails

namespace Exokernel

namespace Bench

open Kernel

variable {t : Bench} {cpu : Nat} {id : ProcessId} {log : AuditLog} {c : Syscall}

/-! ### What is recorded -/

/-- The bench with another audit log. -/
def withLog (t : Bench) (log : AuditLog) : Bench := { t with kernel := t.kernel.withLog log }

lemma frame?_withLog : (t.withLog log).frame? cpu = t.frame? cpu := rfl

/-- The number of the next event. -/
def nextEvent (t : Bench) : Nat := t.kernel.auditLog.nextId

lemma enter_withLog (r : Resume × Kernel) : (t.withLog log).enter cpu (r.1, r.2.withLog log) =
    ((t.enter cpu r).1, (t.enter cpu r).2.withLog log) := by
  obtain ⟨resume, kernel⟩ := r
  cases resume <;> rfl

/-- A processor that enters a kernel keeps who runs on the other ones, with any log. -/
lemma enter_relog (log' : AuditLog) (r : Resume × Kernel) :
    (t.withLog log').enter cpu r = t.enter cpu r := by
  obtain ⟨resume, kernel⟩ := r
  cases resume <;> rfl

/-- A trap of a processor of the bench, with another log. -/
lemma trap_withLog {f : TrapFrame} (hlog : log.nextId = t.nextEvent) :
    (t.withLog log).enter cpu ((t.withLog log).kernel.trap cpu f) =
      ((t.enter cpu (t.kernel.trap cpu f)).1, (t.enter cpu (t.kernel.trap cpu f)).2.withLog
        (log.recordAll (t.kernel.trapTrail cpu f))) := by
  rw [← enter_withLog, enter_relog, enter_relog]
  exact congrArg _ (Kernel.trap_withLog hlog)

/-- The clock records nothing. -/
lemma trapTrail_timer {k : Kernel} {f : TrapFrame} (hcause : TrapCause.ofNumber f.trapno = .timer) :
    k.trapTrail cpu f = [] := by
  rw [trapTrail]
  split
  · rfl
  · split
    · rw [handleTrail, hcause]
    · rfl

/-- The frame of a timer that fires. -/
def timerFrame (t : Bench) (cpu : Nat) : TrapFrame :=
  match t.frame? cpu with
  | some f => { f with trapno := Irq.offset + Irq.timer }
  | none => .kernel (Irq.offset + Irq.timer)

lemma timer_eq (t : Bench) (cpu : Nat) :
    t.timer cpu = t.enterNext cpu (t.kernel.trap cpu (t.timerFrame cpu)) := rfl

lemma timerFrame_cause (t : Bench) (cpu : Nat) :
    TrapCause.ofNumber (t.timerFrame cpu).trapno = .timer := by
  rw [timerFrame]
  split <;> rfl

lemma timer_withLog (hlog : log.nextId = t.nextEvent) :
    (t.withLog log).timer cpu = ((t.timer cpu).1, (t.timer cpu).2.withLog log) := by
  have htrap : (t.withLog log).enter cpu ((t.withLog log).kernel.trap cpu (t.timerFrame cpu)) = _ :=
    trap_withLog hlog
  rw [trapTrail_timer (timerFrame_cause t cpu), AuditLog.recordAll_nil] at htrap
  have hframe : (t.withLog log).timerFrame cpu = t.timerFrame cpu := rfl
  rw [timer_eq, timer_eq, enterNext, enterNext, hframe]
  generalize (t.withLog log).enter cpu _ = entered at htrap ⊢
  subst htrap
  rcases t.enter cpu (t.kernel.trap cpu (t.timerFrame cpu)) with ⟨_ | next, t'⟩ <;> rfl

lemma nextEvent_timer : (t.timer cpu).2.nextEvent = t.nextEvent := by
  have hlog : ((Operation.trap cpu (t.timerFrame cpu)).apply t.kernel).auditLog = _ :=
    Operation.auditLog_apply
  rw [Operation.recorded, trapTrail_timer (timerFrame_cause t cpu), AuditLog.recordAll_nil] at hlog
  rw [timer_eq, snd_enterNext, nextEvent, kernel_enter]
  exact congrArg AuditLog.nextId hlog

/-- **Waiting records nothing**, and goes the same way with any log. -/
lemma runWithin_withLog (n : Nat) (hlog : log.nextId = t.nextEvent) :
    runWithin cpu id n (t.withLog log) =
      ((runWithin cpu id n t).1, (runWithin cpu id n t).2.withLog log) ∧
    (runWithin cpu id n t).2.nextEvent = t.nextEvent := by
  induction n generalizing t with
  | zero => exact ⟨rfl, rfl⟩
  | succ n ih =>
    rw [runWithin, runWithin]
    change (if t.current? cpu = some id then _ else _) = _ ∧ _
    split
    · exact ⟨rfl, rfl⟩
    · rw [timer_withLog hlog]
      obtain ⟨hrun, hnext⟩ := ih (t := (t.timer cpu).2) (hlog.trans nextEvent_timer.symm)
      exact ⟨hrun, hnext.trans nextEvent_timer⟩

/-- The events that a call on a processor records. -/
def recorded (t : Bench) (cpu : Nat) (c : Syscall) : List AuditEvent :=
  match t.occupant? cpu with
  | none => []
  | some o => t.kernel.trapTrail cpu (callFrame o.frame c)

lemma call_withLog (hlog : log.nextId = t.nextEvent) : (t.withLog log).call cpu c =
    ((t.call cpu c).1, (t.call cpu c).2.withLog (log.recordAll (t.recorded cpu c))) := by
  rw [recorded]
  cases ho : t.occupant? cpu with
  | none =>
    have ho' : (t.withLog log).occupant? cpu = none := ho
    rw [call, call, ho, ho']
    rfl
  | some o =>
    have ho' : (t.withLog log).occupant? cpu = some ⟨o.id, o.frame⟩ := ho
    rw [call_of_occupant? ho', call_of_occupant? ho, trap_withLog hlog]
    rcases t.enter cpu (t.kernel.trap cpu (callFrame o.frame c)) with ⟨_ | now, t'⟩
    · rfl
    · dsimp only
      split
      · rw [frame?_withLog]
        cases t'.frame? cpu <;> rfl
      · rfl

lemma auditLog_call : (t.call cpu c).2.kernel.auditLog =
    t.kernel.auditLog.recordAll (t.recorded cpu c) := by
  have hsame : t.call cpu c = ((t.call cpu c).1, (t.call cpu c).2.withLog
    (t.kernel.auditLog.recordAll (t.recorded cpu c))) := call_withLog rfl
  exact congrArg (·.2.kernel.auditLog) hsame

lemma recorded_numbered : AuditLog.Numbered t.nextEvent (t.recorded cpu c) := by
  rw [recorded]
  split
  · rfl
  · exact trapTrail_numbered

end Bench

namespace UserContext

open Bench Kernel

variable {u : UserContext} {c : Syscall} {log : AuditLog} {f : TrapFrame}

/-- User code on the bench with another audit log. -/
def withLog (u : UserContext) (log : AuditLog) : UserContext := { u with bed := u.bed.withLog log }

@[simp] lemma withLog_cpu : (u.withLog log).cpu = u.cpu := rfl

/-- What user code is answered, once the processor has done for its call what it did at once. -/
def settle (u : UserContext) : Step × Bench → Int32 × UserContext
  | (.returned answer, bed) => (answer, { u with bed })
  | (.halted _, bed) => (goneAnswer, { u with bed })
  | (.switched _, bed) =>
    match bed.runUntil u.cpu u.process with
    | (false, bed) => (goneAnswer, { u with bed })
    | (true, bed) =>
      match bed.frame? u.cpu with
      | none => (goneAnswer, { u with bed })
      | some f => (f.regs.eax.toInt32, { u with bed })

lemma trap_eq_settle (u : UserContext) (c : Syscall) :
    u.trap c = u.settle (u.bed.call u.cpu c) := rfl

/-- What it is answered does not depend on the log. -/
lemma settle_withLog {log' : AuditLog} (r : Step × Bench) (hlog : log.nextId = r.2.nextEvent) :
    (u.withLog log').settle (r.1, r.2.withLog log) =
      ((u.settle r).1, (u.settle r).2.withLog log) := by
  obtain ⟨_ | now | panic, t⟩ := r
  · rfl
  · have hrun : (t.withLog log).runUntil u.cpu u.process =
        ((t.runUntil u.cpu u.process).1, (t.runUntil u.cpu u.process).2.withLog log) :=
      (runWithin_withLog _ hlog).1
    rw [settle, settle]
    change (match (t.withLog log).runUntil u.cpu u.process with
      | (false, bed) => _
      | (true, bed) => _) = _
    rw [hrun]
    rcases t.runUntil u.cpu u.process with ⟨_ | _, t'⟩
    · rfl
    · dsimp only
      rw [frame?_withLog, withLog_cpu]
      cases t'.frame? u.cpu <;> rfl
  · rfl

/-- **A call records its events** in whatever log there is, and does the same otherwise. -/
lemma trap_withLog (hlog : log.nextId = u.bed.nextEvent) : (u.withLog log).trap c =
    ((u.trap c).1, (u.trap c).2.withLog (log.recordAll (u.bed.recorded u.cpu c))) := by
  have hnext : (log.recordAll (u.bed.recorded u.cpu c)).nextId =
      (u.bed.call u.cpu c).2.nextEvent := by
    rw [nextEvent, auditLog_call, AuditLog.nextId_recordAll, AuditLog.nextId_recordAll, hlog]
    rfl
  rw [trap_eq_settle, trap_eq_settle, ← settle_withLog _ hnext, ← call_withLog hlog]
  rfl

/-- **The events that a call records**: those that it leaves in a log that is empty before it and
has room for all of them, which are as many as it uses up numbers. -/
def trail (u : UserContext) (c : Syscall) : List AuditEvent :=
  ((u.withLog (.blank u.bed.nextEvent
    ((u.trap c).2.bed.nextEvent - u.bed.nextEvent))).trap c).2.bed.kernel.auditLog.events

lemma trail_eq : u.trail c = u.bed.recorded u.cpu c := by
  have hsame : u.trap c = ((u.trap c).1, (u.trap c).2.withLog
    (u.bed.kernel.auditLog.recordAll (u.bed.recorded u.cpu c))) := trap_withLog rfl
  have hlog : (u.trap c).2.bed.kernel.auditLog =
      u.bed.kernel.auditLog.recordAll (u.bed.recorded u.cpu c) :=
    congrArg (·.2.bed.kernel.auditLog) hsame
  have hroom : (u.trap c).2.bed.nextEvent - u.bed.nextEvent =
      (u.bed.recorded u.cpu c).length := by
    rw [nextEvent, hlog, AuditLog.nextId_recordAll]
    exact Nat.add_sub_cancel_left _ _
  have hnumbered : AuditLog.Numbered (AuditLog.blank u.bed.nextEvent
    (u.bed.recorded u.cpu c).length).nextId (u.bed.recorded u.cpu c) := recorded_numbered
  rw [trail, hroom, trap_withLog (by rfl)]
  change (AuditLog.recordAll _ _).events = _
  rw [AuditLog.events_recordAll (Nat.zero_le _) hnumbered, AuditLog.blank, List.nil_append,
    AuditLog.lastN, Nat.sub_self, List.drop_zero]

/-! ### One call -/

/-- What a call records is recorded of whoever runs on the processor. -/
lemma mem_trail {config : Config} {frames : Nat} (h : Bench.Reachable config frames u.bed)
    {e : AuditEvent} (he : e ∈ u.trail c) :
    ∃ o, u.bed.occupant? u.cpu = some o ∧ e.process = o.id.raw := by
  rw [trail_eq, recorded] at he
  cases ho : u.bed.occupant? u.cpu with
  | none =>
    rw [ho] at he
    cases he
  | some o =>
    rw [ho] at he
    refine ⟨o, rfl, ?_⟩
    rcases h.sync ho with hcur | hnone
    · dsimp only at he
      rw [trapTrail, hcur] at he
      dsimp only at he
      split at he
      · exact callTrail_process he
      · cases he
    · dsimp only at he
      rw [trapTrail, hnone] at he
      cases he

/-- **A call of a process that runs** is recorded as its request, or nothing is recorded and it is
told that it is gone. -/
lemma trail_own {config : Config} {frames : Nat} (h : Bench.Reachable config frames u.bed)
    (hrun : u.bed.current? u.cpu = some u.process) (c : Syscall) :
    (∃ e rest, u.trail c = e :: rest ∧ e.process = u.process.raw ∧
      e.kind = .request c.encode.number c.encode.args) ∨
    u.trail c = [] ∧ (u.trap c).1 = goneAnswer := by
  obtain ⟨⟨id, f⟩, ho, hid⟩ := Option.map_eq_some_iff.1 hrun
  obtain rfl : id = u.process := hid
  have hsilent : u.bed.kernel.trapTrail u.cpu (callFrame f c) = [] → u.trail c = [] := fun h => by
    rw [trail_eq, recorded, ho]
    exact h
  by_cases hhalts : u.bed.kernel.current? u.cpu = none ∨ f.isUser = false
  · obtain ⟨panic, t', hcall, -⟩ := call_halted ho hhalts c
    refine .inr ⟨hsilent ?_, by rw [trap_eq_settle, hcall]; rfl⟩
    rw [trapTrail]
    rcases hhalts with hnone | huser
    · rw [hnone]
    · split
      · rfl
      · exact if_neg fun hboth => Bool.false_ne_true (huser.symm.trans hboth.1)
  · rw [not_or, Bool.not_eq_false] at hhalts
    obtain ⟨hclaim, huser⟩ := hhalts
    have hcur := (h.sync ho).resolve_right hclaim
    have htrail : u.bed.kernel.trapTrail u.cpu (callFrame f c) =
        if (callFrame f c).isUser ∧ u.bed.kernel.isBound u.cpu u.process then
          (u.bed.kernel.entered u.cpu u.process (callFrame f c)).callTrail u.cpu u.process c.encode
        else [] := by
      rw [trapTrail, hcur]
      rfl
    by_cases hbound : u.bed.kernel.isBound u.cpu u.process
    · rw [if_pos ⟨huser, hbound⟩] at htrail
      have hown : u.trail c = _ := trail_eq.trans ((by rw [recorded, ho] : _ = _).trans htrail)
      rw [hown]
      exact .inl ⟨_, _, rfl, rfl, rfl⟩
    · rw [if_neg fun hboth => hbound hboth.2] at htrail
      refine .inr ⟨hsilent htrail, trap_gone h.sound hcur ho huser ?_ c⟩
      refine Option.eq_none_iff_forall_ne_some.2 fun p hp => hbound ?_
      exact isBound_iff.2 ⟨p, hp, (h.sound.current?_iff hp).1 hcur⟩

/-! ### One call after another -/

lemma runWithin_true {cpu : Nat} {id : ProcessId} {n : Nat} {t : Bench}
    (h : (runWithin cpu id n t).1 = true) : (runWithin cpu id n t).2.current? cpu = some id := by
  induction n generalizing t with
  | zero => exact of_decide_eq_true h
  | succ n ih =>
    rw [runWithin] at h ⊢
    split at h
    · next hrun => rwa [if_pos hrun]
    · next hnot =>
      rw [if_neg hnot]
      exact ih h

/-- A call that is waited out and not given up, ends with the process running. -/
lemma settle_switched {now : Option ProcessId} {t : Bench}
    (h : (u.settle (.switched now, t)).1 ≠ goneAnswer) :
    (u.settle (.switched now, t)).2.bed.current? u.cpu = some u.process := by
  rw [settle] at h ⊢
  have hback : (t.runUntil u.cpu u.process).1 = true →
      (t.runUntil u.cpu u.process).2.current? u.cpu = some u.process := runWithin_true
  rcases hrun : t.runUntil u.cpu u.process with ⟨_ | _, t'⟩
  · rw [hrun] at h
    exact absurd rfl h
  · rw [hrun] at hback
    have hcurrent : t'.current? u.cpu = some u.process := hback rfl
    dsimp only
    cases t'.frame? u.cpu <;> exact hcurrent

/-- **A process that runs and is not told that it is gone**, runs after its call as well. -/
lemma trap_stays (hrun : u.bed.current? u.cpu = some u.process) (h : (u.trap c).1 ≠ goneAnswer) :
    (u.trap c).2.bed.current? u.cpu = some u.process := by
  obtain ⟨⟨id, f⟩, ho, hid⟩ := Option.map_eq_some_iff.1 hrun
  obtain rfl : id = u.process := hid
  have hcall := call_of_occupant? ho c
  rw [trap_eq_settle] at h ⊢
  rcases henter : u.bed.enter u.cpu (u.bed.kernel.trap u.cpu (callFrame f c)) with ⟨_ | now, t⟩
  · rw [henter] at hcall
    rw [hcall] at h
    exact absurd rfl h
  · rw [henter] at hcall
    dsimp only at hcall
    split at hcall
    · next hnow =>
      subst hnow
      obtain ⟨f', hocc⟩ := occupant?_of_enter (lt_size_of_occupant? ho) henter
      rw [frame?, hocc] at hcall
      rw [hcall]
      exact congrArg (Option.map _) hocc
    · rw [hcall] at h ⊢
      exact settle_switched h

/-- What user code may do: make a call, and copy a page of its memory. What it sees of its pages and
its mailbox it sees without leave, and so it may do anything here in any order. -/
inductive Use where
  | call (c : Syscall)
  | copy (dst src : VirtAddr)

/-- User code after something that it does. -/
def use (u : UserContext) : Use → UserContext
  | .call c => (u.trap c).2
  | .copy dst src => (u.copyPage dst src).2

/-- User code after all that it does. -/
def after (u : UserContext) (uses : List Use) : UserContext := uses.foldl use u

lemma after_snoc (u : UserContext) (uses : List Use) (use : Use) :
    u.after (uses ++ [use]) = (u.after uses).use use := List.foldl_append

/-- User code stays the process that it is, on its processor. -/
lemma use_same (u : UserContext) (use : Use) :
    (u.use use).process = u.process ∧ (u.use use).cpu = u.cpu := by
  cases use with
  | call c =>
    rw [UserContext.use, trap_eq_settle]
    rcases u.bed.call u.cpu c with ⟨_ | now | panic, t⟩
    · exact ⟨rfl, rfl⟩
    · rw [settle]
      split
      · exact ⟨rfl, rfl⟩
      · split <;> exact ⟨rfl, rfl⟩
    · exact ⟨rfl, rfl⟩
  | copy dst src =>
    rw [UserContext.use, copyPage]
    split
    · exact ⟨rfl, rfl⟩
    · split
      · exact ⟨rfl, rfl⟩
      · split <;> exact ⟨rfl, rfl⟩

lemma after_same (u : UserContext) (uses : List Use) :
    (u.after uses).process = u.process ∧ (u.after uses).cpu = u.cpu := by
  induction uses generalizing u with
  | nil => exact ⟨rfl, rfl⟩
  | cons use uses ih =>
    obtain ⟨hprocess, hcpu⟩ := u.use_same use
    obtain ⟨hprocess', hcpu'⟩ := ih (u.use use)
    exact ⟨hprocess'.trans hprocess, hcpu'.trans hcpu⟩

lemma current?_copyPage (u : UserContext) (dst src : VirtAddr) (cpu : Nat) :
    (u.copyPage dst src).2.bed.current? cpu = u.bed.current? cpu := by
  rw [copyPage]
  split
  · rfl
  · split
    · rfl
    · split <;> rfl

variable {config : Config} {frames : Nat}

lemma after_reachable (h : Bench.Reachable config frames u.bed) (uses : List Use) :
    Bench.Reachable config frames (u.after uses).bed := by
  induction uses generalizing u with
  | nil => exact h
  | cons use uses ih =>
    cases use with
    | call c => exact ih (h.userTrap c)
    | copy dst src => exact ih (h.copyPage dst src)

/-- **A process that lost its processor** was told that it is gone by the call that lost it. -/
lemma after_lost (hrun : u.bed.current? u.cpu = some u.process) (uses : List Use)
    (hlost : (u.after uses).bed.current? u.cpu ≠ some u.process) :
    ∃ earlier c later, uses = earlier ++ .call c :: later ∧
      (u.after earlier).bed.current? u.cpu = some u.process ∧
      ((u.after earlier).trap c).1 = goneAnswer ∧
      ((u.after earlier).trap c).2.bed.current? u.cpu ≠ some u.process := by
  induction uses using List.reverseRecOn with
  | nil => exact absurd hrun hlost
  | append_singleton uses use ih =>
    by_cases hbefore : (u.after uses).bed.current? u.cpu = some u.process
    · obtain ⟨hprocess, hcpu⟩ := u.after_same uses
      rw [after_snoc] at hlost
      cases use with
      | call c =>
        refine ⟨uses, c, [], rfl, hbefore, ?_, hlost⟩
        by_contra hanswer
        rw [← hprocess, ← hcpu] at hbefore
        have hstays := trap_stays hbefore hanswer
        rw [hprocess, hcpu] at hstays
        exact hlost hstays
      | copy dst src =>
        exact absurd ((current?_copyPage ..).trans hbefore) hlost
    · obtain ⟨earlier, c, later, rfl, hcurrent, hanswer⟩ := ih hbefore
      exact ⟨earlier, c, later ++ [use], by simp, hcurrent, hanswer⟩

end UserContext

open UserContext in
/-- **A call of user code is carried out for whoever runs on its processor.** User code stands for
the process that ran on a processor of the bench when it began. Whatever it has done so far, all
that its next call records is recorded of the process that runs there. As long as that is the
process of user code, the call is recorded as its request, or nothing is recorded and it is told
that it is gone. If it is not, then an earlier call, made while it still was, was answered as if the
process were gone, and left the processor to somebody else. -/
theorem calls_attributed {config : Config} {frames : Nat} {t : Bench} {cpu : Nat}
    {u : UserContext} (h : Bench.Reachable config frames t) (hu : UserContext.of? t cpu = some u)
    (uses : List Use) (c : Syscall) :
    (u.after uses).process = u.process ∧ (u.after uses).cpu = cpu ∧
    (∀ e ∈ (u.after uses).trail c, ∃ o, (u.after uses).bed.occupant? cpu = some o ∧
      e.process = o.id.raw) ∧
    ((u.after uses).bed.current? cpu = some u.process →
      (∃ e rest, (u.after uses).trail c = e :: rest ∧ e.process = u.process.raw ∧
        e.kind = .request c.encode.number c.encode.args) ∨
      (u.after uses).trail c = [] ∧ ((u.after uses).trap c).1 = goneAnswer) ∧
    ((u.after uses).bed.current? cpu ≠ some u.process →
      ∃ earlier c' later, uses = earlier ++ .call c' :: later ∧
        (u.after earlier).bed.current? cpu = some u.process ∧
        ((u.after earlier).trap c').1 = goneAnswer ∧
        ((u.after earlier).trap c').2.bed.current? cpu ≠ some u.process) := by
  obtain ⟨process, hrun, rfl⟩ := Option.map_eq_some_iff.1 hu
  have hreach : Bench.Reachable config frames
      (UserContext.after ⟨t, cpu, process⟩ uses).bed := after_reachable h uses
  obtain ⟨hprocess, hcpu⟩ := after_same ⟨t, cpu, process⟩ uses
  refine ⟨hprocess, hcpu, fun e he => ?_, fun hcurrent => ?_,
    fun hlost => after_lost hrun uses hlost⟩
  · obtain ⟨o, ho, hid⟩ := mem_trail hreach he
    exact ⟨o, by rwa [hcpu] at ho, hid⟩
  · have hown := trail_own hreach (by rw [hcpu, hprocess]; exact hcurrent) c
    rwa [hprocess] at hown

/-- A process gives up its processor, gets it back, and asks for its identity: that is recorded of
the process itself. -/
theorem calls_attributed_back : ∃ (t : Bench) (u : UserContext),
    Bench.Reachable { maxProcesses := 2 } 16 t ∧ UserContext.of? t 0 = some u ∧
    u.process = ProcessId.self.next 1 ∧
    ∃ e rest, (u.after [.call .yield]).trail .getId = e :: rest ∧ e.process = u.process.raw ∧
      e.kind = .request SyscallNumber.getId [0, 0, 0, 0, 0] := by
  have hboot : Reachable { maxProcesses := 2 } 16 _ := .boot rfl (.refl _) rfl
  have hspawn := (hboot.step (.spawn ⟨⟨0⟩, []⟩) trivial).step (.spawn ⟨⟨0⟩, []⟩) trivial
  have hrun := (Bench.Reachable.begin hspawn).schedule 0 rfl
  obtain ⟨-, -, -, hown, -⟩ := calls_attributed hrun (rfl : UserContext.of? _ 0 = _)
    [.call .yield] .getId
  refine ⟨_, _, hrun, rfl, by decide +kernel, (hown (by decide +kernel)).resolve_right ?_⟩
  exact fun hgone => absurd hgone.2 (by decide +kernel)

/-- **A call that is carried out for somebody else.** A process waits for a message that nobody
sends and is told that it is gone. When it asks for its identity after that, the kernel asks the
idle process, records the call as that process's, and answers with that process's identity. -/
theorem call_of_another : ∃ (t : Bench) (u : UserContext),
    Bench.Reachable { maxProcesses := 2 } 16 t ∧ UserContext.of? t 0 = some u ∧
    u.process = ProcessId.self.next 1 ∧
    (u.trap (.receive none)).1 = UserContext.goneAnswer ∧
    ((u.after [.call (.receive none)]).trap .getId).1.toUInt32 = (ProcessId.self.next 0).raw ∧
    ∃ e rest, (u.after [.call (.receive none)]).trail .getId = e :: rest ∧
      e.process = (ProcessId.self.next 0).raw ∧
      e.kind = .request SyscallNumber.getId [0, 0, 0, 0, 0] := by
  have hboot : Reachable { maxProcesses := 2 } 16 _ := .boot rfl (.refl _) rfl
  have hspawn := (hboot.step (.spawn ⟨⟨0⟩, []⟩) trivial).step (.spawn ⟨⟨0⟩, []⟩) trivial
  have hrun := (Bench.Reachable.begin hspawn).schedule 0 rfl
  exact ⟨_, ⟨_, 0, ProcessId.self.next 1⟩, hrun, by rfl, rfl, by decide +kernel,
    by decide +kernel, _, _, by rfl, by decide +kernel, by decide +kernel⟩

end Exokernel
