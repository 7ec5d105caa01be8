/-
System calls of user code on the bench.

* `Bench.Awake`: a process that runs on a processor of the bench;
* `Awake.call_returned`, `Awake.destroySelf`: **its calls** are carried out and answered at once,
  and if it destroys itself, it is gone;
* `Bench.Waits`, `UserContext.trap_back`: a caller that has to wait until it runs again;
* `UserContext.trap_gone`: **who is gone is told so**;
* `UserContext.trap_ok`: a call that is answered with a success was carried out, also if it had to
  be waited for.
-/
import Exokernel.Proofs.Bench.Steps
import Exokernel.Proofs.Kernel.Answers

namespace Exokernel

/-- Who is told a success, succeeded. -/
lemma ok_of_decodeResult {result : Except KernelError UInt32} {v : UInt32}
    (h : decodeResult (encodeResult result) = .ok v) : result = .ok v := by
  cases result with
  | error e =>
    rw [decodeResult_encodeResult_error] at h
    cases h
  | ok w =>
    rw [encodeResult, decodeResult] at h
    split at h
    · cases h
    · cases h
      rw [UInt32.toUInt32_toInt32]

namespace Bench

open Kernel

variable {t : Bench} {cpu : Nat} {id : ProcessId} {f : TrapFrame} {c : Syscall} {o : Occupant}

lemma lt_size_of_occupant? (ho : t.occupant? cpu = some o) : cpu < t.occupants.size := by
  by_contra hnot
  rw [occupant?, Array.getElem?_eq_none (Nat.not_lt.1 hnot)] at ho
  cases ho

/-- The registers of the process that runs on a processor. -/
lemma frame?_of_occupant? (ho : t.occupant? cpu = some o) : t.frame? cpu = some o.frame := by
  rw [frame?, ho]
  rfl

/-- Its programs run for it. -/
lemma of?_of_occupant? (ho : t.occupant? cpu = some o) :
    UserContext.of? t cpu = some ⟨t, cpu, o.id⟩ := by
  rw [UserContext.of?, current?, ho]
  rfl

/-- A processor that is told to run a process runs it. -/
lemma occupant?_enter_user {r : Resume × Kernel} (hsize : cpu < t.occupants.size)
    (hr : r.1 = .user id f) : (t.enter cpu r).1 = .ok (some id) ∧
      (t.enter cpu r).2.occupant? cpu = some ⟨id, f⟩ := by
  obtain ⟨resume, kernel⟩ := r
  obtain rfl : resume = .user id f := hr
  refine ⟨rfl, ?_⟩
  rw [enter, occupant?_setOccupant, if_pos ⟨rfl, hsize⟩]

/-- A processor that runs a process was told to. -/
lemma occupant?_of_enter {t' : Bench} {r : Resume × Kernel} (hsize : cpu < t.occupants.size)
    (h : t.enter cpu r = (.ok (some id), t')) : ∃ f, t'.occupant? cpu = some ⟨id, f⟩ := by
  obtain ⟨resume, kernel⟩ := r
  cases resume with
  | user id' f =>
    cases h
    refine ⟨f, ?_⟩
    rw [occupant?_setOccupant, if_pos ⟨rfl, hsize⟩]
  | idle => cases h
  | halt panic => cases h

lemma call_of_occupant? (ho : t.occupant? cpu = some ⟨id, f⟩) (c : Syscall) :
    t.call cpu c = match t.enter cpu (t.kernel.trap cpu (callFrame f c)) with
      | (.error panic, t) => (.halted panic, t)
      | (.ok now, t) =>
        if now = some id then
          match t.frame? cpu with
          | some f => (.returned f.regs.eax.toInt32, t)
          | none => (.switched none, t)
        else (.switched now, t) := by
  rw [call, ho]
  rfl

lemma kernel_call (ho : t.occupant? cpu = some ⟨id, f⟩) (c : Syscall) :
    (t.call cpu c).2.kernel = (t.kernel.trap cpu (callFrame f c)).2 := by
  have hkernel : (t.enter cpu (t.kernel.trap cpu (callFrame f c))).2.kernel = _ := kernel_enter
  rw [call_of_occupant? ho, ← hkernel]
  rcases t.enter cpu (t.kernel.trap cpu (callFrame f c)) with ⟨_ | now, t'⟩
  · rfl
  · dsimp only
    split
    · split <;> rfl
    · rfl

/-- **A process that runs** on a processor of the bench, with the registers of user code. -/
structure Awake (t : Bench) (cpu : Nat) (id : ProcessId) (f : TrapFrame) : Prop where
  occupant : t.occupant? cpu = some ⟨id, f⟩
  runs : t.kernel.RunsOn cpu id f
  user : f.isUser = true

namespace Awake

lemma calls (h : t.Awake cpu id f) (hc : Syscall.decode c.encode = .ok c) :
    t.kernel.Calls id (callFrame f c) c := by
  obtain ⟨p, hp, -⟩ := h.runs
  exact ⟨h.user, by rw [hp]; rfl, rfl, hc⟩

/-- **A call that leaves the process table alone** is carried out and answered at once. -/
lemma call_returned (h : t.Awake cpu id f) (hk : t.kernel.Sound)
    (hc : Syscall.decode c.encode = .ok c)
    (htable : LeavesTable cpu id c) :
    ∃ k₁ result k₂ t' f', t.kernel.Answered cpu id (callFrame f c) c k₁ result k₂ ∧
      t.call cpu c = (.returned (encodeResult result), t') ∧
      t'.kernel = (t.kernel.trap cpu (callFrame f c)).2 ∧ t'.Awake cpu id f' := by
  obtain ⟨k₁, result, k₂, hans⟩ := answered hk (h.runs.current? hk) (h.calls hc)
    htable.answers
  obtain ⟨p, hp, hrun, hres, -⟩ := h.runs
  have hsame : k₂.table = k₁.table := by
    obtain ⟨result', k', hexec, hsame⟩ := htable k₁
    rw [hans.executed] at hexec
    cases hexec
    exact hsame
  have hp₂ : k₂.live? id = some { p with frame := callFrame f c } := by
    rw [live?, hsame]
    exact hans.saved.live? hp
  have hresumed := hans.resumed _ hp₂ hrun
  obtain ⟨hnow, hocc⟩ := occupant?_enter_user (lt_size_of_occupant? h.occupant) hresumed
  refine ⟨k₁, result, k₂, _, _, hans, ?_, kernel_enter, hocc, ?_, h.user⟩
  · rw [call_of_occupant? h.occupant, ← Prod.eta (t.enter cpu _), hnow]
    dsimp only
    rw [if_pos rfl, frame?, hocc]
    have hanswer : (encodeResult result).toUInt32.toInt32 = encodeResult result :=
      Int32.toInt32_toUInt32 _
    simp only [Option.map_some, TrapFrame.withResult, hanswer]
  · rw [kernel_enter]
    exact (trap_tells hk).user _ _ hresumed

/-- **A process that destroys itself** is gone with its address space, and other memory stays as it
is. -/
lemma destroySelf (h : t.Awake cpu id f) (hk : t.kernel.Sound) :
    (t.call cpu (.destroy .self)).2.kernel.spaceOf? id = none ∧
      (∃ s, t.kernel.spaceOf? id = some s ∧
        (t.call cpu (.destroy .self)).2.kernel.machine.space? s = none) ∧
      t.kernel.Drifts (t.call cpu (.destroy .self)).2.kernel := by
  obtain ⟨p, hp, -⟩ := h.runs
  obtain ⟨s, hs⟩ := spaceOf?_of_live? hk hp
  have hcur := h.runs.current? hk
  rw [kernel_call h.occupant]
  exact ⟨destroySelf_gone hk hcur (h.calls rfl),
    ⟨s, hs, destroySelf_vacates hk hcur (h.calls rfl) hs⟩, call_drifts hk rfl rfl destroy_calm⟩

end Awake

/-- A call that stops the processor. -/
lemma call_halted (ho : t.occupant? cpu = some ⟨id, f⟩)
    (h : t.kernel.current? cpu = none ∨ f.isUser = false) (c : Syscall) :
    ∃ panic t', t.call cpu c = (.halted panic, t') ∧ t.kernel.Quiet t'.kernel ∧
      t'.occupant? cpu = none := by
  obtain ⟨k₁, panic, hk₁, heq⟩ := trap_halted (f := callFrame f c) Bool.false_ne_true h
  refine ⟨panic, { t with kernel := k₁ }.setOccupant cpu none, ?_, hk₁, ?_⟩
  · rw [call_of_occupant? ho, heq]
    rfl
  · rw [occupant?_setOccupant, if_pos ⟨rfl, lt_size_of_occupant? ho⟩]

/-! ### Waiting -/

/-- A bench on which process `id` waits to run again on a processor, with registers `F`, while
memory is as in kernel `k`. -/
structure Waits (k : Kernel) (t : Bench) (cpu : Nat) (id : ProcessId) (F : TrapFrame) : Prop where
  sound : t.kernel.Sound
  drifts : k.Drifts t.kernel
  frame : ∀ p, t.kernel.live? id = some p → p.frame = F
  runs : ∀ o, t.occupant? cpu = some o → t.kernel.RunsOn cpu o.id o.frame
  idle : t.occupant? cpu = none → t.kernel.current? cpu ≠ some id
  size : cpu < t.occupants.size

namespace Waits

variable {k : Kernel} {F : TrapFrame}

lemma enter {r : Resume × Kernel} (hsound : r.2.Sound) (hdrifts : k.Drifts r.2)
    (hframe : ∀ p, r.2.live? id = some p → p.frame = F) (htells : Tells cpu r)
    (hstops : (∀ id' f', r.1 ≠ .user id' f') → r.2.current? cpu ≠ some id)
    (hsize : cpu < t.occupants.size) : Waits k (t.enter cpu r).2 cpu id F := by
  refine ⟨?_, ?_, ?_, fun o ho => ?_, fun hnone => ?_, ?_⟩
  · rwa [kernel_enter]
  · rwa [kernel_enter]
  · rwa [kernel_enter]
  · rw [kernel_enter]
    exact htells.user o.id o.frame (occupant?_enter_self ho)
  · rw [kernel_enter]
    refine hstops fun id' f' hr => ?_
    rw [(occupant?_enter_user hsize hr).2] at hnone
    cases hnone
  · rwa [size_enter]

/-- **A timer that fires** while the process does not run. -/
lemma timer (h : Waits k t cpu id F) (hne : t.current? cpu ≠ some id) :
    Waits k (t.timer cpu).2 cpu id F := by
  have hcur : t.kernel.current? cpu ≠ some id := by
    cases ho : t.occupant? cpu with
    | none => exact h.idle ho
    | some o =>
      rw [(h.runs o ho).current? h.sound]
      rwa [current?, ho] at hne
  have htimer : ∀ f : TrapFrame, TrapCause.ofNumber f.trapno = .timer →
      Waits k (t.enter cpu (t.kernel.trap cpu f)).2 cpu id F := fun f hcause => by
    have hcalm : t.kernel.Drifts (t.kernel.trap cpu f).2 :=
      trap_drifts h.sound fun other _ d hd => by
        cases hd with
        | own hd => exact hd.calm
        | call huser hlive hsys =>
          rw [hcause] at hsys
          cases hsys
        | fault hpf =>
          rw [hcause] at hpf
          cases hpf
    refine enter ((trap_moves h.sound).sound h.sound) (h.drifts.trans hcalm) (fun p hp => ?_)
      (trap_tells h.sound) (fun hnone => ?_) h.size
    · obtain ⟨q, hq, hsame⟩ := trap_frame h.sound hcur hcause hp
      exact hsame.trans (h.frame q hq)
    · rcases trap_stops h.sound hnone with hsame | hnone
      · rwa [hsame]
      · rw [hnone]
        nofun
  rw [Bench.timer, snd_enterNext]
  refine htimer _ ?_
  cases t.frame? cpu <;> rfl

lemma runWithin (h : Waits k t cpu id F) (n : Nat) :
    Waits k (Bench.runWithin cpu id n t).2 cpu id F ∧
      ((Bench.runWithin cpu id n t).1 = true →
        (Bench.runWithin cpu id n t).2.current? cpu = some id) := by
  induction n generalizing t with
  | zero => exact ⟨h, of_decide_eq_true⟩
  | succ n ih =>
    rw [Bench.runWithin]
    split
    · next hrun => exact ⟨h, fun _ => hrun⟩
    · next hnot => exact ih (h.timer hnot)

end Waits

end Bench

namespace UserContext

open Kernel Bench

variable {u u' : UserContext} {k : Kernel} {c : Syscall} {f F : TrapFrame} {answer : Int32}
  {v : UInt32}

/-- **A caller that waits** is told that it is gone, or runs again, and the answer is in its
registers. -/
lemma trap_waited {step : Step} {t : Bench} (hcall : u.bed.call u.cpu c = (step, t))
    (hreturned : ∀ a, step ≠ .returned a) (hwaits : Waits k t u.cpu u.process F)
    (h : u.trap c = (answer, u')) : answer = goneAnswer ∨
    ∃ f', Waits k u'.bed u.cpu u.process F ∧ u'.bed.occupant? u.cpu = some ⟨u.process, f'⟩ ∧
      answer = f'.regs.eax.toInt32 ∧ u'.cpu = u.cpu ∧ u'.process = u.process := by
  rw [trap, hcall] at h
  cases step with
  | returned a => exact absurd rfl (hreturned a)
  | halted panic =>
    cases h
    exact .inl rfl
  | switched now =>
    obtain ⟨hend, hfound⟩ := hwaits.runWithin (t.kernel.config.maxProcesses + 1)
    dsimp only at h
    rw [runUntil] at h
    rcases hrun : runWithin u.cpu u.process (t.kernel.config.maxProcesses + 1) t with ⟨found, t'⟩
    rw [hrun] at h hend hfound
    cases found with
    | false =>
      cases h
      exact .inl rfl
    | true =>
      have hcurrent := hfound rfl
      simp only [Bench.current?, Option.map_eq_some_iff] at hcurrent
      obtain ⟨o, ho', hid⟩ := hcurrent
      obtain ⟨id, f'⟩ := o
      obtain rfl : id = u.process := hid
      dsimp only at h ho'
      rw [frame?, ho', Option.map_some] at h
      cases h
      exact .inr ⟨f', hend, ho', rfl, rfl, rfl⟩

/-- **A caller that is not told that it is gone** runs again, and the answer is in its registers. -/
lemma trap_back (ho : u.bed.occupant? u.cpu = some ⟨u.process, f⟩)
    (hwaits : Waits k (u.bed.enter u.cpu (u.bed.kernel.trap u.cpu (callFrame f c))).2 u.cpu
      u.process F)
    (h : u.trap c = (answer, u')) : answer = goneAnswer ∨
    ∃ f', Waits k u'.bed u.cpu u.process F ∧ u'.bed.occupant? u.cpu = some ⟨u.process, f'⟩ ∧
      answer = f'.regs.eax.toInt32 ∧ u'.cpu = u.cpu ∧ u'.process = u.process := by
  have hcall := call_of_occupant? ho c
  rcases henter : u.bed.enter u.cpu (u.bed.kernel.trap u.cpu (callFrame f c)) with ⟨_ | now, t₁⟩
  · rw [henter] at hcall hwaits
    exact trap_waited hcall (by rintro _ ⟨⟩) hwaits h
  · rw [henter] at hcall hwaits
    dsimp only at hcall hwaits
    by_cases hnow : now = some u.process
    · rw [if_pos hnow] at hcall
      cases hframe : t₁.frame? u.cpu with
      | none =>
        rw [hframe] at hcall
        exact trap_waited hcall (by rintro _ ⟨⟩) hwaits h
      | some f' =>
        rw [hframe] at hcall
        rw [trap, hcall] at h
        cases h
        subst hnow
        obtain ⟨f₁, hocc⟩ := occupant?_of_enter (lt_size_of_occupant? ho) henter
        rw [frame?, hocc] at hframe
        cases hframe
        exact .inr ⟨_, hwaits, hocc, rfl, rfl, rfl⟩
    · rw [if_neg hnow] at hcall
      exact trap_waited hcall (by rintro _ ⟨⟩) hwaits h

/-- A processor that has a process bound, and stops, claims it no longer. -/
lemma trap_leaves (hk : u.bed.kernel.Sound)
    (hcur : u.bed.kernel.current? u.cpu = some u.process) (huser : f.isUser)
    (hnone : ∀ id' f', (u.bed.kernel.trap u.cpu (callFrame f c)).1 ≠ .user id' f') :
    (u.bed.kernel.trap u.cpu (callFrame f c)).2.current? u.cpu ≠ some u.process := by
  rw [trap_user_stops (f := callFrame f c) hk hcur huser hnone]
  nofun

/-- **Who is gone is told so**, whatever it asks for. -/
lemma trap_gone (hk : u.bed.kernel.Sound) (hcur : u.bed.kernel.current? u.cpu = some u.process)
    (ho : u.bed.occupant? u.cpu = some ⟨u.process, f⟩) (huser : f.isUser)
    (hp : u.bed.kernel.live? u.process = none) (c : Syscall) : (u.trap c).1 = goneAnswer := by
  have hsound : (u.bed.kernel.trap u.cpu (callFrame f c)).2.Sound := (trap_moves hk).sound hk
  have hdrifts := call_gone (f := callFrame f c) hk rfl hcur hp
  -- who is gone does not come back
  have hnever : ∀ {k : Kernel}, u.bed.kernel.Drifts k → k.Sound → k.live? u.process = none :=
    fun {k} hk' hs => by
      cases hq : k.live? u.process with
      | none => rfl
      | some q =>
        obtain ⟨s, hspace⟩ := spaceOf?_of_live? hs hq
        have hbefore := hk'.living _ s hspace
        rw [spaceOf?, hp] at hbefore
        cases hbefore
  refine (trap_back ho (Waits.enter (F := f) hsound hdrifts
    (fun q hq => by rw [hnever hdrifts hsound] at hq; cases hq) (trap_tells hk)
    (trap_leaves hk hcur huser) (lt_size_of_occupant? ho)) rfl).resolve_right ?_
  rintro ⟨f', hwaits, hocc, -⟩
  obtain ⟨q, hq, -⟩ := hwaits.runs _ hocc
  rw [hnever hwaits.drifts hwaits.sound] at hq
  cases hq

/-- **A call that is answered with a success** was carried out. -/
lemma trap_ok (hk : u.bed.kernel.Sound)
    (hsync : u.bed.kernel.current? u.cpu = some u.process ∨ u.bed.kernel.current? u.cpu = none)
    (ho : u.bed.occupant? u.cpu = some ⟨u.process, f⟩)
    (hc : Syscall.decode c.encode = .ok c) (hanswers : Answers u.cpu u.process c)
    (h : u.trap c = (answer, u')) (hok : decodeResult answer = .ok v) :
    ∃ k₁ k₂ f', u.bed.kernel.Saved u.process (callFrame f c) k₁ ∧ k₁.Sound ∧
      (k₁.live? u.process).isSome ∧
      k₁.execute u.cpu u.process c = (.answer (.ok v), k₂) ∧ k₂.Drifts u'.bed.kernel ∧
      u'.cpu = u.cpu ∧ u'.process = u.process ∧ u'.bed.Awake u.cpu u.process f' := by
  by_cases hhalts : u.bed.kernel.current? u.cpu = none ∨ f.isUser = false
  · obtain ⟨panic, t', hcall, -⟩ := call_halted ho hhalts c
    rw [trap, hcall] at h
    cases h
    cases hok
  rw [not_or, Bool.not_eq_false] at hhalts
  obtain ⟨hclaim, huser⟩ := hhalts
  have hcur := hsync.resolve_right hclaim
  have hsound : (u.bed.kernel.trap u.cpu (callFrame f c)).2.Sound := (trap_moves hk).sound hk
  cases hp : u.bed.kernel.live? u.process with
  | none =>
    have hgone := trap_gone hk hcur ho huser hp c
    rw [h] at hgone
    obtain rfl : answer = goneAnswer := hgone
    cases hok
  | some p =>
    have hcalls : u.bed.kernel.Calls u.process (callFrame f c) c :=
      ⟨huser, by rw [hp]; rfl, rfl, hc⟩
    obtain ⟨k₁, result, k₂, hans⟩ := answered hk hcur hcalls hanswers
    obtain ⟨p', hp', hframe⟩ := hans.told
    obtain ⟨f', hwaits, hocc, hanswer, hcpu, hprocess⟩ := (trap_back ho (Waits.enter hsound
      hans.drifts (fun q hq => by rw [hp'] at hq; cases hq; exact hframe) (trap_tells hk)
      (trap_leaves hk hcur huser) (lt_size_of_occupant? ho)) h).resolve_left
        (by rintro rfl; cases hok)
    have hruns := hwaits.runs _ hocc
    obtain ⟨q, hq, -, -, hqframe⟩ := hruns
    have hsame : f' = (callFrame f c).withResult (encodeResult result).toUInt32 :=
      hqframe.symm.trans (hwaits.frame q hq)
    have hresult : answer = encodeResult result := by
      rw [hanswer, hsame]
      exact Int32.toInt32_toUInt32 _
    rw [hresult] at hok
    refine ⟨k₁, k₂, f', hans.saved, hans.sound, ?_, ?_, hwaits.drifts, hcpu, hprocess, hocc,
      hwaits.runs _ hocc, ?_⟩
    · rw [hans.saved.live? hp]
      rfl
    · rw [hans.executed, ok_of_decodeResult hok]
    · rw [hsame]
      exact huser

end UserContext

end Exokernel
