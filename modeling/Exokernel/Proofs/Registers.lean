/-
The registers of a process while it does not run.

* `Kernel.resumption?`: the registers with which a process goes on after a trap that it took;
* `handle_resumption`, `trap_resumption`: **a trap leaves these registers behind** with the process;
* `Operation.Reframes`: the one call that replaces the registers of a process;
* `switch_transparent`: **a process goes on with these registers** when it runs next, whatever
  happened in between.
-/
import Exokernel.Proofs.Kernel.Entries
import Exokernel.Proofs.Pauses

namespace Exokernel

namespace Kernel

variable {k k' : Kernel} {id s t target : ProcessId} {p p' p₁ q : Process} {cpu : Nat}
  {f : TrapFrame} {c : Syscall}

/-! ### What a process goes on with -/

/-- The registers with which process `t` is told of a page fault that it took with registers `f`, if
it has a handler: it goes on there, on its exception stack. -/
def redirected? (k : Kernel) (t : ProcessId) (f : TrapFrame) : Option TrapFrame :=
  match (k.live? t).bind (·.faultHandler), UpcallPlan.ofStackPointer f.esp with
  | some entry, .ok plan => some { f with eip := entry.word, esp := plan.frameVa.word }
  | _, _ => none

/-- The registers with which process `t` goes on after a trap that it took with registers `f`, if it
goes on: the same after an interrupt and a yield, with the answer after any other call, with zero
after it waited for a message, and at its handler after a page fault. -/
def resumption? (k : Kernel) (cpu : Nat) (t : ProcessId) (f : TrapFrame) : Option TrapFrame :=
  match TrapCause.ofNumber f.trapno with
  | .pageFault => k.redirected? t f
  | .syscall =>
    match (k.performed cpu t f).1, Syscall.decode f.call with
    | .answer result, _ => some (f.withResult (encodeResult result).toUInt32)
    | .giveUp, .ok .yield => some f
    | .giveUp, .ok (.receive _) => some (f.withResult 0)
    | _, _ => none
  | .unexpected _ => none
  | .timer | .reschedule | .spurious | .controllerError | .device _ => some f

/-- By the call that it makes in a trap with registers `f`, process `s` replaces the registers of
process `t`. -/
inductive Reframes (k : Kernel) (s t : ProcessId) (f : TrapFrame) : Prop where
  | mk {target : ProcessId} {va : VirtAddr} {k' : Kernel}
      (hcalls : k.Calls s f (.setFrame target va)) (ht : k.resolve s target true = .ok t)
      (hset : k.setFrame s target va = .ok k')

lemma setFrame_eq {va : VirtAddr} {bytes : List UInt8} (hp : k.live? t = some p)
    (ht : k.resolve s target true = .ok t) (hread : k.readCaller s va TrapFrame.size = .ok bytes) :
    k.setFrame s target va =
      .ok (k.modify t fun p => { p with frame := (TrapFrame.ofBytes bytes).forUser }) := by
  rw [setFrame, ht]
  dsimp only
  rw [hread]
  dsimp only
  rw [hp]

lemma Reframes.of_readCaller {va : VirtAddr} {bytes : List UInt8} (hp : k.live? t = some p)
    (hcalls : k.Calls s f (.setFrame target va)) (ht : k.resolve s target true = .ok t)
    (hread : k.readCaller s va TrapFrame.size = .ok bytes) : k.Reframes s t f :=
  .mk hcalls ht (setFrame_eq hp ht hread)

/-! ### Page faults -/

/-- A process that is told of a page fault goes on at its handler. -/
lemma reflectFault_ok {faultVa frameVa : VirtAddr} (hp : k.live? id = some p)
    (h : k.reflectFault id f faultVa = (.ok frameVa, k')) : ∃ entry plan,
      p.faultHandler = some entry ∧ UpcallPlan.ofStackPointer f.esp = .ok plan ∧
      k'.live? id =
        some { p with frame := { p.frame with eip := entry.word, esp := plan.frameVa.word } } := by
  rw [reflectFault, hp] at h
  dsimp only at h
  split at h
  · cases h
  · cases h
  · next entry s hhandler hs =>
    split at h
    · cases h
    · next plan hplan =>
      split at h
      · cases h
      · next machine hwrite =>
        cases h
        exact ⟨entry, plan, hhandler, (planUpcall_ok hplan).1,
          live?_modify (k := { k with machine }) hp rfl (live?_eq_some_iff.1 hp).2.2⟩

/-- Whoever is destroyed after something was told, is gone. -/
lemma destroyOn_quiet_gone (hk : k.Sound) (h : k.Quiet k') :
    (k'.destroyOn cpu t).2.live? t = none :=
  destroyOn_gone (h.sound hk) cpu t

lemma pageFault_resumption (hk : k.Sound) (hp : k.live? t = some p)
    (hq : (k.pageFault cpu t f).2.live? t = some q) (hframe : p.frame = f) :
    k.redirected? t f = some q.frame := by
  have hmoves : Moves anyDeed k (k.reflectFault t f (k.machine.faultAddress cpu)).2 :=
    reflectFault_moves _ trivial fun _ _ => trivial
  rw [pageFault] at hq
  dsimp only at hq
  split at hq
  · next frameVa k₁ hreflect =>
    obtain ⟨entry, plan, hhandler, hplan, hlive⟩ := reflectFault_ok hp hreflect
    rw [(quiet_log _ _).live?, hlive, Option.some.injEq] at hq
    rw [redirected?, hp, Option.bind_some, hhandler, hplan, ← hq, hframe]
  · next e k₁ hreflect =>
    rw [hreflect] at hmoves
    have hgone := hq.symm.trans
      (destroyOn_quiet_gone (hmoves.sound hk) ((quiet_log _ _).trans (quiet_audit _ _)))
    cases hgone

/-! ### System calls -/

/-- **A call that is answered** leaves the caller with its registers, on its processor, unless it
replaces them. -/
lemma answer_frame {result : Except KernelError UInt32} (hk : k.Sound) (hp : k.live? t = some p)
    (hres : p.resident = some cpu) (hq : (k.execute cpu t c).2.live? t = some q)
    (hout : (k.execute cpu t c).1 = .answer result)
    (hown : ∀ target va bytes, c = .setFrame target va → k.resolve t target true = .ok t →
      k.readCaller t va TrapFrame.size ≠ .ok bytes) :
    q.frame = p.frame ∧ q.resident = some cpu := by
  cases execute_affects hk hp hres hp hq with
  | spared => exact ⟨rfl, hres⟩
  | setStatus hs ht =>
    rw [withStatus]
    split
    · exact ⟨rfl, hres⟩
    · split <;> exact ⟨rfl, hres⟩
  | setFrame ht hread => exact absurd hread (hown _ _ _ rfl ht)
  | setFaultHandler ht => exact ⟨rfl, hres⟩
  | told ht hv hopen => exact ⟨rfl, hres⟩
  | yield hself => cases hout
  | @receive dstVa hself hva =>
    rw [execute] at hout hq
    cases hrec : k.receive cpu t dstVa with
    | ok k₁ =>
      rw [hrec] at hout
      cases hout
    | error e =>
      rw [hrec] at hq
      rw [hp, Option.some.injEq] at hq
      rw [hq] at hres
      cases hres

lemma acknowledge_ne_giveUp (r : Except KernelError Kernel) : (k.acknowledge r).1 ≠ .giveUp := by
  cases r <;> nofun

lemma acknowledgeBuffer_ne_giveUp (r : Except BufferError Kernel) :
    (k.acknowledgeBuffer r).1 ≠ .giveUp := by
  cases r with
  | ok k₁ => nofun
  | error e => cases e <;> nofun

/-- **A call by which the caller gives up its processor** and lives on is a yield, or the caller
waits for a message. -/
lemma giveUp_frame (hk : k.Sound) (hp : k.live? t = some p) (hres : p.resident = some cpu)
    (hq : (k.execute cpu t c).2.live? t = some q) (hout : (k.execute cpu t c).1 = .giveUp) :
    c = .yield ∧ q.frame = p.frame ∨
      ∃ dstVa, c = .receive dstVa ∧ q.frame = p.frame.withResult 0 := by
  cases c with
  | putString va len => exact absurd hout (acknowledgeBuffer_ne_giveUp _)
  | setFrame target va => exact absurd hout (acknowledgeBuffer_ne_giveUp _)
  | setStatus target status => exact absurd hout (acknowledge_ne_giveUp _)
  | setFaultHandler target entry => exact absurd hout (acknowledge_ne_giveUp _)
  | pageUnmap target va => exact absurd hout (acknowledge_ne_giveUp _)
  | getId | time | pageAlloc | pageMap | trySend => cases hout
  | exofork =>
    rw [execute] at hout
    cases hfork : k.exofork t <;> rw [hfork] at hout <;> cases hout
  | destroy target =>
    -- a processor that is given up claims nothing, but the caller would still be bound to it
    obtain ⟨hmoves, hreleased⟩ := execute_moves (c := .destroy target) hk hp hres
    have hnone := hreleased hout
    obtain rfl := exit_affects hk hp hp hq
    rw [((hmoves.sound hk).current?_iff hq).2 hres] at hnone
    cases hnone
  | yield =>
    refine .inl ⟨rfl, ?_⟩
    change (k.yield cpu t).live? t = some q at hq
    rw [live?_yield hp hres, Option.some.injEq] at hq
    rw [← hq]
    split <;> rfl
  | receive dstVa =>
    rw [execute] at hout hq
    cases hrec : k.receive cpu t dstVa with
    | error e =>
      rw [hrec] at hout
      cases hout
    | ok k₁ =>
      rw [hrec] at hq
      rw [(live?_receive hp hres hrec).2, Option.some.injEq] at hq
      exact .inr ⟨dstVa, rfl, by rw [← hq]⟩

/-- Once a call is carried out, and before it is answered, the caller has the registers that it
trapped with, on its processor. -/
lemma performed_frame {result : Except KernelError UInt32} (hk : k.Sound)
    (hp : k.live? t = some p) (hres : p.resident = some cpu)
    (hq : (k.performed cpu t f).2.live? t = some q)
    (hout : (k.performed cpu t f).1 = .answer result) (huser : f.isUser)
    (hcause : TrapCause.ofNumber f.trapno = .syscall) (hown : ¬ k.Reframes t t f) :
    q.frame = f ∧ q.resident = some cpu := by
  cases hc : Syscall.decode f.call with
  | error e =>
    obtain ⟨k₁, hsaved, heq⟩ := performed_error k t cpu hc
    rw [heq] at hq
    rw [hsaved.live? hp, Option.some.injEq] at hq
    rw [← hq]
    exact ⟨rfl, hres⟩
  | ok c =>
    obtain ⟨k₁, hsaved, heq⟩ := performed_ok k t cpu hc
    have hk₁ := hsaved.sound hk hp
    rw [heq] at hq hout
    refine answer_frame hk₁ (hsaved.live? hp) hres hq hout fun target va bytes hset ht hread => ?_
    exact hown (.of_readCaller hp ⟨huser, by rw [hp]; rfl, hcause, hset ▸ hc⟩
      (hsaved.resolve .. ▸ ht) (hsaved.readCaller .. ▸ hread))

/-- **A system call leaves behind** the registers with which the caller goes on. -/
lemma systemCall_resumption (hk : k.Sound) (hp : k.live? t = some p) (hres : p.resident = some cpu)
    (huser : f.isUser) (hcause : TrapCause.ofNumber f.trapno = .syscall)
    (hown : ¬ k.Reframes t t f)
    (hq : ((k.entered cpu t f).handle cpu t f).2.live? t = some q) :
    k.resumption? cpu t f = some q.frame := by
  obtain ⟨request, hhandle⟩ := handle_performed cpu hp hcause
  rw [hhandle] at hq
  rw [resumption?, hcause]
  dsimp only
  cases hout : (k.performed cpu t f).1 with
  | answer result =>
    rw [hout] at hq
    change (((k.performed cpu t f).2.setAnswer cpu t (encodeResult result)).audit t
      (.response request (some (encodeResult result)))).live? t = some q at hq
    rw [(quiet_audit _ _).live?] at hq
    cases hafter : (k.performed cpu t f).2.live? t with
    | none =>
      rw [setAnswer, hafter] at hq
      rw [hafter] at hq
      cases hq
    | some p₁ =>
      obtain ⟨hframe, hres₁⟩ := performed_frame hk hp hres hafter hout huser hcause hown
      rw [live?_setAnswer _ hafter hres₁, Option.some.injEq] at hq
      rw [← hq, hframe]
  | giveUp =>
    rw [hout] at hq
    change ((k.performed cpu t f).2.audit t (.response request none)).live? t = some q at hq
    rw [(quiet_audit _ _).live?] at hq
    cases hc : Syscall.decode f.call with
    | error e =>
      obtain ⟨k₁, -, heq⟩ := performed_error k t cpu hc
      rw [heq] at hout
      cases hout
    | ok c =>
      obtain ⟨k₁, hsaved, heq⟩ := performed_ok k t cpu hc
      have hk₁ := hsaved.sound hk hp
      rw [heq] at hq hout
      rcases giveUp_frame hk₁ (hsaved.live? hp) hres hq hout with
        ⟨rfl, hframe⟩ | ⟨dstVa, rfl, hframe⟩
      · rw [hframe]
      · rw [hframe]
  | badBuffer va =>
    rw [hout] at hq
    have hgone := hq.symm.trans (destroyOn_quiet_gone (performed_sound hk hp hres)
      (((quiet_log _ _).trans (quiet_audit _ _)).trans (quiet_audit _ _)))
    cases hgone

/-! ### Any trap -/

/-- A processor that takes itself from a process leaves the registers alone. -/
lemma preempt_frame (hp : k.live? t = some p) (hres : p.resident = some cpu)
    (hq : (k.preempt cpu t).live? t = some q) : q.frame = p.frame := by
  have hpause := edit_paused (live?_eq_some_iff.1 hp).2.2 (p.resident = some cpu)
  have hpaused := live?_unbind (live?_modify (f := fun p => if p.status = .running ∧
    p.resident = some cpu then { p with status := .runnable } else p) hp hpause.id hpause.live)
    (hpause.resident.trans hres)
  rw [preempt, hp] at hq
  dsimp only at hq
  rw [hpaused, Option.some.injEq] at hq
  rw [← hq]
  dsimp only
  split <;> rfl

/-- **A trap that was handled leaves behind** the registers with which the process goes on. -/
lemma handle_resumption (hk : k.Sound) (hp : k.live? t = some p) (hres : p.resident = some cpu)
    (huser : f.isUser) (hown : ¬ k.Reframes t t f)
    (hq : ((k.entered cpu t f).handle cpu t f).2.live? t = some q) :
    k.resumption? cpu t f = some q.frame := by
  have hsaved := k.entered_saved cpu t f
  have hp₀ := hsaved.live? hp
  have hk₀ := hsaved.sound hk hp
  -- an interrupt that leaves the processor with the process
  have hstays : ∀ cause, ((k.entered cpu t f).acknowledgeInterrupt cpu cause).live? t = some q →
      some f = some q.frame := fun cause hq => by
    rw [(quiet_acknowledgeInterrupt cause).live?, hp₀, Option.some.injEq] at hq
    rw [← hq]
  cases hcause : TrapCause.ofNumber f.trapno with
  | syscall =>
    exact systemCall_resumption hk hp hres huser hcause hown hq
  | pageFault =>
    rw [handle, hcause] at hq
    have hredirected := pageFault_resumption hk₀ hp₀ hq rfl
    rw [redirected?, hp₀] at hredirected
    rw [resumption?, hcause]
    dsimp only
    rw [redirected?, hp]
    exact hredirected
  | timer =>
    rw [handle, hcause] at hq
    rw [resumption?, hcause]
    have hack : (k.entered cpu t f).Quiet ((k.entered cpu t f).acknowledgeInterrupt cpu .timer) :=
      quiet_acknowledgeInterrupt .timer
    exact congrArg some (preempt_frame ((hack.live? t).trans hp₀) hres hq).symm
  | unexpected trapno =>
    rw [handle, hcause] at hq
    have hgone := hq.symm.trans (destroyOn_quiet_gone hk₀ ((quiet_log _ _).trans (quiet_audit _ _)))
    cases hgone
  | reschedule | spurious | controllerError | device =>
    rw [handle, hcause] at hq
    rw [resumption?, hcause]
    exact hstays _ hq

/-- **When a trap was handled**, the kernel is sound, and the processor still claims the process
that took it, or nothing. -/
lemma handle_claims (hk : k.Sound) (hp : k.live? t = some p) (hres : p.resident = some cpu)
    (huser : f.isUser) : ((k.entered cpu t f).handle cpu t f).2.Sound ∧
      (((k.entered cpu t f).handle cpu t f).2.current? cpu = some t ∨
        ((k.entered cpu t f).handle cpu t f).2.current? cpu = none) ∧
      Leaves cpu ((k.entered cpu t f).handle cpu t f) := by
  have hsaved := k.entered_saved cpu t f
  have hp₀ := hsaved.live? hp
  have hk₀ := hsaved.sound hk hp
  obtain ⟨hmoves, hleaves⟩ := handle_moves hk₀ hsaved huser (by rw [hp]; rfl) hp₀ rfl hres
  have hcur₀ := (hk₀.current?_iff hp₀).2 hres
  exact ⟨hmoves.sound hk₀, hcur₀ ▸ hmoves.current TrapDeed.not_bind cpu, hleaves⟩

/-- A processor that goes on, or not, leaves the registers of its process alone. -/
lemma leave_frame {flow : Flow} (hk : k.Sound)
    (hcur : k.current? cpu = some t ∨ k.current? cpu = none) (hleaves : Leaves cpu (flow, k))
    (hp' : (k.leave cpu t flow).2.live? t = some p') :
    ∃ q, k.live? t = some q ∧ p'.frame = q.frame := by
  -- a processor that does not stay with the process
  have hswitch : (k.current? cpu = some t → k.live? t = none) →
      ((k.clearStale cpu t).schedule cpu).2.live? t = some p' →
      ∃ q, k.live? t = some q ∧ p'.frame = q.frame := fun hgone hp' => by
    have hclear : Moves (Deed.Passes t) k (k.clearStale cpu t) :=
      clearStale_moves hk hgone trivial trivial
    have hall := hclear.trans (schedule_moves (current?_clearStale hcur) trivial fun _ => trivial)
    exact hall.frame (fun _ hd => hd) p' hp'
  cases flow with
  | switch =>
    refine hswitch (fun hsome => ?_) hp'
    rw [hleaves rfl] at hsome
    cases hsome
  | stay =>
    cases hp : k.live? t with
    | none =>
      rw [leave, hp] at hp'
      rw [hp] at hswitch
      exact hswitch (fun _ => rfl) hp'
    | some p =>
      obtain ⟨k₁, p₁, -, hgoes, hp₁, hframe⟩ :=
        leave_stay_cases (A := anyDeed) hk (fun _ _ => trivial) hp hcur
      obtain ⟨q, hq, hsame⟩ := hgoes.live? hp₁
      rw [hp', Option.some.injEq] at hq
      exact ⟨p, rfl, by rw [hq, hsame, hframe]⟩

/-- **A trap leaves behind** the registers with which the process goes on, whether it goes on at
once or not. -/
lemma trap_resumption (hk : k.Sound) (hcur : k.current? cpu = some t) (hp : k.live? t = some p)
    (huser : f.isUser) (hown : ¬ k.Reframes t t f)
    (hp' : (k.trap cpu f).2.live? t = some p') : k.resumption? cpu t f = some p'.frame := by
  have hres := (hk.current?_iff hp).1 hcur
  obtain ⟨hk₁, hcur₁, hleaves⟩ := handle_claims hk hp hres huser
  rw [trap_entered hcur hp hres huser] at hp'
  obtain ⟨q, hq, hframe⟩ := leave_frame hk₁ hcur₁ hleaves hp'
  rw [hframe]
  exact handle_resumption hk hp hres huser hown hq

/-- Who is live after his own trap, was live before it. -/
lemma live?_of_trap (hk : k.Sound) (hcur : k.current? cpu = some t) (huser : f.isUser)
    (hp' : (k.trap cpu f).2.live? t = some p') : ∃ p, k.live? t = some p := by
  cases hp : k.live? t with
  | some p => exact ⟨p, rfl⟩
  | none =>
    obtain ⟨k₁, hmoves, hgoes⟩ := trap_user_cases (f := f) hk hcur huser
    have hmake : ∀ caller number, ¬ k.TrapDeed t f (.make caller number) := fun _ _ hd => by
      cases hd with
      | own hd => cases hd
      | call huser hlive =>
        rw [hp] at hlive
        cases hlive
    have hgone := hgoes.moves.gone (hmoves.sound hk) (by rintro _ _ ⟨⟩) (hmoves.gone hk hmake hp)
    rw [hp'] at hgone
    cases hgone

/-- A process that does not go on at once is bound nowhere after its trap. -/
lemma trap_unbound (hk : k.Sound) (hcur : k.current? cpu = some t) (hp : k.live? t = some p)
    (huser : f.isUser) (hnot : ∀ g, (k.trap cpu f).1 ≠ .user t g)
    (hp' : (k.trap cpu f).2.live? t = some p') : p'.resident = none := by
  have hres := (hk.current?_iff hp).1 hcur
  obtain ⟨k₁, hmoves, hgoes⟩ := trap_user_cases (f := f) hk hcur huser
  have hk₁ := hmoves.sound hk
  have honly := hmoves.onlyOn hk TrapDeed.not_bind (onlyOn_of_live? hp hres)
  cases hgoes with
  | resume hq hrun hbound heq => exact absurd (congrArg Prod.fst heq) (hnot _)
  | schedule hnone heq =>
    rw [heq] at hp' hnot
    have hdispatch : Moves (Deed.Passes t) k₁ (k₁.schedule cpu).2 :=
      schedule_moves hnone trivial fun _ => trivial
    obtain ⟨q, hq, -⟩ := hdispatch.frame (fun _ hd => hd) p' hp'
    obtain ⟨hrec, hid, -⟩ := live?_eq_some_iff.1 hq
    have hidle : q.resident = none := (honly q hrec).resolve_right fun hbound => by
      rw [(hk₁.current?_iff hq).2 hbound] at hnone
      cases hnone
    obtain ⟨⟨q', hq', hgo⟩, -⟩ := schedule_keeps hnone hrec
    rw [(live?_eq_some_iff.1 hp').1] at hq'
    cases hq'
    rcases hgo with rfl | ⟨hresumed, -⟩
    · exact hidle
    · exact absurd (hid ▸ hresumed) (hnot _)

end Kernel

/-! ### Any run -/

namespace Operation

variable {k : Kernel} {op : Operation} {t : ProcessId} {p p₁ : Process}

/-- An operation by which somebody replaces the registers of process `t`. -/
def Reframes (k : Kernel) (t : ProcessId) (op : Operation) : Prop :=
  ∃ cpu s f, op = .trap cpu f ∧ k.current? cpu = some s ∧ k.Reframes s t f

/-- **Nobody changes the registers** of a process that does not run, unless he replaces them. -/
lemma Affects.frame (h : op.Affects k t p p₁) (hp : k.live? t = some p) (hnot : ¬ op.Reframes k t) :
    p₁.frame = p.frame := by
  cases h with
  | spared => rfl
  | @call cpu s f c _ hcur hcalls hne h =>
    cases h with
    | setStatus hs ht =>
      rw [Kernel.withStatus]
      split
      · rfl
      · split <;> rfl
    | setFrame ht hread =>
      exact absurd ⟨cpu, s, f, rfl, hcur, .of_readCaller hp hcalls ht hread⟩ hnot
    | yield hself | receive hself => exact absurd hself.symm hne
    | _ => rfl

end Operation

/-- **A context switch is transparent.** Process `t` takes a trap with registers `f`, and is told to
run again, for the first time since, with registers `g`: at once or after any number of other
operations, on any processor. Nobody has replaced its registers in between. Then `g` are the
registers with which it goes on after the trap, and nothing else has got into them. -/
theorem switch_transparent {config : Config} {frames : Nat} {k : Kernel} {cpu : Nat}
    {t : ProcessId} {f g : TrapFrame} {es : List Transition} (h : Reachable config frames k)
    (hcur : k.current? cpu = some t) (huser : f.isUser)
    (hpause : Pause k (.trap cpu f) t es g) (hframes : ∀ e ∈ es, ¬ e.op.Reframes e.before t) :
    k.resumption? cpu t f = some g := by
  obtain ⟨p', hp'⟩ := Option.isSome_iff_exists.1 (hpause.lives _ (List.mem_of_head? hpause.first))
  obtain ⟨p, hp⟩ := Kernel.live?_of_trap h.sound hcur huser hp'
  have hown : ⟨k, .trap cpu f⟩ ∈ es → ¬ k.Reframes t t f := fun hmem hset =>
    hframes _ hmem ⟨cpu, t, f, rfl, hcur, hset⟩
  -- while the process does not run, its record has the registers with which it goes on
  have hpaused := hpause.induct (P := fun _ k₁ => ∃ p₁, k₁.live? t = some p₁ ∧
      p₁.resident = none ∧ k.resumption? cpu t f = some p₁.frame) h
    (fun _ hinner => ?_) fun es₁ k₁ op₁ hk₁ hlegal hinner => ?_
  · rcases hpaused with ⟨hlegal, hres, hone⟩ | ⟨es₁, k₁, op₁, hes, ⟨p₁, hp₁, hidle, hsame⟩, hk₁,
      hlegal, hres⟩
    · obtain ⟨p', hp', -, hframe⟩ := Operation.told h.sound hlegal hres
      rw [← hframe]
      have hset := hown (hone ▸ List.mem_singleton_self _)
      exact Kernel.trap_resumption h.sound hcur hp huser hset hp'
    · obtain ⟨p', hp', -, hframe⟩ := Operation.told hk₁.sound hlegal hres
      obtain ⟨p₂, haffects, hproceeds⟩ := Operation.affects hk₁.sound hlegal hp₁ hidle hp'
      have hnot := hframes ⟨k₁, op₁⟩ (by rw [hes]; exact List.mem_concat_self)
      rw [hsame, ← hframe, hproceeds.frame, haffects.frame hp₁ hnot]
  · obtain ⟨p', hp'⟩ := hinner.lives
    have hnot : ∀ g, (k.trap cpu f).1 ≠ .user t g := fun g hg =>
      hinner.waits (congrArg Resume.process? hg)
    exact ⟨p', hp', Kernel.trap_unbound h.sound hcur hp huser hnot hp',
      Kernel.trap_resumption h.sound hcur hp huser (hown hinner.mem) hp'⟩
  · rintro ⟨p₁, hp₁, hidle, hsame⟩
    obtain ⟨p', hp'⟩ := hinner.lives
    obtain ⟨p₂, haffects, hproceeds⟩ := Operation.affects hk₁.sound hlegal hp₁ hidle hp'
    refine ⟨p', hp', Operation.unbound hk₁.sound hlegal hp₁ hidle hp' hinner.waits, ?_⟩
    rw [hsame, hproceeds.frame, haffects.frame hp₁ (hframes _ hinner.mem)]

/-- A process waits for a message, and another one sends it and yields. The receiver goes on with
the registers with which it asked, apart from the zero that it is answered. -/
theorem switch_transparent_receive : ∃ (k : Kernel) (f g : TrapFrame) (es : List Transition),
    Reachable { maxProcesses := 2 } 16 k ∧
    Pause k (.trap 0 f) (ProcessId.self.next 1) es g ∧ es.length = 3 ∧
    k.resumption? 0 (ProcessId.self.next 1) f = some g ∧ g = f.withResult 0 ∧ g ≠ f := by
  have hboot : Reachable { maxProcesses := 2 } 16 _ := .boot rfl (.refl _) rfl
  have hrun := ((hboot.step (.spawn ⟨⟨0⟩, []⟩) trivial).step (.spawn ⟨⟨0⟩, []⟩) trivial).step
    (.schedule 0) rfl
  have hbegin : ∀ {k : Kernel}, Reachable { maxProcesses := 2 } 16 k → History k [] k :=
    fun _ => .nil
  let call (c : Syscall) : Operation := .trap 0 (Kernel.callFrame (.initial 7) c)
  have hhist := (((hbegin hrun).snoc (call (.receive none)) trivial).snoc
    (call (.trySend (ProcessId.self.next 1) 5 none .none)) trivial).snoc (call .yield) trivial
  have hpause : Pause _ _ (ProcessId.self.next 1) _
      ((Kernel.callFrame (.initial 7) (.receive none)).withResult 0) :=
    ⟨⟨_, hhist⟩, rfl, by decide +kernel, ⟨_, rfl, by decide +kernel⟩, by decide +kernel⟩
  -- nobody makes the call that replaces registers
  have hnever : ∀ {k : Kernel} {c : Syscall},
      Syscall.decode (Kernel.callFrame (.initial 7) c).call = .ok c →
      (∀ target va, c ≠ .setFrame target va) →
      ¬ (call c).Reframes k (ProcessId.self.next 1) := by
    rintro k c hdecode hother ⟨cpu, s, f, hop, -, ⟨⟨-, -, -, hc⟩, -, -⟩⟩
    cases hop
    exact hother _ _ (Except.ok.inj (hdecode.symm.trans hc))
  have hframes := switch_transparent hrun rfl rfl hpause fun e he => by
    simp only [List.nil_append, List.cons_append, List.mem_cons, List.not_mem_nil, or_false] at he
    rcases he with rfl | rfl | rfl
    · exact hnever (by decide) nofun
    · exact hnever (by decide) nofun
    · exact hnever (by decide) nofun
  exact ⟨_, _, _, _, hrun, hpause, rfl, hframes, rfl, by decide⟩

end Exokernel
