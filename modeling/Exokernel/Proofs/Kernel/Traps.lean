/-
Traps and the other operations of the kernel as moves.

* `Kernel.systemCall_moves`, `Kernel.pageFault_moves`: what a process comes to by its system calls
  and its page faults;
* `TrapDeed`: what a trap of a process may come to;
* `Kernel.trap_cases`: **a trap** comes to such deeds only, and then the processor goes on with the
  process, or claims nothing and schedules, or stops;
* `Kernel.trap_moves`, `Kernel.spawn_moves`, `Kernel.destroy_moves`: every operation is a row of
  moves.
-/
import Exokernel.Proofs.Kernel.Calls

namespace Exokernel.Kernel

variable {k k' : Kernel} {id target : ProcessId} {p : Process} {cpu : Nat} {f : TrapFrame}
  {A : Deed → Prop}

/-! ### Nothing but quiet changes -/

lemma quiet_serviceInterrupt (cause : TrapCause) : k.Quiet (k.serviceInterrupt cpu cause) := by
  cases cause with
  | timer =>
    rw [serviceInterrupt]
    split
    · exact .of_processors rfl rfl (fun _ => rfl) rfl rfl rfl rfl rfl
    · exact .refl k
  | spurious => exact quiet_log _ _
  | device line =>
    rw [serviceInterrupt, Machine.service]
    split
    · next machine hservice =>
      split at hservice
      · cases hservice
        exact .of_processors rfl rfl (fun _ => rfl) rfl rfl rfl rfl rfl
      · cases hservice
    · exact quiet_log _ _
  | _ => exact .refl k

lemma quiet_acknowledge : k.Quiet { k with machine := k.machine.acknowledge cpu } :=
  ⟨rfl, rfl, fun _ => rfl, rfl, rfl, rfl,
    ⟨rfl, Array.size_modify, received_modifyProcessor fun _ => rfl⟩,
    fun c => .inl (activeSpace?_modifyProcessor (m := k.machine)
      (f := fun p => { p with acknowledged := p.acknowledged + 1 }) (fun _ => rfl) c)⟩

lemma quiet_acknowledgeInterrupt (cause : TrapCause) :
    k.Quiet (k.acknowledgeInterrupt cpu cause) :=
  (quiet_serviceInterrupt cause).trans quiet_acknowledge

lemma quiet_countTrap : k.Quiet (k.modifyCpu cpu fun c => { c with traps := c.traps + 1 }) := by
  refine .of_processors rfl rfl (fun c => ?_) rfl rfl rfl Array.size_modify rfl
  rw [current?_modifyCpu]
  split
  · rfl
  · rfl

/-! ### System calls -/

/-- How a processor goes on: if with another process, it claims nothing. -/
def Leaves (cpu : Nat) (r : Flow × Kernel) : Prop :=
  r.1 = .switch → r.2.current? cpu = none

/-- A process that no other processor has bound is cleared away after that was told. -/
lemma destroyOn_own (hk : k.Sound) (honly : k.OnlyOn cpu id.slot) (hA : ∀ d, Deed.Own id d → A d)
    (hquiet : k.Quiet k') :
    Moves A k (k'.destroyOn cpu id).2 ∧ Leaves cpu (k'.destroyOn cpu id) := by
  have htold : Moves A k k' := .quiet (hA _ .quiet) hquiet
  refine ⟨htold.trans (destroyOn_moves (htold.sound hk) (hA _ .quiet) (fun _ _ _ => hA _ .clear)
    fun p holder hp hres hne => ?_), destroyOn_switch (htold.sound hk)⟩
  -- nobody else has it bound
  rcases honly p (hquiet.records ▸ (live?_eq_some_iff.1 hp).1) with hnone | hsome
  · rw [hres] at hnone
    cases hnone
  · rw [hres, Option.some.injEq] at hsome
    exact absurd hsome hne

lemma setAnswer_moves (answer : Int32) (hedit : A (.edit id)) :
    Moves A k (k.setAnswer cpu id answer) := by
  rw [setAnswer]
  split
  · exact .refl
  · next p hp =>
    split
    · exact .one hedit (.edit_of_same hp rfl rfl rfl rfl rfl rfl)
    · exact .refl

/-- **The end of a call**: its answer, or the end of the caller. -/
lemma conclude_moves (hk : k.Sound) (honly : k.OnlyOn cpu id.slot)
    (hA : ∀ d, Deed.Own id d → A d) (request : Nat)
    {outcome : Outcome} (hrel : Released cpu (outcome, k)) :
    Moves A k (k.conclude cpu id request outcome).2 ∧
      Leaves cpu (k.conclude cpu id request outcome) := by
  cases outcome with
  | answer result =>
    exact ⟨(setAnswer_moves _ (hA _ .edit)).trans (.quiet (hA _ .quiet) (quiet_audit _ _)), nofun⟩
  | giveUp =>
    refine ⟨.quiet (hA _ .quiet) (quiet_audit _ _), fun _ => ?_⟩
    exact ((quiet_audit _ _).current cpu).trans (hrel rfl)
  | badBuffer va =>
    have hquiet : k.Quiet (((k.log .warn
        s!"[{id}] user_mem_check assertion failure for va {va}").audit id
        (.response request none)).auditTermination id (.badUserBuffer va.word)) :=
      ((quiet_log _ _).trans (quiet_audit _ _)).trans (quiet_audit _ _)
    exact destroyOn_own hk honly hA hquiet

/-- A call that is understood is carried out by a kernel that differs in messages only. -/
lemma systemCall_eq (cpu : Nat) {c : Syscall} (hp : k.live? id = some p)
    (hc : Syscall.decode p.frame.call = .ok c) :
    ∃ k₁ request, k.Quiet k₁ ∧ k.systemCall cpu id =
      (k₁.execute cpu id c).2.conclude cpu id request (k₁.execute cpu id c).1 := by
  refine ⟨(k.audit id (.request p.frame.call.number p.frame.call.args)).log .trace
    s!"[{id}] {c.name}", k.auditLog.nextId, (quiet_audit _ _).trans (quiet_log _ _), ?_⟩
  rw [systemCall, hp]
  dsimp only
  rw [perform, hc]

/-- A call that is not understood is answered with an error. -/
lemma systemCall_error (cpu : Nat) {e : KernelError} (hp : k.live? id = some p)
    (hc : Syscall.decode p.frame.call = .error e) :
    ∃ k₁ request, k.Quiet k₁ ∧
      k.systemCall cpu id = k₁.conclude cpu id request (.answer (.error e)) := by
  refine ⟨(k.audit id (.request p.frame.call.number p.frame.call.args)).log .warn
    s!"[{id}] bad syscall {p.frame.call.number}", k.auditLog.nextId,
    (quiet_audit _ _).trans (quiet_log _ _), ?_⟩
  rw [systemCall, hp]
  dsimp only
  rw [perform, hc]

/-- Nobody but its processor has a process bound. -/
lemma onlyOn_of_live? (hp : k.live? id = some p) (hres : p.resident = some cpu) :
    k.OnlyOn cpu id.slot := fun q hq => by
  rw [(live?_eq_some_iff.1 hp).1] at hq
  cases hq
  exact .inr hres

lemma Quiet.onlyOn {slot : Nat} (h : k.Quiet k') (honly : k.OnlyOn cpu slot) :
    k'.OnlyOn cpu slot := fun p hp => honly p (h.records ▸ hp)

/-- A call gives a processor nothing to run. -/
lemma CallDeed.not_bind {c : Syscall} (slot : Nat) : ¬ k.CallDeed id c (.bind slot) := by
  intro h
  cases h with
  | own hd => cases hd

/-- **A system call** comes to the deeds of the process and of the call only. -/
lemma systemCall_moves (hk : k.Sound) (hp : k.live? id = some p) (hres : p.resident = some cpu)
    (hA : ∀ d, Deed.Own id d → A d)
    (hcall : ∀ k₁ c d, k.Quiet k₁ → Syscall.decode p.frame.call = .ok c →
      k₁.CallDeed id c d → A d) :
    Moves A k (k.systemCall cpu id).2 ∧ Leaves cpu (k.systemCall cpu id) := by
  cases hc : Syscall.decode p.frame.call with
  | error e =>
    obtain ⟨k₁, request, hk₁, heq⟩ := systemCall_error cpu hp hc
    have hquiet : Moves A k k₁ := .quiet (hA _ .quiet) hk₁
    obtain ⟨hmoves, hleaves⟩ := conclude_moves (hquiet.sound hk)
      (hk₁.onlyOn (onlyOn_of_live? hp hres)) hA request
      (show Released cpu (.answer (.error e), k₁) from nofun)
    rw [heq]
    exact ⟨hquiet.trans hmoves, hleaves⟩
  | ok c =>
    obtain ⟨k₁, request, hk₁, heq⟩ := systemCall_eq cpu hp hc
    have hquiet : Moves A k k₁ := .quiet (hA _ .quiet) hk₁
    have hsound := hquiet.sound hk
    obtain ⟨hexec, hrel⟩ := execute_moves (c := c) hsound ((hk₁.live? id).trans hp) hres
    obtain ⟨hmoves, hleaves⟩ := conclude_moves (hexec.sound hsound)
      (hexec.onlyOn hsound CallDeed.not_bind (hk₁.onlyOn (onlyOn_of_live? hp hres))) hA request hrel
    rw [heq]
    exact ⟨(hquiet.trans (hexec.mono fun d => hcall k₁ c d hk₁ hc)).trans hmoves, hleaves⟩

/-! ### Page faults -/

/-- The memory of a process once a fault frame was written on its exception stack. -/
inductive FaultWrite (k : Kernel) (id : ProcessId) (f : TrapFrame) : Machine → Prop where
  | mk {s : Nat} {entry : VirtAddr} {plan : UpcallPlan} {data : List UInt8}
      (hs : k.spaceOf? id = some s) (hplan : planUpcall k.machine s entry f = .ok plan)
      (hlen : data.length = FaultFrame.size) :
      FaultWrite k id f (k.machine.copyOut s plan.frameVa data).2

/-- A process is told of its fault only if its exception stack can be written, and the fault frame
has its place there. -/
lemma planUpcall_ok {m : Machine} {s : Nat} {entry : VirtAddr} {plan : UpcallPlan}
    (h : planUpcall m s entry f = .ok plan) : UpcallPlan.ofStackPointer f.esp = .ok plan ∧
      m.checkUser s (.ofNat (Layout.exceptionStackTop - 1)) 1 .writable = .ok () := by
  rw [planUpcall] at h
  split at h
  · cases h
  · next hstack =>
    split at h
    · cases h
    · split at h
      · cases h
      · next hplace =>
        cases h
        exact ⟨hplace, hstack⟩

lemma FaultWrite.move {m : Machine} (h : k.FaultWrite id f m) :
    k.Move (.work id k.machine m) { k with machine := m } := by
  cases h with
  | mk hs hplan hlen => exact .work hs (.single (.write _ _))

/-- **What comes of telling a process of its fault**: nothing, or its memory is written, and it may
be resumed at its handler. -/
lemma reflectFault_cases (k : Kernel) (id : ProcessId) (f : TrapFrame) (faultVa : VirtAddr) :
    (k.reflectFault id f faultVa).2 = k ∨ ∃ p m, k.live? id = some p ∧ k.FaultWrite id f m ∧
      ((k.reflectFault id f faultVa).2 = { k with machine := m } ∨
        ∃ frame : Process → TrapFrame, (k.reflectFault id f faultVa).2 =
          { k with machine := m }.modify id fun p => { p with frame := frame p }) := by
  rw [reflectFault]
  cases hp : k.live? id with
  | none => exact .inl rfl
  | some p =>
    dsimp only
    cases hhandler : p.faultHandler with
    | none => exact .inl rfl
    | some entry =>
      cases hspace : p.space with
      | none => exact .inl rfl
      | some s =>
        dsimp only
        cases hplan : planUpcall k.machine s entry f with
        | error e => exact .inl rfl
        | ok plan =>
          refine .inr ⟨p, _, rfl, .mk (spaceOf?_eq_some_iff.2 ⟨p, hp, hspace⟩) hplan
            (FaultFrame.length_toBytes (.ofTrap f faultVa.word)), ?_⟩
          dsimp only
          split
          · next heq => exact .inl (by rw [heq])
          · next heq => exact .inr ⟨_, by rw [heq]⟩

lemma reflectFault_moves (faultVa : VirtAddr) (hedit : A (.edit id))
    (hwrite : ∀ m, k.FaultWrite id f m → A (.work id k.machine m)) :
    Moves A k (k.reflectFault id f faultVa).2 := by
  rcases reflectFault_cases k id f faultVa with hsame | ⟨p, m, hp, hm, hwritten⟩
  · rw [hsame]
    exact .refl
  · have hwork : Moves A k { k with machine := m } := .one (hwrite m hm) hm.move
    rcases hwritten with heq | ⟨frame, heq⟩
    · rw [heq]
      exact hwork
    · rw [heq]
      exact hwork.trans (.one hedit
        (.edit_of_same (k := { k with machine := m }) hp rfl rfl rfl rfl rfl rfl))

/-- **A page fault** writes the memory of the process that took it, or ends the process. -/
lemma pageFault_moves (hk : k.Sound) (honly : k.OnlyOn cpu id.slot)
    (hA : ∀ d, Deed.Own id d → A d) (hbind : ∀ slot, ¬ A (.bind slot))
    (hwrite : ∀ m, k.FaultWrite id f m → A (.work id k.machine m)) :
    Moves A k (k.pageFault cpu id f).2 ∧ Leaves cpu (k.pageFault cpu id f) := by
  have hreflect := reflectFault_moves (k.machine.faultAddress cpu) (hA _ .edit) hwrite
  rw [pageFault]
  cases hr : k.reflectFault id f (k.machine.faultAddress cpu) with
  | mk result k₁ =>
    rw [hr] at hreflect
    cases result with
    | ok frameVa => exact ⟨hreflect.trans (.quiet (hA _ .quiet) (quiet_log _ _)), nofun⟩
    | error e =>
      obtain ⟨hmoves, hleaves⟩ := destroyOn_own (hreflect.sound hk) (hreflect.onlyOn hk hbind honly)
        hA ((quiet_log _ _).trans (quiet_audit _ _))
      exact ⟨hreflect.trans hmoves, hleaves⟩

/-! ### Traps -/

/-- A kernel that has saved the registers of the process that trapped, and told of it. -/
def Saved (k : Kernel) (id : ProcessId) (f : TrapFrame) (k' : Kernel) : Prop :=
  ∃ k₀, k.Quiet k₀ ∧ (k₀.modify id fun p => { p with frame := f }).Quiet k'

/-- What a trap of a process may come to, which it took with registers `f`. -/
inductive TrapDeed (k : Kernel) (id : ProcessId) (f : TrapFrame) : Deed → Prop where
  | own {d : Deed} (hd : d.Own id) : TrapDeed k id f d
  | call {k₁ : Kernel} {c : Syscall} {d : Deed} (huser : f.isUser) (hlive : (k.live? id).isSome)
      (hcause : TrapCause.ofNumber f.trapno = .syscall) (hsaved : k.Saved id f k₁)
      (hc : Syscall.decode f.call = .ok c) (hd : k₁.CallDeed id c d) : TrapDeed k id f d
  | fault {k₁ : Kernel} {m : Machine} (hcause : TrapCause.ofNumber f.trapno = .pageFault)
      (hsaved : k.Saved id f k₁) (hm : k₁.FaultWrite id f m) :
      TrapDeed k id f (.work id k₁.machine m)

/-- A trap gives a processor nothing to run; what it does next, does. -/
lemma TrapDeed.not_bind (slot : Nat) : ¬ k.TrapDeed id f (.bind slot) := by
  intro h
  cases h with
  | own hd => cases hd
  | call huser hlive hcause hsaved hc hd => exact hd.not_bind

/-- **A trap of a bound process**, up to where the processor goes on. -/
lemma handle_moves {k₀ : Kernel} (hk : k.Sound) (hsaved : k₀.Saved id f k) (huser : f.isUser)
    (hlive : (k₀.live? id).isSome) (hp : k.live? id = some p) (hframe : p.frame = f)
    (hres : p.resident = some cpu) :
    Moves (k₀.TrapDeed id f) k (k.handle cpu id f).2 ∧ Leaves cpu (k.handle cpu id f) := by
  have hA : ∀ d, Deed.Own id d → k₀.TrapDeed id f d := fun _ => .own
  have hack : ∀ cause, Moves (k₀.TrapDeed id f) k (k.acknowledgeInterrupt cpu cause) :=
    fun cause => .quiet (hA _ .quiet) (quiet_acknowledgeInterrupt cause)
  rw [handle]
  cases hcause : TrapCause.ofNumber f.trapno with
  | pageFault =>
    exact pageFault_moves hk (onlyOn_of_live? hp hres) hA TrapDeed.not_bind
      fun m => .fault hcause hsaved
  | syscall =>
    refine systemCall_moves hk hp hres hA fun k₁ c d hk₁ hc => ?_
    obtain ⟨k', hk', hquiet⟩ := hsaved
    exact .call huser hlive hcause ⟨k', hk', hquiet.trans hk₁⟩ (hframe ▸ hc)
  | timer =>
    have hsound := (hack .timer).sound hk
    have hcur : (k.acknowledgeInterrupt cpu .timer).current? cpu = some id := by
      rw [(quiet_acknowledgeInterrupt .timer).current]
      exact (hk.current?_iff hp).2 hres
    obtain ⟨hmoves, hnone⟩ := preempt_moves hsound hcur (hA _ .quiet) (hA _ .edit) (hA _ .unbind)
      (hA _ .clear)
    exact ⟨(hack .timer).trans hmoves, fun _ => hnone⟩
  | unexpected trapno =>
    exact destroyOn_own hk (onlyOn_of_live? hp hres) hA ((quiet_log _ _).trans (quiet_audit _ _))
  | reschedule => exact ⟨hack .reschedule, nofun⟩
  | spurious => exact ⟨hack .spurious, nofun⟩
  | controllerError => exact ⟨hack .controllerError, nofun⟩
  | device line => exact ⟨hack (.device line), nofun⟩

/-- What a processor does after a trap: it goes on with its process, or claims nothing and
schedules. -/
inductive GoesOn (cpu : Nat) (id : ProcessId) (k : Kernel) (r : Resume × Kernel) : Prop where
  | resume {p : Process} (hp : k.live? id = some p) (hrun : p.status = .running)
      (hres : p.resident = some cpu) (heq : r = (.user id p.frame, k))
  | schedule (hnone : k.current? cpu = none) (heq : r = k.schedule cpu)

/-- A processor that stays with a process goes on with it, or gives it up as it is. -/
lemma leave_stay_cases (hk : k.Sound) (hA : ∀ d, Deed.Own id d → A d) (hp : k.live? id = some p)
    (hcur : k.current? cpu = some id ∨ k.current? cpu = none) :
    ∃ k₁ p₁, Moves A k k₁ ∧ GoesOn cpu id k₁ (k.leave cpu id .stay) ∧
      k₁.live? id = some p₁ ∧ p₁.frame = p.frame := by
  obtain ⟨hrec, hid, hlive⟩ := live?_eq_some_iff.1 hp
  rw [leave, hp]
  dsimp only
  split
  · next hrun => exact ⟨k, p, .refl, .resume hp hrun.1 hrun.2 rfl, hp, rfl⟩
  · next hnot =>
    by_cases hres : p.resident = some cpu
    · have hmove : k.Move (.unbind id) (k.unbind cpu id) :=
        .unbind hp hres fun hrun => hnot ⟨hrun, hres⟩
      refine ⟨_, { p with resident := none }, .one (hA _ .unbind) hmove,
        .schedule (current?_unbind hk hp hres) rfl, ?_, rfl⟩
      rw [unbind_eq hp hres]
      exact live?_modify hp rfl hlive
    · -- the process is bound elsewhere, so this processor does not claim it any more
      have hne : k.current? cpu ≠ some id := fun h => hres ((hk.current?_iff hp).1 h)
      have hsame : k.unbind cpu id = k.dropClaim cpu id := by
        rw [unbind, hrec, Option.bind_some, if_neg hres]
      have hquiet : k.Quiet (k.unbind cpu id) := hsame ▸ quiet_dropClaim hne
      exact ⟨_, p, .quiet (hA _ .quiet) hquiet,
        .schedule ((hquiet.current cpu).trans (hcur.resolve_left hne)) rfl,
        (hquiet.live? id).trans hp, rfl⟩

/-- **The way out of a trap.** -/
lemma leave_cases (hk : k.Sound) (hA : ∀ d, Deed.Own id d → A d) {flow : Flow}
    (hcur : k.current? cpu = some id ∨ k.current? cpu = none) (hleaves : Leaves cpu (flow, k)) :
    ∃ k₁, Moves A k k₁ ∧ GoesOn cpu id k₁ (k.leave cpu id flow) := by
  cases flow with
  | switch =>
    have hnone := hleaves rfl
    refine ⟨k.clearStale cpu id, clearStale_moves hk (fun h => ?_) (hA _ .quiet) (hA _ .clear),
      .schedule (current?_clearStale hcur) rfl⟩
    rw [hnone] at h
    cases h
  | stay =>
    cases hp : k.live? id with
    | none =>
      refine ⟨k.clearStale cpu id, clearStale_moves hk (fun _ => hp) (hA _ .quiet) (hA _ .clear),
        .schedule (current?_clearStale hcur) ?_⟩
      rw [leave, hp]
    | some p =>
      obtain ⟨k₁, -, hmoves, hgoes, -⟩ := leave_stay_cases hk hA hp hcur
      exact ⟨k₁, hmoves, hgoes⟩

lemma isBound_iff : k.isBound cpu id = true ↔
    ∃ p, k.live? id = some p ∧ p.resident = some cpu := by
  rw [isBound, Option.any_eq_true]
  simp only [decide_eq_true_eq]

/-- A process that a processor claims is bound to it, or gone. -/
lemma live?_of_current (hk : k.Sound) (hcur : k.current? cpu = some id) :
    (∃ p, k.live? id = some p ∧ p.resident = some cpu) ∨ k.live? id = none := by
  cases hp : k.live? id with
  | none => exact .inr rfl
  | some p => exact .inl ⟨p, rfl, (hk.current?_iff hp).1 hcur⟩

/-- **A trap out of user code**, of the process that the processor claims. -/
lemma userTrap_cases {k₀ : Kernel} (hk : k.Sound) (hk₀ : k₀.Quiet k) (huser : f.isUser)
    (hcur : k.current? cpu = some id) :
    ∃ k₁, Moves (k₀.TrapDeed id f) k k₁ ∧ GoesOn cpu id k₁ (k.userTrap cpu (some id) f) := by
  have hA : ∀ d, Deed.Own id d → k₀.TrapDeed id f d := fun _ => .own
  rw [userTrap]
  rcases live?_of_current hk hcur with ⟨p, hp, hres⟩ | hgone
  · rw [if_pos (isBound_iff.2 ⟨p, hp, hres⟩)]
    have hsave : k.Move (.edit id) (k.modify id fun p => { p with frame := f }) :=
      .edit_of_same hp rfl rfl rfl rfl rfl rfl
    have hsaved : Moves (k₀.TrapDeed id f) k _ := .one (hA _ .edit) hsave
    have hp' : (k.modify id fun p => { p with frame := f }).live? id = some { p with frame := f } :=
      live?_modify hp rfl (live?_eq_some_iff.1 hp).2.2
    have hlive₀ : (k₀.live? id).isSome := by rw [← hk₀.live?, hp]; rfl
    obtain ⟨hmoves, hleaves⟩ := handle_moves (hsaved.sound hk) ⟨k, hk₀, .refl _⟩ huser hlive₀ hp'
      rfl hres
    have hall := hsaved.trans hmoves
    have hclaims : ((k.modify id fun p => { p with frame := f }).handle cpu id f).2.current? cpu =
        some id ∨ _ := hcur ▸ hall.current TrapDeed.not_bind cpu
    obtain ⟨k₁, hleave, hgoes⟩ := leave_cases (hall.sound hk) hA hclaims hleaves
    exact ⟨k₁, hall.trans hleave, hgoes⟩
  · have hnot : ¬ k.isBound cpu id = true := fun h => by
      obtain ⟨p, hp, -⟩ := isBound_iff.1 h
      rw [hgone] at hp
      cases hp
    rw [if_neg hnot]
    have hlog := quiet_log (k := k) .debug s!"cpu {cpu}: {id} is gone"
    have hlogged : Moves (k₀.TrapDeed id f) k _ := .quiet (hA _ .quiet) hlog
    have hclear : Moves (k₀.TrapDeed id f) k
        ((k.log .debug s!"cpu {cpu}: {id} is gone").clearStale cpu id) :=
      hlogged.trans (clearStale_moves (hlogged.sound hk) (fun _ => (hlog.live? id).trans hgone)
        (hA _ .quiet) (hA _ .clear))
    have hnone := current?_clearStale (.inl ((hlog.current cpu).trans hcur))
    dsimp only
    split
    · next hint =>
      exact ⟨_, hclear.trans (.quiet (hA _ .quiet) (quiet_acknowledgeInterrupt _)),
        .schedule (((quiet_acknowledgeInterrupt _).current cpu).trans hnone) rfl⟩
    · exact ⟨_, hclear, .schedule hnone rfl⟩

/-- **A trap out of the kernel**, on a processor that claims a process. -/
lemma kernelTrap_cases (hk : k.Sound) (hcur : k.current? cpu = some id)
    (hA : ∀ d, Deed.Own id d → A d) :
    ∃ k₁, Moves A k k₁ ∧ (GoesOn cpu id k₁ (k.kernelTrap cpu (some id) f) ∨
      ∃ panic, k.kernelTrap cpu (some id) f = (.halt panic, k₁)) := by
  rw [kernelTrap]
  dsimp only
  split
  · have hack : k.Quiet (k.acknowledgeInterrupt cpu (TrapCause.ofNumber f.trapno)) :=
      quiet_acknowledgeInterrupt _
    have hacked : Moves A k _ := .quiet (hA _ .quiet) hack
    obtain ⟨hmoves, hnone⟩ := preempt_moves (hacked.sound hk) ((hack.current cpu).trans hcur)
      (hA _ .quiet) (hA _ .edit) (hA _ .unbind) (hA _ .clear)
    exact ⟨_, hacked.trans hmoves, .inl (.schedule hnone rfl)⟩
  · exact ⟨_, .quiet (hA _ .quiet) (quiet_log _ _), .inr ⟨_, rfl⟩⟩

/-- **What comes of a trap out of user code** on a processor that claims a process: deeds of the
trap, and then the processor goes on. -/
lemma trap_user_cases (hk : k.Sound) (hcur : k.current? cpu = some id) (huser : f.isUser) :
    ∃ k₁, Moves (k.TrapDeed id f) k k₁ ∧ GoesOn cpu id k₁ (k.trap cpu f) := by
  obtain ⟨c, hc, hcid⟩ := Option.bind_eq_some_iff.1 hcur
  have hcount : k.Quiet (k.modifyCpu cpu fun c => { c with traps := c.traps + 1 }) :=
    quiet_countTrap
  have hcounted : Moves (k.TrapDeed id f) k _ := .quiet (.own .quiet) hcount
  obtain ⟨k₁, hmoves, hgoes⟩ := userTrap_cases (hcounted.sound hk) hcount huser
    ((hcount.current cpu).trans hcur)
  rw [trap, hc]
  dsimp only
  rw [if_pos huser, hcid]
  exact ⟨k₁, hcounted.trans hmoves, hgoes⟩

/-- **What comes of a trap** on a processor that claims a process: deeds of the trap, and then the
processor goes on or stops for good. -/
lemma trap_cases (hk : k.Sound) (hcur : k.current? cpu = some id) :
    ∃ k₁, Moves (k.TrapDeed id f) k k₁ ∧
      (GoesOn cpu id k₁ (k.trap cpu f) ∨ ∃ panic, k.trap cpu f = (.halt panic, k₁)) := by
  by_cases huser : f.isUser
  · obtain ⟨k₁, hmoves, hgoes⟩ := trap_user_cases hk hcur huser
    exact ⟨k₁, hmoves, .inl hgoes⟩
  · obtain ⟨c, hc, hcid⟩ := Option.bind_eq_some_iff.1 hcur
    have hcount : k.Quiet (k.modifyCpu cpu fun c => { c with traps := c.traps + 1 }) :=
      quiet_countTrap
    have hcounted : Moves (k.TrapDeed id f) k _ := .quiet (.own .quiet) hcount
    obtain ⟨k₁, hmoves, hgoes⟩ := kernelTrap_cases (f := f) (A := k.TrapDeed id f)
      (hcounted.sound hk) ((hcount.current cpu).trans hcur) fun _ => .own
    rw [trap, hc]
    dsimp only
    rw [if_neg huser, hcid]
    exact ⟨k₁, hcounted.trans hmoves, hgoes⟩

/-- A trap on a processor that claims nothing. -/
lemma trap_idle (hcur : k.current? cpu = none) :
    (∃ k₁, k.Quiet k₁ ∧ k.trap cpu f = k₁.schedule cpu) ∨
      ∃ k₁ panic, k.Quiet k₁ ∧ k.trap cpu f = (.halt panic, k₁) := by
  rw [trap]
  cases hc : k.cpus[cpu]? with
  | none => exact .inr ⟨k, _, .refl k, rfl⟩
  | some c =>
    have hnone : c.current = none := by rwa [current?, hc] at hcur
    have hcount : k.Quiet (k.modifyCpu cpu fun c => { c with traps := c.traps + 1 }) :=
      quiet_countTrap
    dsimp only
    rw [hnone]
    split
    · exact .inr ⟨_, _, hcount.trans (quiet_log _ _), rfl⟩
    · rw [kernelTrap]
      dsimp only
      split
      · exact .inl ⟨_, hcount.trans (quiet_acknowledgeInterrupt _), rfl⟩
      · exact .inr ⟨_, _, hcount.trans (quiet_log _ _), rfl⟩

/-! ### Operations as moves -/

/-- Any deed. -/
abbrev anyDeed : Deed → Prop := fun _ => True

lemma schedule_anyMoves (hnone : k.current? cpu = none) :
    Moves anyDeed k (k.schedule cpu).2 :=
  schedule_moves hnone trivial fun _ => trivial

lemma Deed.Own.numbered {d : Deed} {n : UInt32} (h : d.Own id) : d.Numbered n := by
  cases h <;> trivial

lemma CallDeed.numbered {c : Syscall} {d : Deed} (h : k.CallDeed id c d) :
    d.Numbered k.machine.spaces.nextId := by
  cases h with
  | own hd => exact hd.numbered
  | make => rfl
  | _ => trivial

/-- A trap makes no address space but the next one. -/
lemma TrapDeed.numbered {d : Deed} (h : k.TrapDeed id f d) :
    d.Numbered k.machine.spaces.nextId := by
  cases h with
  | own hd => exact hd.numbered
  | call huser hlive hcause hsaved hc hd =>
    obtain ⟨k₀, hk₀, hk₁⟩ := hsaved
    have hspaces : _ = k.machine.spaces := hk₁.spaces.trans hk₀.spaces
    exact hspaces ▸ hd.numbered
  | fault => trivial

/-- **A trap** is a row of moves. -/
lemma trap_moves (hk : k.Sound) :
    Moves (Deed.Numbered k.machine.spaces.nextId) k (k.trap cpu f).2 := by
  cases hcur : k.current? cpu with
  | none =>
    rcases trap_idle (f := f) hcur with ⟨k₁, hk₁, heq⟩ | ⟨k₁, panic, hk₁, heq⟩
    · rw [heq]
      exact (Moves.quiet trivial hk₁).trans
        (schedule_moves ((hk₁.current cpu).trans hcur) trivial fun _ => trivial)
    · rw [heq]
      exact .quiet trivial hk₁
  | some id =>
    obtain ⟨k₁, hdeeds, hgoes | ⟨panic, heq⟩⟩ := trap_cases (f := f) hk hcur
    · have hmoves := hdeeds.mono fun _ => TrapDeed.numbered
      cases hgoes with
      | resume hp hrun hres heq => rwa [heq]
      | schedule hnone heq =>
        rw [heq]
        exact hmoves.trans (schedule_moves hnone trivial fun _ => trivial)
    · rw [heq]
      exact hdeeds.mono fun _ => TrapDeed.numbered

/-- What making a process may come to. All of it is about a slot that was free. -/
inductive SpawnDeed (k : Kernel) : Deed → Prop where
  | quiet : SpawnDeed k .quiet
  | make : SpawnDeed k (.make none k.machine.spaces.nextId)
  | edit {id : ProcessId} {q : Process} (hq : k.table.records[id.slot]? = some q)
      (hs : q.status = .free) : SpawnDeed k (.edit id)
  | work {id : ProcessId} {q : Process} {before after : Machine}
      (hq : k.table.records[id.slot]? = some q) (hs : q.status = .free) :
      SpawnDeed k (.work id before after)
  | clear {id : ProcessId} {q : Process} (hq : k.table.records[id.slot]? = some q)
      (hs : q.status = .free) : SpawnDeed k (.clear id)

lemma SpawnDeed.not_bind (slot : Nat) : ¬ k.SpawnDeed (.bind slot) := nofun

lemma SpawnDeed.numbered {d : Deed} (h : k.SpawnDeed d) : d.Numbered k.machine.spaces.nextId := by
  cases h with
  | make => rfl
  | _ => trivial

/-- **Making a process** is a row of moves. -/
lemma allocate_moves {parent : ProcessId} (hq : A .quiet)
    (hmake : A (.make none k.machine.spaces.nextId)) (h : k.allocate parent = .ok (id, k')) :
    Moves A k k' := by
  rw [allocate] at h
  split at h
  · cases h
  · next child k₁ hmade =>
    cases h
    exact (Moves.one hmake (.make nofun (.inl rfl) hmade)).trans (.quiet hq (quiet_log _ _))

/-- Loading a program is work on the memory of a process, and may set its registers. -/
lemma load_stages (hp : k.live? id = some p) {s : Nat} (hs : p.space = some s) (image : Image) :
    ∃ m, Machine.Works s k.machine m ∧
      Moves (fun d => d = .edit id) { k with machine := m } (k.load id image).2 ∧
      ∃ frame, (k.load id image).2.live? id = some { p with frame } := by
  have hload := Machine.load_works (s := s) (m := k.machine) image
  rw [load, spaceOf?_eq_some_iff.2 ⟨p, hp, hs⟩]
  dsimp only
  cases hr : k.machine.load s image with
  | mk result machine =>
    rw [hr] at hload
    refine ⟨machine, hload, ?_⟩
    cases result with
    | error e => exact ⟨.refl, p.frame, hp⟩
    | ok _ =>
      refine ⟨.one rfl (.edit_of_same (k := { k with machine }) hp rfl rfl rfl rfl rfl rfl),
        { p.frame with eip := image.entry.word, esp := UInt32.ofNat Layout.stackTop }, ?_⟩
      exact live?_modify (k := { k with machine }) hp rfl (live?_eq_some_iff.1 hp).2.2

/-- What is left to do once a program was loaded: the process is set going, or torn down. -/
inductive Deed.Settles (id : ProcessId) : Deed → Prop where
  | quiet : Settles id .quiet
  | edit : Settles id (.edit id)
  | clear : Settles id (.clear id)

/-- **The stages of spawning**: a process is made, its memory is worked on, and the process is set
going or torn down. -/
lemma spawn_stages (hk : k.Sound) (image : Image) : (k.spawn image).2 = k ∨
    ∃ id k₁ s m, k.allocateAs .self .notRunnable = .ok (id, k₁) ∧ k₁.spaceOf? id = some s ∧
      Machine.Works s k₁.machine m ∧
      Moves (Deed.Settles id) { k₁ with machine := m } (k.spawn image).2 := by
  rw [spawn]
  split
  · cases hmade : k.allocateAs .self .notRunnable with
    | error e => exact .inl rfl
    | ok r =>
      obtain ⟨id, k₁⟩ := r
      obtain ⟨s, hp⟩ := live?_of_allocateAs hk rfl hmade
      obtain ⟨m, hworks, hmoves, frame, hp'⟩ := load_stages hp rfl image
      refine .inr ⟨id, k₁, s, m, rfl, spaceOf?_eq_some_iff.2 ⟨_, hp, rfl⟩, hworks, ?_⟩
      have hall := hmoves.mono (B := Deed.Settles id) fun _ heq => heq ▸ .edit
      dsimp only
      cases hload : k₁.load id image with
      | mk result k₂ =>
        rw [hload] at hall hp'
        obtain ⟨hrec, hid, hlive⟩ := live?_eq_some_iff.1 hp'
        cases result with
        | error e =>
          dsimp only
          rw [free, beginFree?_eq hp']
          exact hall.trans (.one .clear (.clear hrec hid nofun (reap_none_clears hp' rfl)))
        | ok _ =>
          have hready : k₂.Move (.edit id) (k₂.modify id fun p => { p with status := .runnable }) :=
            .edit hp' ⟨rfl, rfl, rfl, rfl, rfl, nofun, fun _ => nofun, rfl⟩ fun hopen => hopen
          exact (hall.trans (.one .edit hready)).trans (.quiet .quiet (quiet_log _ _))
  · exact .inl rfl

/-- **Spawning** is a row of moves, whether it succeeds or fails. -/
lemma spawn_moves (hk : k.Sound) (image : Image) : Moves k.SpawnDeed k (k.spawn image).2 := by
  rcases spawn_stages hk image with heq | ⟨id, k₁, s, m, hmade, hspace, hworks, hrest⟩
  · rw [heq]
    exact .refl
  · obtain ⟨q, hq, hs⟩ := free_of_allocateAs hk hmade
    have hload : k₁.Move (.work id k₁.machine m) { k₁ with machine := m } := .work hspace hworks
    have hmake : k.Move (.make none k.machine.spaces.nextId) k₁ := .make nofun (.inr rfl) hmade
    refine ((Moves.one .make hmake).trans (.one (.work hq hs) hload)).trans
      (hrest.mono fun d hd => ?_)
    cases hd with
    | quiet => exact .quiet
    | edit => exact .edit hq hs
    | clear => exact .clear hq hs

/-- What the destruction of a process by a processor may come to. -/
inductive DestroyDeed (k : Kernel) (cpu : Nat) (id : ProcessId) : Deed → Prop where
  | quiet : DestroyDeed k cpu id .quiet
  | clear {p : Process} (hp : k.live? id = some p)
      (hhere : p.resident = none ∨ p.resident = some cpu) : DestroyDeed k cpu id (.clear id)
  | doom {p : Process} {holder : Nat} (hp : k.live? id = some p) (hres : p.resident = some holder)
      (hne : holder ≠ cpu) : DestroyDeed k cpu id (.doom id)

lemma DestroyDeed.not_bind (slot : Nat) : ¬ k.DestroyDeed cpu id (.bind slot) := nofun

lemma DestroyDeed.numbered {d : Deed} {n : UInt32} (h : k.DestroyDeed cpu id d) :
    d.Numbered n := by
  cases h <;> trivial

/-- **Destroying a process** is a row of moves. -/
lemma destroy_moves {switch : Bool} (hk : k.Sound)
    (h : k.destroy cpu id = .ok (switch, k')) : Moves (k.DestroyDeed cpu id) k k' := by
  rw [destroy] at h
  split at h
  · cases h
  · cases h
    exact destroyOn_moves hk .quiet (fun _ => .clear) fun _ _ => .doom

end Exokernel.Kernel
