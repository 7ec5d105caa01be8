/-
What operations do to the records of the process table.

* `Operation.issue?`: the slot and the identity that an operation gives to a new process;
* `Operation.Alters`: the steps that an operation may take with a record, each with who asks for it
  and what the record is like when it is taken;
* `Operation.course`: **every record goes through such steps only**.
-/
import Exokernel.Proofs.Histories
import Exokernel.Proofs.Kernel.Entries
import Exokernel.Proofs.Kernel.Records

namespace Exokernel

namespace Kernel

variable {k k' k₁ : Kernel} {id s : ProcessId} {p : Process} {cpu slot : Nat} {f : TrapFrame}
  {parent : ProcessId} {status : ProcessStatus}

/-! ### Identities -/

/-- The slot and the identity of the process that is made next, if one can be made. -/
def issue? (k : Kernel) (parent : ProcessId) (status : ProcessStatus) : Option (Nat × ProcessId) :=
  match k.allocateAs parent status with
  | .error _ => none
  | .ok (id, _) => k.table.free.head?.map (·, id)

/-- A process can be made if there is a slot and a frame for it, and its identity follows the last
one of the slot. -/
lemma issue?_eq (k : Kernel) (parent : ProcessId) (status : ProcessStatus) :
    k.issue? parent status =
      if k.machine.frames.allocOwned?.isSome then
        k.table.free.head?.map fun slot => (slot, (k.table.lastId slot).next slot)
      else none := by
  rw [issue?, allocateAs, Machine.createSpace, Machine.allocOwned]
  cases hfree : k.table.free with
  | nil => simp
  | cons slot rest =>
    cases k.machine.frames.allocOwned? with
    | none => rfl
    | some r =>
      simp [ProcessTable.allocate?, hfree]

lemma issue?_of_allocateAs (h : k.allocateAs parent status = .ok (id, k'))
    (hslot : k.table.free.head? = some slot) : k.issue? parent status = some (slot, id) := by
  rw [issue?, h]
  dsimp only
  rw [hslot]
  rfl

/-- A process that is made takes the first free slot. -/
lemma allocateAs_of_issue? (h : k.issue? parent status = some (slot, id)) :
    (∃ k', k.allocateAs parent status = .ok (id, k')) ∧ k.table.free.head? = some slot := by
  rw [issue?] at h
  split at h
  · cases h
  · next made k' hmade =>
    obtain ⟨head, hhead, heq⟩ := Option.map_eq_some_iff.1 h
    cases heq
    exact ⟨⟨k', hmade⟩, hhead⟩

lemma issue?_eq_some (h : k.issue? parent status = some (slot, id)) :
    id = (k.table.lastId slot).next slot ∧ slot ∈ k.table.free := by
  rw [issue?_eq] at h
  split at h
  · obtain ⟨head, hhead, heq⟩ := Option.map_eq_some_iff.1 h
    cases heq
    exact ⟨rfl, List.mem_of_mem_head? hhead⟩
  · cases h

/-- A kernel that has saved registers makes the same process next. -/
lemma Saved.issue? (h : k.Saved s f k') : k'.issue? parent status = k.issue? parent status := by
  have hlast : ∀ slot, k'.table.lastId slot = k.table.lastId slot := fun slot => by
    rw [ProcessTable.lastId, ProcessTable.lastId, h.record]
    by_cases hself : s.slot = slot
    · rw [if_pos hself]
      cases k.table.records[slot]? <;> rfl
    · rw [if_neg hself]
  have hfree : k'.table.free = k.table.free := by
    obtain ⟨k₀, h₀, h'⟩ := h
    exact h'.free.trans h₀.free
  simp only [issue?_eq, h.memory.1, hfree, hlast]

instance (k : Kernel) (id : ProcessId) (f : TrapFrame) (c : Syscall) : Decidable (k.Calls id f c) :=
  inferInstanceAs (Decidable (_ ∧ _ ∧ _ ∧ _))

end Kernel

namespace Operation

open Kernel (Course Ends dispatched fresh)

/-- The slot and the identity that an operation gives to a new process, if it makes one. What cannot
be loaded after all has had an identity, too. -/
def issue? (k : Kernel) : Operation → Option (Nat × ProcessId)
  | .spawn image => if image.isLoadable then k.issue? .self .notRunnable else none
  | .allocate parent => k.issue? parent .runnable
  | .trap cpu f =>
    (k.current? cpu).bind fun s => if k.Calls s f .exofork then k.issue? s .notRunnable else none
  | .destroy _ _ | .schedule _ | .latch _ _ | .store _ _ _ => none

variable {k k₁ k₂ : Kernel} {op : Operation} {id s : ProcessId} {p : Process} {cpu slot : Nat}
  {f : TrapFrame}

/-- A processor is taken from its process by a trap: by the clock, or inside the kernel by any
interrupt. -/
def Preempts (f : TrapFrame) : Prop :=
  if f.isUser then TrapCause.ofNumber f.trapno = .timer
  else (TrapCause.ofNumber f.trapno).isInterrupt = true

/-- A step that an operation of state `k` takes with the record of a slot. -/
inductive Alters (k : Kernel) : Operation → Nat → Process → Process → Prop where
  /-- The registers of a process are saved. -/
  | saved {slot cpu : Nat} {f : TrapFrame} {p : Process} (hcur : k.current? cpu = some p.id)
      (huser : f.isUser) : Alters k (.trap cpu f) slot p { p with frame := f }
  /-- A process has the answer to its call. -/
  | answered {slot cpu : Nat} {f : TrapFrame} {p : Process} {value : UInt32} :
      Alters k (.trap cpu f) slot p { p with frame := p.frame.withResult value }
  /-- A process goes on elsewhere: where its program begins, or where it handles its faults. -/
  | redirected {op : Operation} {slot : Nat} {p : Process} {eip esp : UInt32} :
      Alters k op slot p { p with frame := { p.frame with eip, esp } }
  /-- A call affects a process. It is carried out once the registers of the caller are saved. -/
  | called {slot cpu : Nat} {f : TrapFrame} {s : ProcessId} {c : Syscall} {p p' : Process}
      {k₁ : Kernel} (hcur : k.current? cpu = some s) (hcalls : k.Calls s f c)
      (hsaved : k.Saved s f k₁) (hp : k₁.live? p.id = some p) (h : k₁.Affects s p.id p c p') :
      Alters k (.trap cpu f) slot p p'
  /-- A processor is taken from the process that it runs. -/
  | paused {slot cpu : Nat} {f : TrapFrame} {p : Process} (hcause : Preempts f)
      (hcur : k.current? cpu = some p.id) (hrun : p.status = .running)
      (hres : p.resident = some cpu) : Alters k (.trap cpu f) slot p { p with status := .runnable }
  /-- A processor gives up a process that does not run. -/
  | givenUp {slot cpu : Nat} {f : TrapFrame} {p : Process} (hres : p.resident = some cpu)
      (hrun : p.status ≠ .running) : Alters k (.trap cpu f) slot p { p with resident := none }
  /-- A process is dispatched, and its processor is told its registers. -/
  | dispatched {op : Operation} {slot cpu : Nat} {p : Process} (hready : p.dispatchable)
      (houtcome : op.outcome? k = some (.user p.id p.frame)) :
      Alters k op slot p (dispatched cpu p)
  /-- A process is destroyed. -/
  | doomed {op : Operation} {slot : Nat} {p : Process} (hlive : p.status.isLive) :
      Alters k op slot p p.doomed
  /-- A process that is dying is cleared away. -/
  | cleared {op : Operation} {slot : Nat} {p : Process} (hdying : p.status = .dying) :
      Alters k op slot p p.cleared
  /-- A process is made. -/
  | made {op : Operation} {slot space : Nat} {p : Process} {id parent : ProcessId}
      {status : ProcessStatus} (hfree : p.status = .free)
      (hp : k.table.records[slot]? = some p)
      (hissue : op.issue? k = some (slot, id)) (hs : status = .runnable ∨ status = .notRunnable) :
      Alters k op slot p (fresh id parent status space)
  /-- A child is to resume where its parent does. -/
  | inherits {slot cpu : Nat} {f : TrapFrame} {p : Process} (huser : f.isUser)
      (hissue : issue? k (.trap cpu f) = some (slot, p.id)) :
      Alters k (.trap cpu f) slot p { p with frame := f.withResult 0 }
  /-- A process whose program is loaded is set going. -/
  | loaded {slot : Nat} {image : Image} {p : Process} (hheld : p.status = .notRunnable)
      (hok : (k.spawn image).1 = .ok p.id)
      (hissue : issue? k (.spawn image) = some (slot, p.id)) :
      Alters k (.spawn image) slot p { p with status := .runnable }

lemma alters_ends : Ends (op.Alters k) := ⟨fun _ _ => .doomed, fun _ _ => .cleared⟩

/-! ### Traps -/

/-- A processor that dispatches a process at the end of a trap. -/
lemma alters_dispatched (slot : Nat) (p : Process) (hready : p.dispatchable)
    (h : (k.trap cpu f).1 = .user p.id p.frame) :
    (Operation.trap cpu f).Alters k slot p (dispatched cpu p) :=
  .dispatched hready (congrArg some h)

/-- A child of the caller is made, and resumes where the caller does. -/
lemma course_exofork {answer : UInt32} (hk : k₁.Sound) (hcur : k.current? cpu = some s)
    (hcalls : k.Calls s f .exofork) (hsaved : k.Saved s f k₁)
    (h : k₁.exofork s = .ok (answer, k₂)) :
    Course ((Operation.trap cpu f).Alters k) k₁ k₂ := by
  obtain ⟨p₀, hp₀⟩ := Option.isSome_iff_exists.1 hcalls.2.1
  have hp := hsaved.live? hp₀
  obtain ⟨parent, child, k₃, hparent, hmade, rfl, rfl⟩ := Kernel.exofork_cases h
  obtain rfl := Option.some.inj (hp.symm.trans hparent)
  have hissue : ∀ slot, k₁.table.free.head? = some slot →
      issue? k (.trap cpu f) = some (slot, child) := fun slot hslot => by
    rw [issue?, hcur, Option.bind_some, if_pos hcalls, ← hsaved.issue?]
    exact Kernel.issue?_of_allocateAs hmade hslot
  have hbegin : Course ((Operation.trap cpu f).Alters k) k₁ k₃ :=
    Kernel.course_allocateAs hk hmade fun slot q space hslot hq hs => by
      by_cases hself : s.slot = slot
      · -- the caller's own slot is in use
        subst hself
        rw [(Kernel.live?_eq_some_iff.1 hp).1] at hq
        cases hq
        exact absurd hs (ProcessStatus.ne_free_of_isLive (Kernel.live?_eq_some_iff.1 hp).2.2)
      · rw [hsaved.record, if_neg hself] at hq
        exact .made hs hq (hissue slot hslot) (.inr rfl)
  refine (hbegin.trans ?_).trans (.quiet (Kernel.quiet_log _ _))
  obtain ⟨space, hchild⟩ := Kernel.live?_of_allocateAs hk rfl hmade
  obtain ⟨_, _, _, _, -, -, hfree, -⟩ := Kernel.allocateAs_takes hk hmade
  have hhead : k₁.table.free.head? = some child.slot := by rw [hfree]; rfl
  exact .edit hchild (.inherits hcalls.1 (hissue child.slot hhead))

/-- An interrupt is serviced, and the processor is taken from its process. -/
lemma course_interrupt (hcause : Preempts f) (hcur : k.current? cpu = some id)
    (cause : TrapCause) : Course ((Operation.trap cpu f).Alters k) k₁
      ((k₁.acknowledgeInterrupt cpu cause).preempt cpu id) := by
  have hserviced : Course ((Operation.trap cpu f).Alters k) k₁
      (k₁.acknowledgeInterrupt cpu cause) := .quiet (Kernel.quiet_acknowledgeInterrupt _)
  refine hserviced.trans (Kernel.course_preempt alters_ends (fun p hp hrun hres => ?_)
    fun p hres hrun => .givenUp hres hrun)
  obtain ⟨-, rfl, -⟩ := Kernel.live?_eq_some_iff.1 hp
  exact .paused hcause hcur hrun hres

/-- What the kernel does about a trap of a process that it has bound. -/
lemma course_handle (hk : k.Sound) (hcur : k.current? cpu = some id) (hp : k.live? id = some p)
    (hres : p.resident = some cpu) (huser : f.isUser) :
    Course ((Operation.trap cpu f).Alters k) (k.entered cpu id f)
      ((k.entered cpu id f).handle cpu id f).2 := by
  have hsaved := Kernel.entered_saved k cpu id f
  have hsound := hsaved.sound hk hp
  have hp₁ := hsaved.live? hp
  cases hcause : TrapCause.ofNumber f.trapno with
  | pageFault =>
    rw [Kernel.handle, hcause]
    exact Kernel.course_pageFault alters_ends fun _ _ _ _ => .redirected
  | syscall =>
    obtain ⟨request, heq⟩ := Kernel.handle_performed cpu hp hcause
    have hends : ∀ k₁ : Kernel, Course ((Operation.trap cpu f).Alters k) k₁
        (k₁.conclude cpu id request (k.performed cpu id f).1).2 := fun k₁ =>
      Kernel.course_conclude alters_ends fun _ _ _ => .answered
    rw [heq]
    refine Course.trans ?_ (hends _)
    -- the kernel that performs the call has the same records
    have hsame : ∀ {k₁ : Kernel}, k.Saved id f k₁ →
        k₁.table.records = (k.entered cpu id f).table.records := fun h =>
      Array.ext_getElem? fun slot => by rw [h.record, hsaved.record]
    cases hc : Syscall.decode f.call with
    | error e =>
      obtain ⟨k₁, hsaved₁, heq₁⟩ := Kernel.performed_error k id cpu hc
      rw [heq₁]
      exact .of_records (hsame hsaved₁)
    | ok c =>
      obtain ⟨k₁, hsaved₁, heq₁⟩ := Kernel.performed_ok k id cpu hc
      have hcalls : k.Calls id f c := ⟨huser, by rw [hp]; rfl, hcause, hc⟩
      have hk₁ := hsaved₁.sound hk hp
      rw [heq₁]
      refine (Course.of_records (hsame hsaved₁)).trans ?_
      refine Kernel.course_execute hk₁ (hsaved₁.live? hp) hres alters_ends
        (fun q q' hq h => .called hcur hcalls hsaved₁ hq h) fun answer k₂ hfork h => ?_
      subst hfork
      exact course_exofork hk₁ hcur hcalls hsaved₁ h
  | timer =>
    rw [Kernel.handle, hcause]
    exact course_interrupt (by rwa [Preempts, if_pos huser]) hcur _
  | unexpected trapno =>
    rw [Kernel.handle, hcause]
    dsimp only
    exact (Course.quiet ((Kernel.quiet_log _ _).trans (Kernel.quiet_audit _ _))).trans
      (Kernel.course_destroyOn alters_ends)
  | reschedule | spurious | controllerError | device =>
    rw [Kernel.handle, hcause]
    exact .quiet (Kernel.quiet_acknowledgeInterrupt _)

/-- A trap out of user code. -/
lemma course_userTrap (hk : k.Sound) (hcur : k.current? cpu = some id) (huser : f.isUser) :
    Course ((Operation.trap cpu f).Alters k) k (k.trap cpu f).2 := by
  rcases Kernel.live?_of_current hk hcur with ⟨p, hp, hres⟩ | hgone
  · have htrap := Kernel.trap_entered hcur hp hres huser
    have hsave : Course ((Operation.trap cpu f).Alters k) k (k.entered cpu id f) := by
      obtain ⟨hrec, rfl, -⟩ := Kernel.live?_eq_some_iff.1 hp
      refine .modify p.id.slot (fun p => { p with frame := f }) rfl fun q hq => ?_
      rw [hrec] at hq
      cases hq
      exact .single (.saved hcur huser)
    refine (hsave.trans (course_handle hk hcur hp hres huser)).trans ?_
    rw [htrap]
    exact Kernel.course_leave alters_ends (fun _ => .givenUp) (htrap ▸ alters_dispatched)
  · -- what the processor had bound is gone
    obtain ⟨c, hc, hcid⟩ := Option.bind_eq_some_iff.1 hcur
    have hcount : k.Quiet (k.modifyCpu cpu fun c => { c with traps := c.traps + 1 }) :=
      Kernel.quiet_countTrap
    have hnot :
        ¬ (k.modifyCpu cpu fun c => { c with traps := c.traps + 1 }).isBound cpu id = true :=
      fun h => by
        obtain ⟨p, hp, -⟩ := Kernel.isBound_iff.1 h
        rw [hcount.live?, hgone] at hp
        cases hp
    obtain ⟨k₁, hk₁, htrap⟩ : ∃ k₁, Course ((Operation.trap cpu f).Alters k) k k₁ ∧
        k.trap cpu f = k₁.schedule cpu := by
      have hcleared : Course ((Operation.trap cpu f).Alters k) k
          (((k.modifyCpu cpu fun c => { c with traps := c.traps + 1 }).log .debug
            s!"cpu {cpu}: {id} is gone").clearStale cpu id) :=
        (Course.quiet (hcount.trans (Kernel.quiet_log _ _))).trans
          (Kernel.course_clearStale alters_ends)
      rw [Kernel.trap, hc]
      dsimp only
      rw [if_pos huser, hcid, Kernel.userTrap]
      dsimp only
      rw [if_neg hnot]
      by_cases hint : (TrapCause.ofNumber f.trapno).isInterrupt
      · rw [if_pos hint]
        exact ⟨_, hcleared.trans (.quiet (Kernel.quiet_acknowledgeInterrupt _)), rfl⟩
      · rw [if_neg hint]
        exact ⟨_, hcleared, rfl⟩
    exact Kernel.course_of_schedule hk₁ htrap alters_dispatched

/-- A trap inside the kernel, on a processor that has a process bound. -/
lemma course_kernelTrap (hcur : k.current? cpu = some id) (huser : ¬ f.isUser) :
    Course ((Operation.trap cpu f).Alters k) k (k.trap cpu f).2 := by
  obtain ⟨c, hc, hcid⟩ := Option.bind_eq_some_iff.1 hcur
  have hcount : Course ((Operation.trap cpu f).Alters k) k
      (k.modifyCpu cpu fun c => { c with traps := c.traps + 1 }) :=
    .quiet Kernel.quiet_countTrap
  have heq : k.trap cpu f = (k.modifyCpu cpu fun c => { c with traps := c.traps + 1 }).kernelTrap
      cpu (some id) f := by
    rw [Kernel.trap, hc]
    dsimp only
    rw [if_neg huser, hcid]
  rw [Kernel.kernelTrap] at heq
  by_cases hint : (TrapCause.ofNumber f.trapno).isInterrupt
  · have hcause : Preempts f := by rwa [Preempts, if_neg huser]
    dsimp only at heq
    rw [if_pos hint] at heq
    exact Kernel.course_of_schedule (hcount.trans (course_interrupt hcause hcur _)) heq
      alters_dispatched
  · dsimp only at heq
    rw [if_neg hint] at heq
    rw [heq]
    dsimp only
    exact hcount.trans (.quiet (Kernel.quiet_log _ _))

/-- **What a trap does to the records.** -/
lemma course_trap (hk : k.Sound) :
    Course ((Operation.trap cpu f).Alters k) k (k.trap cpu f).2 := by
  cases hcur : k.current? cpu with
  | none =>
    rcases Kernel.trap_idle (f := f) hcur with ⟨k₁, hk₁, heq⟩ | ⟨k₁, panic, hk₁, heq⟩
    · exact Kernel.course_of_schedule (.quiet hk₁) heq alters_dispatched
    · rw [heq]
      exact .quiet hk₁
  | some id =>
    by_cases huser : f.isUser
    · exact course_userTrap hk hcur huser
    · exact course_kernelTrap hcur huser

/-! ### Processes that begin -/

lemma course_spawn (hk : k.Sound) (image : Image) :
    Course ((Operation.spawn image).Alters k) k (k.spawn image).2 := by
  by_cases hloadable : image.isLoadable
  · cases hmade : k.allocateAs .self .notRunnable with
    | error e =>
      rw [Kernel.spawn, if_pos hloadable, hmade]
      exact .refl
    | ok r =>
      obtain ⟨id, k₁⟩ := r
      have hissue : ∀ slot, k.table.free.head? = some slot →
          issue? k (.spawn image) = some (slot, id) := fun slot hslot => by
        rw [issue?, if_pos hloadable]
        exact Kernel.issue?_of_allocateAs hmade hslot
      have hbegin : Course ((Operation.spawn image).Alters k) k k₁ :=
        Kernel.course_allocateAs hk hmade fun slot q space hslot hq hs =>
          .made hs hq (hissue slot hslot) (.inr rfl)
      have hload : Course ((Operation.spawn image).Alters k) k₁ (k₁.load id image).2 :=
        Kernel.course_load fun _ _ _ _ => .redirected
      obtain ⟨space, hnew⟩ := Kernel.live?_of_allocateAs hk rfl hmade
      obtain ⟨m, -, -, frame, hp⟩ := Kernel.load_stages hnew rfl image
      cases hr : k₁.load id image with
      | mk result k₂ =>
        rw [hr] at hload hp
        cases result with
        | error e =>
          rw [Kernel.spawn, if_pos hloadable, hmade]
          dsimp only
          rw [hr]
          exact (hbegin.trans hload).trans (Kernel.course_free alters_ends)
        | ok _ =>
          have hok : (k.spawn image).1 = .ok id := by
            rw [Kernel.spawn, if_pos hloadable, hmade]
            dsimp only
            rw [hr]
          obtain ⟨_, _, _, _, -, -, hfree, -⟩ := Kernel.allocateAs_takes hk hmade
          have hhead : k.table.free.head? = some id.slot := by rw [hfree]; rfl
          rw [Kernel.spawn, if_pos hloadable, hmade]
          dsimp only
          rw [hr]
          exact ((hbegin.trans hload).trans
            (.edit hp (.loaded rfl hok (hissue id.slot hhead)))).trans
            (.quiet (Kernel.quiet_log _ _))
  · rw [Kernel.spawn, if_neg hloadable]
    exact .refl

lemma course_allocate (hk : k.Sound) (parent : ProcessId) :
    Course ((Operation.allocate parent).Alters k) k (apply k (.allocate parent)) := by
  rw [apply, Kernel.allocate]
  cases hmade : k.allocateAs parent .runnable with
  | error e => exact .refl
  | ok r =>
    refine Course.trans ?_ (.quiet (Kernel.quiet_log _ _))
    exact Kernel.course_allocateAs hk hmade fun slot q space hslot hq hs =>
      .made hs hq (Kernel.issue?_of_allocateAs hmade hslot) (.inl rfl)

/-! ### Any operation -/

/-- **What an operation does to the records**: each goes through a row of such steps. -/
lemma course (hk : k.Sound) (op : Operation) : Course (op.Alters k) k (op.apply k) := by
  cases op with
  | spawn image => exact course_spawn hk image
  | allocate parent => exact course_allocate hk parent
  | destroy cpu id =>
    rw [apply, Kernel.destroy]
    cases k.live? id with
    | none => exact .refl
    | some p => exact Kernel.course_destroyOn alters_ends
  | trap cpu f => exact course_trap hk
  | schedule cpu =>
    exact Kernel.course_schedule fun _ p hready hres => .dispatched hready (congrArg some hres)
  | latch cpu va => exact .of_records rfl
  | store s va data => exact .of_records rfl

end Operation

end Exokernel
