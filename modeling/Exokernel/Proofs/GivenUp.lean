/-
Accesses that are given up.

The bench reports an access that it gives up as if the kernel had destroyed the process.

* `Bench.GivenUp`: **why an access is given up**, and who is left then;
* `Bench.Stranded`: a process that is told of its fault, and does not come to mend it;
* `Bench.enter_userTrap`: whom a processor goes on with after a trap of user code;
* `Active.elsewhere`, `Active.untold`, `held`: **what comes of a fault** that is not mended;
* `Active.givenUp`, `Reachable.givenUp`: an access is given up for no other reason;
* `Reachable.stranded`: whoever is stranded outlives its access;
* `access_given_up`: **accesses that are given up**, and stores to pages that are to be copied;
* `terminated_of_living`: the process that stores to four such pages is not gone.
-/
import Exokernel.Proofs.Bench.Rounds
import Exokernel.Proofs.Panics
import Exokernel.Proofs.Statuses

namespace Exokernel

open Layout

namespace Bench

/-- **Why an access of process `o` is given up**, if it has to be given copies of `copies s` pages
in address space `s`. The process is gone: it was so before, or it cannot be told of its fault. Or
somebody has stopped it since it was dispatched. Or it runs on, since its handler is not the one
that makes copies, or since that has made one for every attempt. -/
inductive GivenUp (t : Bench) (cpu : Nat) (o : Occupant) (copies : Nat → Nat) (t' : Bench) :
    Prop where
  | gone (hgone : t'.kernel.live? o.id = none)
      (huntold : ∀ p s, t.kernel.live? o.id = some p → p.space = some s →
        ¬ p.Tellable t.kernel.machine s o.frame.esp)
  | stopped {p : Process} (hp : t.kernel.live? o.id = some p) (hstatus : p.status ≠ .running)
  | elsewhere {p : Process} {s : Nat} {entry : VirtAddr} (hp : t.kernel.live? o.id = some p)
      (hs : p.space = some s) (htell : p.Tellable t.kernel.machine s o.frame.esp)
      (hentry : p.faultHandler = some entry) (hne : entry ≠ .ofNat handlerEntry)
      (hruns : ∃ f, t'.Running cpu o.id f)
  | exhausted {p : Process} {s : Nat} (hp : t.kernel.live? o.id = some p) (hs : p.space = some s)
      (htell : p.Tellable t.kernel.machine s o.frame.esp)
      (hentry : p.faultHandler = some (.ofNat handlerEntry)) (hcopies : maxFaults ≤ copies s)
      (hruns : ∃ f, t'.Running cpu o.id f)

/-- **A process that is stranded by its page faults**: it is held, or its handler is not the one
that makes copies. -/
def Stranded (p : Process) : Prop :=
  p.status = .notRunnable ∨
    p.status = .running ∧ ∃ entry, p.faultHandler = some entry ∧ entry ≠ .ofNat handlerEntry

end Bench

/-! ### Faults that are not mended -/

namespace Kernel

variable {k : Kernel} {cpu : Nat} {id : ProcessId} {p : Process} {f : TrapFrame}

/-- **A process that is held** does not go on after a page fault. -/
lemma trap_held (hk : k.Sound) (hp : k.live? id = some p) (hheld : p.status = .notRunnable)
    (hcause : TrapCause.ofNumber f.trapno = .pageFault) (g : TrapFrame) :
    (k.trap cpu f).1 ≠ .user id g := by
  -- a page fault makes no call
  have hcalls : ∀ {s : ProcessId} {c : Syscall}, ¬ k.Calls s f c := fun hcalls => by
    have hcall := hcalls.2.2.1
    rw [hcause] at hcall
    cases hcall
  have hissue : Operation.issue? k (.trap cpu f) = none := by
    rw [Operation.issue?]
    cases k.current? cpu with
    | none => rfl
    | some s => exact if_neg hcalls
  have hasleep : (Operation.trap cpu f).resumed? k ≠ some id := by
    have hlegal : (Operation.trap cpu f).Legal k := trivial
    refine (Operation.asleep hk hlegal (fun q hq => ?_) (by rw [hissue]; rintro ⟨⟩) ?_ ?_).1
    · rw [hp] at hq
      cases hq
      exact hheld
    · rintro ⟨_, _, _, _, _, hsends⟩
      cases hsends with
      | trap hcur hc ht hv => exact hcalls hc
    · intro hrouses
      cases hrouses with
      | trap hcur hc ht => exact hcalls hc
  intro hresumed
  refine hasleep ?_
  rw [Operation.resumed?]
  exact Option.bind_eq_some_iff.2 ⟨_, congrArg some hresumed, rfl⟩

end Kernel

/-- **Nothing stops a processor** at a trap of user code, and it goes on with whomever the kernel
resumes. -/
lemma Bench.enter_userTrap {t : Bench} {cpu : Nat} {id : ProcessId} {f : TrapFrame}
    (hk : t.kernel.Sound) (hcur : t.kernel.current? cpu = some id) (huser : f.isUser = true) :
    ∃ now t', t.enter cpu (t.kernel.trap cpu f) = (.ok now, t') ∧
      t'.kernel = (t.kernel.trap cpu f).2 ∧
      ∀ other, now = some other → ∃ g, (t.kernel.trap cpu f).1 = .user other g := by
  rcases hresume : t.kernel.trap cpu f with ⟨⟨other, g⟩ | _ | panic, k'⟩
  · exact ⟨some other, _, rfl, rfl, fun _ heq => ⟨g, by rw [Option.some.inj heq]⟩⟩
  · exact ⟨none, _, rfl, rfl, nofun⟩
  · refine absurd (congrArg Prod.fst hresume)
      (Kernel.trap_ne_halt hk (Kernel.lt_size_of_current? hcur) ?_)
    rw [if_pos huser, hcur]
    rfl

namespace UserContext

open Bench Kernel

variable {config : Config} {frames cpu s : Nat} {id : ProcessId} {t t' : Bench} {p : Process}
  {f : TrapFrame} {entry : VirtAddr}

/-- A fault of a process that runs is one that it takes on its processor. -/
lemma Active.takesFault (h : (⟨t, cpu, id⟩ : UserContext).Active config frames cpu id s f)
    (hp : t.kernel.live? id = some p) (err : UInt32) :
    t.kernel.TakesFault cpu id p (faultFrame f err) ∧ p.space = some s := by
  obtain ⟨-, -, -, ⟨-, g, q, hq, hrun, hres, -⟩, huser, hspace⟩ := h
  cases hp.symm.trans hq
  obtain ⟨q, hq, hs⟩ := spaceOf?_eq_some_iff.1 hspace
  cases hp.symm.trans hq
  exact ⟨⟨hp, hrun, hres, huser, rfl⟩, hs⟩

/-- **A process whose handler is another one** is told of its fault, and the bench leaves it
there. -/
lemma Active.elsewhere (h : (⟨t, cpu, id⟩ : UserContext).Active config frames cpu id s f)
    (hp : t.kernel.live? id = some p) (htell : p.Tellable t.kernel.machine s f.esp)
    (hentry : p.faultHandler = some entry) (hne : entry ≠ .ofNat handlerEntry) (err : UInt32) :
    ∃ t' f', t.enter cpu (t.kernel.trap cpu (faultFrame f err)) = (.ok (some id), t') ∧
      t'.resumeFaulting cpu id s = (.error .terminated, t') ∧ t'.Running cpu id f' := by
  obtain ⟨hfault, hs⟩ := h.takesFault hp err
  obtain ⟨entry', plan, hentry', -, hresumed, -⟩ := hfault.told h.reachable.kernel hs htell
  obtain rfl : entry' = entry := Option.some.inj (hentry'.symm.trans hentry)
  obtain ⟨hnow, hocc'⟩ := occupant?_enter_user (lt_size_of_occupant? h.running.occupant) hresumed
  have hruns := (trap_tells h.reachable.sound).user _ _ hresumed
  have hkernel : (t.enter cpu (t.kernel.trap cpu (faultFrame f err))).2.kernel = _ := kernel_enter
  rw [← hkernel] at hruns
  refine ⟨_, _, Prod.ext hnow rfl, ?_, hocc', _, hruns⟩
  have hplace : entry'.word.toNat ≠ handlerEntry := fun heq =>
    hne ((VirtAddr.ofNat_toNat entry').symm.trans (congrArg VirtAddr.ofNat heq))
  rw [resumeFaulting, of?_of_occupant? hocc', frame?_of_occupant? hocc']
  dsimp only
  rw [if_neg hplace]

/-- **A process that cannot be told** of its fault is gone then. -/
lemma Active.untold (h : (⟨t, cpu, id⟩ : UserContext).Active config frames cpu id s f)
    (hp : t.kernel.live? id = some p) (hnot : ¬ p.Tellable t.kernel.machine s f.esp)
    (err : UInt32) : ∃ now t', t.enter cpu (t.kernel.trap cpu (faultFrame f err)) = (.ok now, t') ∧
      now ≠ some id ∧ t'.kernel.live? id = none := by
  obtain ⟨hfault, hs⟩ := h.takesFault hp err
  have hreach := h.reachable
  have hgone := hfault.gone hreach.sound hs hnot
  have hcur := (hreach.sound.current?_iff hp).2 hfault.resident
  obtain ⟨now, t', hentered, hkernel, hnow⟩ :=
    enter_userTrap (f := faultFrame f err) hreach.sound hcur hfault.user
  refine ⟨now, t', hentered, fun heq => ?_, hkernel ▸ hgone⟩
  -- whoever a processor is told to run is there
  obtain ⟨g, hresumed⟩ := hnow id heq
  obtain ⟨q, hq, -⟩ := (trap_tells hreach.sound).user _ _ hresumed
  rw [hgone] at hq
  cases hq

/-- **A process that is held** is told of its fault as well, and another one runs on its
processor. -/
lemma held (hreach : t.Reachable config frames) (hp : t.kernel.live? id = some p)
    (hheld : p.status = .notRunnable) (hres : p.resident = some cpu) (huser : f.isUser)
    (hs : p.space = some s) (htell : p.Tellable t.kernel.machine s f.esp) (err : UInt32) :
    ∃ now t', t.enter cpu (t.kernel.trap cpu (faultFrame f err)) = (.ok now, t') ∧
      now ≠ some id ∧ (t'.kernel.live? id).isSome := by
  have hk := hreach.sound
  obtain ⟨q, hq⟩ := live?_trap_of_tellable (f := faultFrame f err) hk hp hres huser rfl hs htell
  obtain ⟨now, t', hentered, hkernel, hnow⟩ :=
    enter_userTrap (f := faultFrame f err) hk ((hk.current?_iff hp).2 hres) huser
  refine ⟨now, t', hentered, fun heq => ?_, Option.isSome_iff_exists.2 ⟨q, hkernel ▸ hq⟩⟩
  obtain ⟨g, hresumed⟩ := hnow id heq
  exact trap_held hk hp hheld rfl g hresumed

end UserContext

/-! ### Why accesses are given up -/

section Reasons

open Bench Kernel UserContext

variable {config : Config} {frames cpu s : Nat} {t t' : Bench} {o : Occupant} {id : ProcessId}
  {p : Process} {f : TrapFrame} {α : Type} {op : Machine → Nat → Except MmuFault α × Machine}

/-- **An access of a process that runs is given up** because the process cannot be told of its
fault, or is left at another handler, or has mended as many faults as there are attempts. -/
lemma UserContext.Active.givenUp (h : (⟨t, cpu, id⟩ : UserContext).Active config frames cpu id s f)
    (hp : t.kernel.live? id = some p)
    (hresult : accessWithin cpu op maxFaults t = (.error .terminated, t')) (va : VirtAddr)
    (data : List UInt8) (hmachine : ∀ m s, (op m s).2 = (m.userWrite s va data).2)
    (hrefused : ∀ m s fault, (op m s).1 = .error fault → fault.err &&& FaultCode.write ≠ 0 →
      (m.userWrite s va data).1 = .error fault) :
    t.GivenUp cpu ⟨id, f⟩ (fun s => t.kernel.machine.sealedPages s va data.length) t' := by
  have ho := h.running.occupant
  have hspace : t.kernel.spaceOf? id = some s := h.space
  obtain ⟨q, hq, hs⟩ := spaceOf?_eq_some_iff.1 hspace
  cases hp.symm.trans hq
  by_cases hhere : p.Tellable t.kernel.machine s f.esp ∧
    p.faultHandler = some (.ofNat handlerEntry)
  · obtain ⟨htell, hentry⟩ := hhere
    obtain ⟨x, plan, hhandles, hplan⟩ := htell.handles hp hentry
    obtain ⟨hcopies, hruns⟩ := h.gaveUp hmachine hrefused hhandles hplan hresult
    exact .exhausted hp hs htell hentry hcopies hruns
  rcases hop : op t.kernel.machine s with ⟨fault | a, m⟩
  · obtain rfl : (t.kernel.machine.userWrite s va data).2 = m :=
      (hmachine _ _).symm.trans (congrArg Prod.snd hop)
    have hlatched := (h.attempted va data).latched fault.va
    by_cases htell : p.Tellable t.kernel.machine s f.esp
    · obtain ⟨entry, hentry, -⟩ := htell.handler
      have hne : entry ≠ .ofNat handlerEntry := fun heq => hhere ⟨htell, heq ▸ hentry⟩
      obtain ⟨t₁, f₁, hentered, hresumed, hruns⟩ := hlatched.elsewhere hp
        ⟨htell.handler, htell.stack, htell.room⟩ hentry hne fault.err
      rw [accessWithin_refused ho hspace hop hentered, if_pos rfl, hresumed] at hresult
      cases hresult
      exact .elsewhere hp hs htell hentry hne ⟨f₁, hruns⟩
    · obtain ⟨now, t₁, hentered, hnow, hgone⟩ := hlatched.untold hp
        (fun htell' => htell ⟨htell'.handler, htell'.stack, htell'.room⟩) fault.err
      rw [accessWithin_refused ho hspace hop hentered, if_neg hnow] at hresult
      cases hresult
      refine .gone hgone fun p' s' hp' hs' => ?_
      cases hp.symm.trans hp'
      cases hs.symm.trans hs'
      exact htell
  · rw [accessWithin_ok ho hspace hop] at hresult
    cases hresult

/-- An access of a process that the processor does not claim, or that does not run user code, is not
given up, but stops the processor. -/
lemma Bench.accessWithin_unbound {va : VirtAddr} {data : List UInt8}
    (ho : t.occupant? cpu = some ⟨id, f⟩) (hs : t.kernel.spaceOf? id = some s)
    (hmachine : ∀ m s, (op m s).2 = (m.userWrite s va data).2)
    (hhalts : t.kernel.current? cpu = none ∨ f.isUser = false) (n : Nat) :
    accessWithin cpu op (n + 1) t ≠ (.error .terminated, t') := by
  intro hresult
  rcases hop : op t.kernel.machine s with ⟨fault | a, m⟩
  · obtain rfl : (t.kernel.machine.userWrite s va data).2 = m :=
      (hmachine _ _).symm.trans (congrArg Prod.snd hop)
    obtain ⟨k', panic, -, htrap⟩ := trap_halted (f := faultFrame f fault.err)
      (k := (t.withMachine
        ((t.kernel.machine.userWrite s va data).2.latchFault cpu fault.va)).kernel)
      Bool.false_ne_true hhalts
    rw [accessWithin_halted ho hs hop (congrArg (Bench.enter _ cpu) htrap)] at hresult
    cases hresult
  · rw [accessWithin_ok ho hs hop] at hresult
    cases hresult

/-- **An access is given up for no other reason.** -/
lemma Bench.Reachable.givenUp (h : t.Reachable config frames) (ho : t.occupant? cpu = some o)
    (hresult : accessWithin cpu op maxFaults t = (.error .terminated, t')) (va : VirtAddr)
    (data : List UInt8) (hmachine : ∀ m s, (op m s).2 = (m.userWrite s va data).2)
    (hrefused : ∀ m s fault, (op m s).1 = .error fault → fault.err &&& FaultCode.write ≠ 0 →
      (m.userWrite s va data).1 = .error fault) :
    t.GivenUp cpu o (fun s => t.kernel.machine.sealedPages s va data.length) t' := by
  obtain ⟨id, f⟩ := o
  cases hspace : t.kernel.spaceOf? id with
  | none =>
    have hnone : ∀ p, t.kernel.live? id ≠ some p := fun p hp => by
      obtain ⟨s, hs⟩ := spaceOf?_of_live? h.sound hp
      rw [hspace] at hs
      cases hs
    rw [accessWithin_gone ho hspace] at hresult
    cases hresult
    exact .gone (Option.eq_none_iff_forall_ne_some.2 hnone) fun p s hp => absurd hp (hnone p)
  | some s =>
    obtain ⟨p, hp, hs⟩ := spaceOf?_eq_some_iff.1 hspace
    by_cases hstatus : p.status = .running
    · by_cases hhalts : t.kernel.current? cpu = none ∨ f.isUser = false
      · exact absurd hresult (accessWithin_unbound ho hspace hmachine hhalts 3)
      · obtain ⟨hbound, huser⟩ := not_or.1 hhalts
        have hres := (h.sound.current?_iff hp).1 ((h.sync ho).resolve_right hbound)
        have hactive : (⟨t, cpu, id⟩ : UserContext).Active config frames cpu id s f :=
          ⟨h, rfl, rfl, ⟨ho, _, p, hp, hstatus, hres, rfl⟩, by rwa [Bool.not_eq_false] at huser,
            hspace⟩
        exact hactive.givenUp hp hresult va data hmachine hrefused
    · exact .stopped hp hstatus

/-- **A process that is stranded** outlives its access. -/
lemma Bench.Reachable.stranded (h : t.Reachable config frames) (ho : t.occupant? cpu = some o)
    (huser : o.frame.isUser) {p : Process} (hp : t.kernel.live? o.id = some p)
    (hres : p.resident = some cpu) (hs : p.space = some s)
    (htell : p.Tellable t.kernel.machine s o.frame.esp) (hstranded : Stranded p)
    {fault : MmuFault} (hrefused : (op t.kernel.machine s).1 = .error fault) (va : VirtAddr)
    (data : List UInt8)
    (hmachine : (op t.kernel.machine s).2 = (t.kernel.machine.userWrite s va data).2) (n : Nat) :
    ∃ t', accessWithin cpu op (n + 1) t = (.error .terminated, t') ∧
      (t'.kernel.live? o.id).isSome := by
  obtain ⟨id, f⟩ := o
  have hspace : t.kernel.spaceOf? id = some s := spaceOf?_eq_some_iff.2 ⟨p, hp, hs⟩
  have hop : op t.kernel.machine s = (.error fault, _) := Prod.ext hrefused hmachine
  have htell' : p.Tellable (t.withMachine ((t.kernel.machine.userWrite s va data).2.latchFault cpu
      fault.va)).kernel.machine s f.esp := ⟨htell.handler, htell.stack, htell.room⟩
  rcases hstranded with hheld | ⟨hstatus, entry, hentry, hne⟩
  · have hlatched := (h.operate (.store s va data) trivial).operate (.latch cpu fault.va) trivial
    obtain ⟨now, t', hentered, hnow, hlive⟩ :=
      UserContext.held (f := f) hlatched hp hheld hres huser hs htell' fault.err
    exact ⟨t', by rw [accessWithin_refused ho hspace hop hentered, if_neg hnow], hlive⟩
  · have hactive : (⟨t, cpu, id⟩ : UserContext).Active config frames cpu id s f :=
      ⟨h, rfl, rfl, ⟨ho, _, p, hp, hstatus, hres, rfl⟩, huser, hspace⟩
    obtain ⟨t', f', hentered, hresumed, -, g, q, hq, -⟩ :=
      ((hactive.attempted va data).latched fault.va).elsewhere hp htell' hentry hne fault.err
    refine ⟨t', ?_, Option.isSome_iff_exists.2 ⟨q, hq⟩⟩
    rw [accessWithin_refused ho hspace hop hentered, if_pos rfl, hresumed]

end Reasons

/-! ### Accesses -/

section Accesses

open Bench Kernel UserContext

variable {config : Config} {frames cpu : Nat} {t : Bench} {o : Occupant}

/-- A program has made four of its pages to be copied, among them that of the code of its handler,
and is about to store to them. -/
lemma four_to_copy {data : List UInt8} (hlen : data.length = 8194) :
    ∃ t : Bench, t.Driven { maxProcesses := 2 } 32 ∧
      t.Running 0 (ProcessId.self.next 0) ((t.frame? 0).getD (.initial 0)) ∧
      t.kernel.spaceOf? (ProcessId.self.next 0) = some 1 ∧
      StoreReady t.kernel (ProcessId.self.next 0) 1 10
        ⟨.ofNat (exceptionStackTop - FaultFrame.size), false⟩ ((t.frame? 0).getD (.initial 0))
        (.ofNat (dataPage - 1)) data.length ∧
      t.kernel.machine.Storable 1 (.ofNat (dataPage - 1)) data.length ∧
      t.kernel.machine.sealedPages 1 (.ofNat (dataPage - 1)) data.length + 1 <
        t.kernel.machine.freeFrames ∧
      maxFaults ≤ t.kernel.machine.sealedPages 1 (.ofNat (dataPage - 1)) data.length := by
  have hboot : Reachable { maxProcesses := 2 } 32 _ := .boot rfl (.refl _) rfl
  have hstart := ((Bench.Driven.begin (hboot.step
    (.spawn ⟨.ofNat textBase, [.readWrite (.ofNat textBase) [7] 0x3001]⟩) trivial)).schedule 0
      rfl).calls 0 ([.pageAlloc .self Program.exceptionStack .userWrite,
        .setFaultHandler .self (.ofNat handlerEntry)] ++
      (List.range 4).map fun i => .pageMap .self (.ofNat (textBase + i * pageSize)) .self
        (.ofNat (textBase + i * pageSize)) (Program.readOnlyCopy .userWrite))
  rw [hlen]
  exact ⟨_, hstart, by decide +kernel⟩

/-- **Accesses that are given up.** A store or a load is given up only for the reasons of
`Bench.GivenUp`: so one of a process that runs, can be told of its faults and has the handler that
makes copies, is given up only if it is a store to four pages or more that cannot be written.
Whoever is stranded outlives every access that is refused. And a store to pages that can be written
or are to be copied, of a process that is ready for it and has frames for the copies, succeeds if
there are fewer than four copies to make. If there are more, it is given up, and the process goes on
where it was. -/
theorem access_given_up (hbench : t.Driven config frames) (ho : t.occupant? cpu = some o) :
    (∀ va data t', t.store cpu va data = (.error .terminated, t') →
      t.GivenUp cpu o (fun s => t.kernel.machine.sealedPages s va data.length) t') ∧
    (∀ va len t', t.load cpu va len = (.error .terminated, t') →
      t.GivenUp cpu o (fun _ => 0) t') ∧
    (∀ p s, t.kernel.live? o.id = some p → p.resident = some cpu → p.space = some s →
      p.Tellable t.kernel.machine s o.frame.esp → Stranded p →
      (∀ va data fault, (t.kernel.machine.userWrite s va data).1 = .error fault →
        ∃ t', t.store cpu va data = (.error .terminated, t') ∧
          (t'.kernel.live? o.id).isSome) ∧
      ∀ va len fault, t.kernel.machine.userRead s va len 0 = .error fault →
        ∃ t', t.load cpu va len = (.error .terminated, t') ∧
          (t'.kernel.live? o.id).isSome) ∧
    ∀ s x plan va data, t.Running cpu o.id o.frame → t.kernel.spaceOf? o.id = some s →
      StoreReady t.kernel o.id s x plan o.frame va data.length →
      t.kernel.machine.Storable s va data.length →
      t.kernel.machine.sealedPages s va data.length + 1 < t.kernel.machine.freeFrames →
      (t.kernel.machine.sealedPages s va data.length < maxFaults →
        ∃ t', t.store cpu va data = (.ok (), t')) ∧
      (maxFaults ≤ t.kernel.machine.sealedPages s va data.length →
        ∃ t' f', t.store cpu va data = (.error .terminated, t') ∧ t'.Running cpu o.id f' ∧
          o.frame.Continues f') := by
  have hreach := hbench.reachable
  have hactive : ∀ {s : Nat}, t.Running cpu o.id o.frame → t.kernel.spaceOf? o.id = some s →
      (⟨t, cpu, o.id⟩ : UserContext).Active config frames cpu o.id s o.frame :=
    fun hrunning hspace => ⟨hreach, rfl, rfl, hrunning, hbench.isUser ho, hspace⟩
  refine ⟨fun va data t' hstore => ?_, fun va len t' hload => ?_,
    fun p s hp hres hs htell hstranded =>
      ⟨fun va data fault hrefused => ?_, fun va len fault hrefused => ?_⟩,
    fun s x plan va data hrunning hspace hready hstorable hfree =>
      ⟨fun hfew => ?_, fun hmany => ?_⟩⟩
  · exact hreach.givenUp ho hstore va data (fun _ _ => rfl) fun _ _ _ hrefused _ => hrefused
  · -- a load is a store of nothing
    exact hreach.givenUp ho hload va [] (fun _ _ => rfl) fun _ _ _ hrefused hwrite =>
      absurd (Machine.userRead_error_code hrefused) hwrite
  · exact hreach.stranded ho (hbench.isUser ho) hp hres hs htell hstranded hrefused va data rfl 3
  · exact hreach.stranded ho (hbench.isUser ho) hp hres hs htell hstranded hrefused va [] rfl 3
  · obtain ⟨t', f', hstore, -⟩ :=
      ((hactive hrunning hspace).stores hready hstorable hfree).store hready hfew
    exact ⟨t', hstore⟩
  · obtain ⟨t', f', hstore, hcontinues, h'⟩ :=
      ((hactive hrunning hspace).stores hready hstorable hfree).gaveUp hready hmany
    exact ⟨t', f', hstore, h'.active.running, hcontinues⟩

/-- A program that stores to four pages that are to be copied is not gone when its store is given
up, and one whose handler is another one is left there by its first fault. -/
theorem access_given_up_four :
    (∃ (t t' : Bench) (f f' : TrapFrame), t.Driven { maxProcesses := 2 } 32 ∧
      t.occupant? 0 = some ⟨ProcessId.self.next 0, f⟩ ∧
      t.store 0 (.ofNat (dataPage - 1)) (.replicate 8194 42) = (.error .terminated, t') ∧
      t.GivenUp 0 ⟨ProcessId.self.next 0, f⟩ (fun s => t.kernel.machine.sealedPages s
        (.ofNat (dataPage - 1)) (List.replicate 8194 (42 : UInt8)).length) t' ∧
      t'.Running 0 (ProcessId.self.next 0) f' ∧ f.Continues f') ∧
    ∃ (t t' : Bench) (f : TrapFrame) (p : Process), t.Driven { maxProcesses := 2 } 32 ∧
      t.occupant? 0 = some ⟨ProcessId.self.next 0, f⟩ ∧
      t.kernel.live? (ProcessId.self.next 0) = some p ∧ Stranded p ∧
      t.store 0 (.ofNat stackTop) [42] = (.error .terminated, t') ∧
      (t'.kernel.live? (ProcessId.self.next 0)).isSome := by
  refine ⟨?_, ?_⟩
  · obtain ⟨t, hdriven, hrunning, hspace, hready, hstorable, hfree, hmany⟩ :=
      four_to_copy (List.length_replicate (a := (42 : UInt8)))
    obtain ⟨hstores, -, -, hruns⟩ := access_given_up hdriven hrunning.occupant
    obtain ⟨t', f', hstore, hruns', hcontinues⟩ :=
      (hruns 1 10 _ _ _ hrunning hspace hready hstorable hfree).2 hmany
    exact ⟨t, t', _, f', hdriven, hrunning.occupant, hstore, hstores _ _ _ hstore, hruns',
      hcontinues⟩
  · have hboot : Reachable { maxProcesses := 2 } 32 _ := .boot rfl (.refl _) rfl
    have hstart := ((Bench.Driven.begin (hboot.step
      (.spawn ⟨.ofNat textBase, [.readWrite (.ofNat textBase) [7] 1]⟩) trivial)).schedule 0
        rfl).calls 0 [.pageAlloc .self Program.exceptionStack .userWrite,
          .setFaultHandler .self (.ofNat textBase)]
    obtain ⟨t, hdriven, ho, hprocess, hplan, hrefused⟩ :
        ∃ t : Bench, t.Driven { maxProcesses := 2 } 32 ∧
          t.occupant? 0 = some ⟨ProcessId.self.next 0, (t.frame? 0).getD (.initial 0)⟩ ∧
          (t.kernel.live? (ProcessId.self.next 0)).map
              (fun p => (p.status, p.faultHandler, p.resident, p.space)) =
            some (.running, some (.ofNat textBase), some 0, some 1) ∧
          planUpcall t.kernel.machine 1 (.ofNat textBase) ((t.frame? 0).getD (.initial 0)) =
            .ok ⟨.ofNat (exceptionStackTop - FaultFrame.size), false⟩ ∧
          (t.kernel.machine.userWrite 1 (.ofNat stackTop) [42]).1 =
            .error ⟨.ofNat stackTop, FaultCode.write ||| FaultCode.user⟩ :=
      ⟨_, hstart, by decide +kernel⟩
    obtain ⟨p, hp, hfields⟩ := Option.map_eq_some_iff.1 hprocess
    obtain ⟨hstatus, hentry, hres, hs⟩ : p.status = .running ∧
        p.faultHandler = some (.ofNat textBase) ∧ p.resident = some 0 ∧ p.space = some 1 := by
      simpa only [Prod.mk.injEq] using hfields
    have hstranded : Stranded p := .inr ⟨hstatus, _, hentry, by decide⟩
    obtain ⟨-, -, hlives, -⟩ := access_given_up hdriven ho
    obtain ⟨t', hstore, hlive⟩ := (hlives p 1 hp hres hs (tellable_iff.2 ⟨_, _, hentry, hplan⟩)
      hstranded).1 _ _ _ hrefused
    exact ⟨t, t', _, p, hdriven, ho, hp, hstranded, hstore, hlive⟩

/-- **The process that stores to four pages that are to be copied is not gone** when its store is
given up, although it has the handler that makes copies and there are frames enough. -/
theorem terminated_of_living : ∃ (t t' : Bench) (f : TrapFrame) (s x : Nat) (plan : UpcallPlan)
    (data : List UInt8), t.Driven { maxProcesses := 2 } 32 ∧
      t.Running 0 (ProcessId.self.next 0) f ∧
      t.kernel.spaceOf? (ProcessId.self.next 0) = some s ∧
      StoreReady t.kernel (ProcessId.self.next 0) s x plan f (.ofNat (dataPage - 1)) data.length ∧
      t.kernel.machine.Storable s (.ofNat (dataPage - 1)) data.length ∧
      t.kernel.machine.sealedPages s (.ofNat (dataPage - 1)) data.length + 1 <
        t.kernel.machine.freeFrames ∧
      t.store 0 (.ofNat (dataPage - 1)) data = (.error .terminated, t') ∧
      (t'.kernel.live? (ProcessId.self.next 0)).isSome := by
  obtain ⟨t, hdriven, hrunning, hspace, hready, hstorable, hfree, hmany⟩ :=
    four_to_copy (List.length_replicate (a := (42 : UInt8)))
  have hactive :
      (⟨t, 0, ProcessId.self.next 0⟩ : UserContext).Active _ _ 0 (ProcessId.self.next 0) 1 _ :=
    ⟨hdriven.reachable, rfl, rfl, hrunning, hdriven.isUser hrunning.occupant, hspace⟩
  obtain ⟨t', f', hstore, -, h'⟩ := (hactive.stores hready hstorable hfree).gaveUp hready hmany
  obtain ⟨-, _, q, hq, -⟩ := h'.active.running
  exact ⟨t, t', _, 1, 10, _, _, hdriven, hrunning, hspace, hready, hstorable, hfree, hstore,
    Option.isSome_iff_exists.2 ⟨q, hq⟩⟩

end Accesses

end Exokernel
