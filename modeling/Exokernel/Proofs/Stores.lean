/-
Stores to pages that are copied on the way.

* `Bench.Driven`: **a bench that is driven** by what the kernel and its programs do;
* `Driven.isUser`: whoever runs there, runs user code;
* `Bench.Stored`: a bench after a store;
* `store_transparent`: **a store succeeds, and only its bytes change**;
* `store_transparent_not_stack`: a page that shows somebody's exception stack changes too.
-/
import Exokernel.Proofs.Bench.Retries
import Exokernel.Proofs.Privileges

namespace Exokernel

open Layout Kernel UserContext

/-! ### Who runs user code -/

section Users

variable {config : Config} {frames : Nat}

/-- **All processes have registers of user code**, at any time. -/
lemma Reachable.hasUserFrames {k : Kernel} (h : Reachable config frames k) :
    k.Frames fun f => f.isUser := by
  induction h with
  | boot hcreate horder hboot => exact Booted.hasFrames ⟨_, _, hcreate, horder, hboot⟩
  | step hreach op hlegal ih =>
    exact op.frames hreach.sound TrapFrame.kept_isUser (fun _ _ _ huser => huser) ih

namespace Bench

/-- **A bench that is driven** by its programs: their registers change as they run, but not the
level of privilege that they run at. -/
inductive Driven (config : Config) (frames : Nat) : Bench → Prop where
  | begin {k : Kernel} (hk : Exokernel.Reachable config frames k) :
      Driven config frames ⟨k, Array.replicate config.cpus none⟩
  /-- The kernel is asked for something that no processor is given anything to run by. -/
  | operate {t : Bench} (h : Driven config frames t) (op : Operation) (hop : op.Aside) :
      Driven config frames { t with kernel := op.apply t.kernel }
  | trap {t : Bench} (h : Driven config frames t) (cpu : Nat) (f : TrapFrame) :
      Driven config frames (t.enter cpu (t.kernel.trap cpu f)).2
  | schedule {t : Bench} (h : Driven config frames t) (cpu : Nat)
      (hnone : t.kernel.current? cpu = none) :
      Driven config frames (t.enter cpu (t.kernel.schedule cpu)).2
  /-- The registers of a process that runs change. -/
  | resume {t : Bench} (h : Driven config frames t) {cpu : Nat} {o : Occupant}
      (ho : t.occupant? cpu = some o) (f : TrapFrame) (hlevel : f.cs = o.frame.cs) :
      Driven config frames (t.setOccupant cpu (some ⟨o.id, f⟩))

namespace Driven

variable {t : Bench} {cpu : Nat} {o : Occupant}

/-- Driving a bench leads to states that it reaches. -/
lemma reachable (h : Driven config frames t) : t.Reachable config frames := by
  induction h with
  | begin hk => exact .begin hk
  | operate _ op hop ih => exact ih.operate op hop
  | trap _ cpu f ih => exact ih.trap cpu f
  | schedule _ cpu hnone ih => exact ih.schedule cpu hnone
  | resume _ ho f _ ih => exact ih.resume ho f

/-- Whom the kernel tells a processor to run, runs user code. -/
lemma isUser_of_tells {r : Resume × Kernel} (htells : Tells cpu r)
    (hreach : Exokernel.Reachable config frames r.2) {id : ProcessId} {f : TrapFrame}
    (hres : r.1 = .user id f) : f.isUser := by
  obtain ⟨p, hp, -, -, rfl⟩ := htells.user _ _ hres
  obtain ⟨hrec, -, hlive⟩ := live?_eq_some_iff.1 hp
  exact hreach.hasUserFrames _ p hrec hlive

/-- **Whoever runs on a processor, runs user code.** -/
lemma isUser (h : Driven config frames t) (ho : t.occupant? cpu = some o) : o.frame.isUser := by
  induction h generalizing cpu o with
  | begin hk =>
    rw [occupant?, Array.getElem?_replicate] at ho
    split at ho <;> cases ho
  | operate _ op hop ih => exact ih ho
  | @trap t h c f ih =>
    by_cases hc : cpu = c
    · subst hc
      exact isUser_of_tells (trap_tells h.reachable.sound)
        (h.reachable.kernel.step (.trap cpu f) trivial) (occupant?_enter_self ho)
    · rw [occupant?_enter_of_ne hc] at ho
      exact ih ho
  | @schedule t h c hnone ih =>
    by_cases hc : cpu = c
    · subst hc
      exact isUser_of_tells (schedule_tells h.reachable.sound hnone)
        (h.reachable.kernel.step (.schedule cpu) hnone) (occupant?_enter_self ho)
    · rw [occupant?_enter_of_ne hc] at ho
      exact ih ho
  | @resume t h c o' ho' f hlevel ih =>
    rw [occupant?_setOccupant] at ho
    split at ho
    · cases ho
      have hbefore := ih ho'
      rw [TrapFrame.isUser, ← hlevel] at hbefore
      exact hbefore
    · exact ih ho

lemma call (h : Driven config frames t) (cpu : Nat) (c : Syscall) :
    Driven config frames (t.call cpu c).2 := by
  rcases snd_call t cpu c with hsame | ⟨f, htrap⟩
  · rwa [hsame]
  · rw [htrap]
    exact h.trap cpu f

end Driven

/-- Calls of the program that runs on a processor, one after the other. -/
def calls (cpu : Nat) : List Syscall → Bench → Bench
  | [], t => t
  | c :: cs, t => calls cpu cs (t.call cpu c).2

lemma Driven.calls {t : Bench} (h : Driven config frames t) (cpu : Nat) (cs : List Syscall) :
    Driven config frames (t.calls cpu cs) := by
  induction cs generalizing t with
  | nil => exact h
  | cons c cs ih => exact ih (h.call cpu c)

end Bench

end Users

/-! ### A store -/

/-- **A bench after a store** of process `id`, which has address space `s` and frame `x` on its
exception stack, where its fault frames go by `plan`. The process goes on where it was and finds
what it stored. All else is as it was, except for frames that it could write through the range
already, and for the fault frames on frame `x`. -/
structure Bench.Stored (t : Bench) (cpu : Nat) (id : ProcessId) (s x : Nat) (plan : UpcallPlan)
    (f : TrapFrame) (va : VirtAddr) (data : List UInt8) (t' : Bench) : Prop where
  resumed : ∃ f', t'.Running cpu id f' ∧ f.Continues f'
  loaded : t'.load cpu va data.length = (.ok data, t')
  scratch : t'.kernel.machine.mapping? s scratchNumber = none
  records : Renews id t.kernel t'.kernel
  spaces : ∀ other, t'.kernel.spaceOf? other = t.kernel.spaceOf? other
  /-- All pages outside of the range show what they showed. -/
  pages : ∀ r page, ¬ (r = s ∧ page ∈ pagesOf va.toNat data.length) →
    t'.kernel.machine.mapping? r page = t.kernel.machine.mapping? r page
  /-- Their bytes stay as well, in any address space. -/
  bytes : ∀ r page, ¬ (r = s ∧ page ∈ pagesOf va.toNat data.length) → ∀ i < pageSize,
    (∀ e, t.kernel.machine.mapping? r page = some e →
      ¬ t.kernel.machine.Reaches s va data.length e.frame ∧ (e.frame = x → ¬ plan.Takes i)) →
    t'.kernel.machine.byte? r (page * pageSize + i) = t.kernel.machine.byte? r (page * pageSize + i)
  /-- On the pages of the range, what is beside it stays. -/
  beside : ∀ page ∈ pagesOf va.toNat data.length, ∀ e,
    t.kernel.machine.mapping? s page = some e → e.frame ≠ x → ∀ i < pageSize,
    ¬ (va.toNat ≤ page * pageSize + i ∧ page * pageSize + i < va.toNat + data.length) →
    t'.kernel.machine.byte? s (page * pageSize + i) = t.kernel.machine.byte? s (page * pageSize + i)

variable {config : Config} {frames cpu s x : Nat} {t t' : Bench} {id : ProcessId} {f : TrapFrame}
  {plan : UpcallPlan} {va : VirtAddr} {data : List UInt8}

/-- A load of what is there succeeds at the first attempt. -/
lemma UserContext.Active.load (h : (⟨t, cpu, id⟩ : UserContext).Active config frames cpu id s f)
    (hcovered : t.kernel.machine.Covered s va data.length)
    (hbytes : ∀ j < data.length, t.kernel.machine.byte? s (va.toNat + j) = data[j]?) :
    t.load cpu va data.length = (.ok data, t) := by
  have hread := hcovered.userRead_eq h.sound.accounted hbytes 0
  exact Bench.accessWithin_ok h.running.occupant h.space (Prod.ext hread rfl)

/-- **A store begins.** -/
lemma UserContext.Active.stores {len : Nat}
    (h : (⟨t, cpu, id⟩ : UserContext).Active config frames cpu id s f)
    (hready : StoreReady t.kernel id s x plan f va len)
    (hstorable : t.kernel.machine.Storable s va len)
    (hfree : t.kernel.machine.sealedPages s va len + 1 < t.kernel.machine.freeFrames) :
    Stores config frames t cpu id s x plan va len f t := by
  obtain ⟨e, he⟩ := hready.handles.code
  have hthere := Machine.isSome_space?_of_mapping? he
  exact ⟨h, .of_table rfl, hstorable, .refl _, .inr ⟨hthere, Nat.le_of_lt hfree⟩⟩

/-- A store that has succeeded. -/
lemma UserContext.Stores.stored {f' : TrapFrame} {p : Process} (hp : t.kernel.live? id = some p)
    (hready : StoreReady t.kernel id s x plan f va data.length)
    (h : Stores config frames t cpu id s x plan va data.length f' t') (hcontinues : f.Continues f')
    (hbytes : ∀ j < data.length, t'.kernel.machine.byte? s (va.toNat + j) = data[j]?) :
    t.Stored cpu id s x plan f va data t' where
  resumed := ⟨f', h.active.running, hcontinues⟩
  loaded := h.active.load (h.storable.covered h.active.reachable.kernel.permitted) hbytes
  scratch := hready.scratch_storing h.storing
  records := h.renews
  spaces := h.renews.spaceOf? hp
  pages := h.storing.others
  bytes _ _ hoff _ hi hframe := h.storing.byte?_of_outside hoff hi hframe
  beside := h.storing.bytes

/-- **A store to pages that are copied on the way** succeeds, and only its bytes change. -/
theorem store_transparent (hbench : t.Driven config frames) (hrunning : t.Running cpu id f)
    (hspace : t.kernel.spaceOf? id = some s)
    (hready : StoreReady t.kernel id s x plan f va data.length)
    (hstorable : t.kernel.machine.Storable s va data.length)
    (hcopies : t.kernel.machine.sealedPages s va data.length ≤ 3)
    (hfree : t.kernel.machine.sealedPages s va data.length + 1 < t.kernel.machine.freeFrames) :
    ∃ t', t.store cpu va data = (.ok (), t') ∧ t.Stored cpu id s x plan f va data t' := by
  have hactive : (⟨t, cpu, id⟩ : UserContext).Active config frames cpu id s f :=
    ⟨hbench.reachable, rfl, rfl, hrunning, hbench.isUser hrunning.occupant, hspace⟩
  obtain ⟨p, hp⟩ := hactive.live
  have hstores : Stores config frames t cpu id s x plan va data.length f t :=
    hactive.stores hready hstorable hfree
  obtain ⟨t', f', hstore, hcontinues, h, hbytes⟩ :=
    hstores.store hready (Nat.lt_succ_of_le hcopies)
  exact ⟨t', hstore, h.stored hp hready hcontinues hbytes⟩

/-- A program stores to two of its pages. The first one, which also holds the code of its handler,
is to be copied then. -/
theorem store_transparent_pages : ∃ (t t' : Bench) (f : TrapFrame) (s x : Nat)
    (plan : UpcallPlan), t.Driven { maxProcesses := 2 } 24 ∧
      t.Running 0 (ProcessId.self.next 0) f ∧
      t.kernel.spaceOf? (ProcessId.self.next 0) = some s ∧
      StoreReady t.kernel (ProcessId.self.next 0) s x plan f (.ofNat (Bench.dataPage - 1)) 2 ∧
      t.kernel.machine.Storable s (.ofNat (Bench.dataPage - 1)) 2 ∧
      t.kernel.machine.sealedPages s (.ofNat (Bench.dataPage - 1)) 2 = 1 ∧
      1 + 1 < t.kernel.machine.freeFrames ∧
      t.store 0 (.ofNat (Bench.dataPage - 1)) [1, 2] = (.ok (), t') ∧
      t.Stored 0 (ProcessId.self.next 0) s x plan f (.ofNat (Bench.dataPage - 1)) [1, 2] t' := by
  have hboot : Reachable { maxProcesses := 2 } 24 _ := .boot rfl (.refl _) rfl
  have hstart := ((Bench.Driven.begin (hboot.step
    (.spawn ⟨.ofNat textBase, [.readWrite (.ofNat textBase) [7] 0x1001]⟩) trivial)).schedule 0
      rfl).calls 0 [.pageAlloc .self Program.exceptionStack .userWrite,
        .setFaultHandler .self (.ofNat Bench.handlerEntry),
        .pageMap .self (.ofNat textBase) .self (.ofNat textBase) (Program.readOnlyCopy .userWrite)]
  obtain ⟨t, hdriven, hrunning, hspace, hready, hstorable, hcopies, hfree⟩ :
      ∃ t : Bench, t.Driven { maxProcesses := 2 } 24 ∧
        t.Running 0 (ProcessId.self.next 0) ((t.frame? 0).getD (.initial 0)) ∧
        t.kernel.spaceOf? (ProcessId.self.next 0) = some 1 ∧
        StoreReady t.kernel (ProcessId.self.next 0) 1 8
          ⟨.ofNat (exceptionStackTop - FaultFrame.size), false⟩ ((t.frame? 0).getD (.initial 0))
          (.ofNat (Bench.dataPage - 1)) 2 ∧
        t.kernel.machine.Storable 1 (.ofNat (Bench.dataPage - 1)) 2 ∧
        t.kernel.machine.sealedPages 1 (.ofNat (Bench.dataPage - 1)) 2 = 1 ∧
        1 + 1 < t.kernel.machine.freeFrames :=
    ⟨_, hstart, by decide +kernel⟩
  have hfew : t.kernel.machine.sealedPages 1 (.ofNat (Bench.dataPage - 1))
      [(1 : UInt8), 2].length ≤ 1 := Nat.le_of_eq hcopies
  obtain ⟨t', hdone, hstored⟩ := store_transparent hdriven hrunning hspace hready hstorable
    (Nat.le_trans hfew (by decide)) (Nat.lt_of_le_of_lt (Nat.succ_le_succ hfew) hfree)
  exact ⟨t, t', _, 1, 8, _, hdriven, hrunning, hspace, hready, hstorable, hcopies, hfree, hdone,
    hstored⟩

/-- A program has shown its exception stack to its child. When it stores to a page that is to be
copied, the child finds the fault frame there. -/
theorem store_transparent_not_stack : ∃ (t t' : Bench) (f : TrapFrame) (s x r page : Nat)
    (plan : UpcallPlan) (e : Mapping), t.Driven { maxProcesses := 2 } 24 ∧
      t.Running 0 (ProcessId.self.next 0) f ∧
      t.kernel.spaceOf? (ProcessId.self.next 0) = some s ∧
      StoreReady t.kernel (ProcessId.self.next 0) s x plan f (.ofNat textBase) 1 ∧
      t.kernel.machine.Storable s (.ofNat textBase) 1 ∧
      t.kernel.machine.sealedPages s (.ofNat textBase) 1 ≤ 3 ∧
      t.kernel.machine.sealedPages s (.ofNat textBase) 1 + 1 < t.kernel.machine.freeFrames ∧
      t.store 0 (.ofNat textBase) [42] = (.ok (), t') ∧
      t.kernel.spaceOf? (ProcessId.self.next 1) = some r ∧
      t.kernel.machine.mapping? r page = some e ∧
      ¬ t.kernel.machine.Reaches s (.ofNat textBase) 1 e.frame ∧
      ∃ i < pageSize, t'.kernel.machine.byte? r (page * pageSize + i) ≠
        t.kernel.machine.byte? r (page * pageSize + i) := by
  have hboot : Reachable { maxProcesses := 2 } 24 _ := .boot rfl (.refl _) rfl
  have hstart := ((Bench.Driven.begin (hboot.step
    (.spawn ⟨.ofNat textBase, [.readWrite (.ofNat textBase) [7] 1]⟩) trivial)).schedule 0
      rfl).calls 0 [.pageAlloc .self Program.exceptionStack .userWrite,
        .setFaultHandler .self (.ofNat Bench.handlerEntry), .exofork,
        .pageMap .self Program.exceptionStack (ProcessId.self.next 1) (.ofNat textBase) .userRead,
        .pageMap .self (.ofNat textBase) .self (.ofNat textBase) (Program.readOnlyCopy .userWrite)]
  obtain ⟨t, hdriven, hrunning, hspace, hready, hstorable, hcopies, hfree, hstore, hshown⟩ :
      ∃ t : Bench, t.Driven { maxProcesses := 2 } 24 ∧
        t.Running 0 (ProcessId.self.next 0) ((t.frame? 0).getD (.initial 0)) ∧
        t.kernel.spaceOf? (ProcessId.self.next 0) = some 1 ∧
        StoreReady t.kernel (ProcessId.self.next 0) 1 7
          ⟨.ofNat (exceptionStackTop - FaultFrame.size), false⟩ ((t.frame? 0).getD (.initial 0))
          (.ofNat textBase) 1 ∧
        t.kernel.machine.Storable 1 (.ofNat textBase) 1 ∧
        t.kernel.machine.sealedPages 1 (.ofNat textBase) 1 ≤ 3 ∧
        t.kernel.machine.sealedPages 1 (.ofNat textBase) 1 + 1 < t.kernel.machine.freeFrames ∧
        (t.store 0 (.ofNat textBase) [42]).1 = .ok () ∧
        t.kernel.spaceOf? (ProcessId.self.next 1) = some 2 ∧
        t.kernel.machine.mapping? 2 (textBase / pageSize) = some ⟨7, .userRead⟩ ∧
        ¬ t.kernel.machine.Reaches 1 (.ofNat textBase) 1 7 ∧
        (t.store 0 (.ofNat textBase) [42]).2.kernel.machine.byte? 2
            (textBase / pageSize * pageSize + (pageSize - FaultFrame.size + 2)) ≠
          t.kernel.machine.byte? 2
            (textBase / pageSize * pageSize + (pageSize - FaultFrame.size + 2)) :=
    ⟨_, hstart, by decide +kernel⟩
  obtain ⟨hother, hpage, hreach, hchanged⟩ := hshown
  exact ⟨t, _, _, 1, 7, 2, _, _, _, hdriven, hrunning, hspace, hready, hstorable, hcopies, hfree,
    Prod.ext hstore rfl, hother, hpage, hreach, _, by decide, hchanged⟩

end Exokernel
