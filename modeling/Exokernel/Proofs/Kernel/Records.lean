/-
What becomes of the records of the process table, one step after another.

* `Kernel.Course`: the record of every slot goes through a row of steps of a given kind;
* `Kernel.Ends`: the steps by which a process ends are among them;
* `course_reap`, `course_destroyOn`, `course_unbind`, `course_preempt`, `course_schedule`,
  `course_allocateAs`: what the kernel does about processes that end, pause, run or begin, as steps
  of their records;
* `course_pageFault`, `course_conclude`, `course_leave`: how the kernel ends a fault, a call and a
  trap;
* `course_execute`: **a call**, apart from one that makes a process.

The kinds of steps are a parameter throughout: each statement asks for the steps that it needs, in
the place where they are taken.
-/
import Exokernel.Proofs.Kernel.Effects

namespace Exokernel.Kernel

variable {k k' k'' : Kernel} {id s target : ProcessId} {p p' q : Process} {cpu slot : Nat}
  {c : Syscall} {R Q : Nat → Process → Process → Prop}

/-- The record of every slot goes through a row of steps `R`, and no slot comes or goes. -/
structure Course (R : Nat → Process → Process → Prop) (k k' : Kernel) : Prop where
  capacity : k'.table.records.size = k.table.records.size
  steps : ∀ (slot : Nat) (p : Process), k.table.records[slot]? = some p →
    ∃ p', k'.table.records[slot]? = some p' ∧ Relation.ReflTransGen (R slot) p p'

namespace Course

lemma of_records (h : k'.table.records = k.table.records) : Course R k k' :=
  ⟨by rw [h], fun _ p hp => ⟨p, h ▸ hp, .refl⟩⟩

lemma refl : Course R k k := of_records rfl

lemma quiet (h : k.Quiet k') : Course R k k' := of_records h.records

lemma trans (h : Course R k k') (h' : Course R k' k'') : Course R k k'' where
  capacity := h'.capacity.trans h.capacity
  steps slot p hp := by
    obtain ⟨p', hp', hsteps⟩ := h.steps slot p hp
    obtain ⟨p'', hp'', hsteps'⟩ := h'.steps slot p' hp'
    exact ⟨p'', hp'', hsteps.trans hsteps'⟩

lemma mono (h : Course R k k') (hRQ : ∀ slot p p', R slot p p' → Q slot p p') :
    Course Q k k' where
  capacity := h.capacity
  steps slot p hp := by
    obtain ⟨p', hp', hsteps⟩ := h.steps slot p hp
    exact ⟨p', hp', Relation.ReflTransGen.mono (hRQ slot) _ _ hsteps⟩

/-- The record of one slot is changed. -/
lemma modify (slot : Nat) (f : Process → Process)
    (h : k'.table.records = (k.table.modify slot f).records)
    (hf : ∀ p, k.table.records[slot]? = some p → Relation.ReflTransGen (R slot) p (f p)) :
    Course R k k' where
  capacity := by
    rw [h]
    exact Array.size_modify
  steps other p hp := by
    rw [h, ProcessTable.getElem?_modify]
    split
    · next heq =>
      subst heq
      exact ⟨f p, by rw [hp]; rfl, hf p hp⟩
    · exact ⟨p, hp, .refl⟩

/-- The record of a live process is changed. -/
lemma edit {f : Process → Process} (hp : k.live? id = some p) (hf : R id.slot p (f p)) :
    Course R k (k.modify id f) := modify id.slot f rfl fun q hq => by
  rw [(live?_eq_some_iff.1 hp).1] at hq
  cases hq
  exact .single hf

/-- Every record at the end has been there at the beginning. -/
lemma back (h : Course R k k') (hp' : k'.table.records[slot]? = some p') :
    ∃ p, k.table.records[slot]? = some p ∧ Relation.ReflTransGen (R slot) p p' := by
  have hlt : slot < k.table.records.size := h.capacity ▸ (Array.getElem?_eq_some_iff.1 hp').1
  obtain ⟨q, hq, hsteps⟩ := h.steps slot _ (Array.getElem?_eq_getElem hlt)
  rw [hp'] at hq
  cases hq
  exact ⟨_, Array.getElem?_eq_getElem hlt, hsteps⟩

/-- **What every step keeps**, the record of a slot keeps. -/
lemma induct {P : Process → Prop} (h : Course R k k') (hp' : k'.table.records[slot]? = some p')
    (hP : ∀ p, k.table.records[slot]? = some p → P p)
    (hstep : ∀ q q', R slot q q' → P q → P q') : P p' := by
  obtain ⟨p, hp, hsteps⟩ := h.back hp'
  clear hp'
  induction hsteps with
  | refl => exact hP p hp
  | tail _ hlast ih => exact hstep _ _ hlast ih

end Course

/-- The steps by which a process ends are among the steps `R`. -/
structure Ends (R : Nat → Process → Process → Prop) : Prop where
  doomed : ∀ slot p, p.status.isLive → R slot p p.doomed
  cleared : ∀ slot p, p.status = .dying → R slot p p.cleared

/-! ### Processes that end -/

lemma course_reap (hR : Ends R) (holder : Option Nat) : Course R k (k.reap id holder) := by
  by_cases h : ∃ p : Process, k.table.records[id.slot]? = some p ∧
      p.id = id ∧ p.status = .dying ∧ p.resident = holder
  · obtain ⟨p, hp, hid, hs, hres⟩ := h
    refine .modify id.slot Process.cleared (reap_reaps hp hid hs hres).records fun q hq => ?_
    rw [hp] at hq
    cases hq
    exact .single (hR.cleared id.slot p hs)
  · rw [reap_of_not fun p hp hp' => h ⟨p, hp, hp'⟩]
    exact .refl

lemma course_clearStale (hR : Ends R) : Course R k (k.clearStale cpu id) :=
  have hdrop : Course R k (k.dropClaim cpu id) := .of_records rfl
  hdrop.trans (course_reap hR _)

/-- What destruction begins with. -/
lemma course_doomed (hR : Ends R) (hp : k.live? id = some p) :
    Course R k { k with table := k.table.modify id.slot Process.doomed } :=
  .edit (f := Process.doomed) hp (hR.doomed _ p (live?_eq_some_iff.1 hp).2.2)

lemma course_free (hR : Ends R) : Course R k (k.free id) := by
  rw [free]
  cases hp : k.live? id with
  | none =>
    rw [beginFree?_none hp]
    exact .refl
  | some p =>
    rw [beginFree?_eq hp]
    exact (course_doomed hR hp).trans (course_reap hR _)

lemma course_destroyOn (hR : Ends R) : Course R k (k.destroyOn cpu id).2 := by
  rw [destroyOn]
  cases hp : k.live? id with
  | none =>
    rw [beginFree?_none hp]
    exact .refl
  | some p =>
    rw [beginFree?_eq hp]
    refine (course_doomed hR hp).trans ?_
    cases p.resident with
    | none => exact course_reap hR _
    | some holder =>
      dsimp only
      split
      · exact course_clearStale hR
      · exact .of_records (quiet_log _ _).records

/-! ### Processes that pause -/

/-- A processor that gives up a process takes its number from the record. -/
lemma course_unbind (hgive : ∀ p, k.table.records[id.slot]? = some p → p.resident = some cpu →
    R id.slot p { p with resident := none }) : Course R k (k.unbind cpu id) := by
  rw [unbind]
  cases hp : k.table.records[id.slot]? with
  | none => exact .of_records (by rw [Option.bind_none, if_neg (by rintro ⟨⟩)]; rfl)
  | some p =>
    rw [Option.bind_some]
    split
    · next hres =>
      refine .modify id.slot (fun p => { p with resident := none }) rfl
        fun q hq => ?_
      rw [hp] at hq
      cases hq
      exact .single (hgive p hp hres)
    · exact .of_records rfl

/-- The record of a live process is changed, and its processor gives it up: both in one step. -/
lemma course_edit_unbind {f : Process → Process} (hp : k.live? id = some p)
    (hid : (f p).id = p.id) (hlive : (f p).status.isLive) (hres : (f p).resident = some cpu)
    (hf : R id.slot p { f p with resident := none }) :
    Course R k ((k.modify id f).unbind cpu id) := by
  rw [unbind_eq (live?_modify hp hid hlive) hres]
  refine .modify id.slot (fun p => { f p with resident := none }) ?_ fun q hq => ?_
  · exact congrArg ProcessTable.records (ProcessTable.modify_modify ..)
  · rw [(live?_eq_some_iff.1 hp).1] at hq
    cases hq
    exact .single hf

/-- A processor is taken from the process that it runs. -/
lemma course_preempt (hR : Ends R)
    (hpause : ∀ p, k.live? id = some p → p.status = .running → p.resident = some cpu →
      R id.slot p { p with status := .runnable })
    (hgive : ∀ p, p.resident = some cpu → p.status ≠ .running →
      R id.slot p { p with resident := none }) : Course R k (k.preempt cpu id) := by
  rw [preempt]
  cases hp : k.live? id with
  | none => exact course_clearStale hR
  | some p =>
    have hrec := (live?_eq_some_iff.1 hp).1
    have hpaused : Course R k (k.modify id fun p =>
        if p.status = .running ∧ p.resident = some cpu then { p with status := .runnable }
        else p) :=
      .modify id.slot _ rfl fun q hq => by
        rw [hrec] at hq
        cases hq
        split
        · next hrun => exact .single (hpause p hp hrun.1 hrun.2)
        · exact .refl
    refine hpaused.trans (course_unbind fun q hq hres => hgive q hres ?_)
    rw [modify, ProcessTable.getElem?_modify, if_pos rfl, hrec, Option.map_some,
      Option.some.injEq] at hq
    split at hq
    · rw [← hq]
      rintro ⟨⟩
    · next hnot =>
      subst hq
      exact fun hrun => hnot ⟨hrun, hres⟩

/-! ### Processes that run -/

lemma course_dispatch (hp : k.table.records[slot]? = some p) (hR : R slot p (dispatched cpu p)) :
    Course R k (k.dispatch cpu slot).2 := by
  have hbound : Course R k (k.bound cpu slot p) :=
    .modify slot (dispatched cpu) rfl fun q hq => by
      rw [hp] at hq
      cases hq
      exact .single hR
  rw [dispatch_eq hp]
  exact hbound.trans (.quiet (quiet_log _ _))

/-- A processor that schedules dispatches at most one process. -/
lemma course_schedule (hR : ∀ slot p, p.dispatchable → (k.schedule cpu).1 = .user p.id p.frame →
    R slot p (dispatched cpu p)) : Course R k (k.schedule cpu).2 := by
  have hready : ∀ {slot}, k.dispatchable slot = true →
      ∃ p : Process, k.table.records[slot]? = some p ∧ p.dispatchable := fun h =>
    (Option.any_eq_true ..).1 h
  rw [schedule] at hR ⊢
  split
  · next hcpu =>
    rw [if_pos hcpu] at hR
    cases hnext : k.nextSlot? with
    | some slot =>
      obtain ⟨p, hp, hd⟩ := hready (List.find?_some hnext)
      rw [hnext] at hR
      have hmoved : Course R k { k with table := { k.table with cursor := slot } } :=
        .of_records rfl
      refine hmoved.trans ?_
      exact course_dispatch hp (hR slot p hd (congrArg Prod.fst (dispatch_eq
        (k := { k with table := { k.table with cursor := slot } }) hp)))
    | none =>
      rw [hnext] at hR
      dsimp only at hR ⊢
      split
      · next hidle =>
        obtain ⟨p, hp, hd⟩ := hready hidle.2
        rw [if_pos hidle] at hR
        exact course_dispatch hp (hR idleSlot p hd (congrArg Prod.fst (dispatch_eq hp)))
      · exact .of_records (quiet_log _ _).records
  · exact .refl

/-- A processor that ends in the scheduler. -/
lemma course_of_schedule {r : Resume × Kernel} (h : Course R k k') (hr : r = k'.schedule cpu)
    (hR : ∀ slot p, p.dispatchable → r.1 = .user p.id p.frame → R slot p (dispatched cpu p)) :
    Course R k r.2 := by
  subst hr
  exact h.trans (course_schedule hR)

/-- What a processor does at the end of a trap: it may find its process gone, or give it up, and
then schedules. -/
lemma course_leave {flow : Flow} (hR : Ends R)
    (hgive : ∀ p, p.resident = some cpu → p.status ≠ .running →
      R id.slot p { p with resident := none })
    (hdispatch : ∀ slot p, p.dispatchable → (k.leave cpu id flow).1 = .user p.id p.frame →
      R slot p (dispatched cpu p)) : Course R k (k.leave cpu id flow).2 := by
  cases flow with
  | switch => exact course_of_schedule (course_clearStale hR) rfl hdispatch
  | stay =>
    rw [leave] at hdispatch ⊢
    cases hp : k.live? id with
    | none =>
      rw [hp] at hdispatch
      exact course_of_schedule (course_clearStale hR) rfl hdispatch
    | some p =>
      rw [hp] at hdispatch
      dsimp only at hdispatch ⊢
      split
      · exact .refl
      · next hrun =>
        rw [if_neg hrun] at hdispatch
        refine course_of_schedule (course_unbind fun q hq hres => hgive q hres fun hs => hrun ?_)
          rfl hdispatch
        rw [(live?_eq_some_iff.1 hp).1] at hq
        cases hq
        exact ⟨hs, hres⟩

/-! ### Processes that are made -/

/-- The record that a new process begins with. -/
def fresh (id parent : ProcessId) (status : ProcessStatus) (space : Nat) : Process :=
  { id, parent, status, space := some space, frame := .initial (UInt32.ofNat Layout.stackTop) }

/-- **Making a process** is a step of one free slot. -/
lemma course_allocateAs (hk : k.Sound) {parent : ProcessId} {status : ProcessStatus}
    (h : k.allocateAs parent status = .ok (id, k'))
    (hR : ∀ slot p space, k.table.free.head? = some slot → k.table.records[slot]? = some p →
      p.status = .free → R slot p (fresh id parent status space)) : Course R k k' := by
  obtain ⟨slot, rest, space, machine, hfree, -, -, rfl⟩ := allocateAs_cases h
  obtain ⟨p, hp, hs⟩ := (hk.tables.mem_free_iff slot).1 (hfree ▸ List.mem_cons_self)
  refine .modify slot (fun _ => fresh id parent status space) rfl fun q hq => ?_
  rw [hp] at hq
  cases hq
  exact .single (hR slot p space (by rw [hfree]; rfl) hp hs)

/-- Work on memory, and two registers that are set after it. -/
lemma course_redirect {machine : Machine} {eip esp : UInt32} (hp : k.live? id = some p)
    (hR : R id.slot p { p with frame := { p.frame with eip, esp } }) :
    Course R k ({ k with machine }.modify id fun p =>
      { p with frame := { p.frame with eip, esp } }) := by
  have hmemory : Course R k { k with machine } := .of_records rfl
  exact hmemory.trans (.edit (k := { k with machine }) hp hR)

/-- A program that is loaded sets two registers of the process. -/
lemma course_load {image : Image} (hR : ∀ p eip esp, k.live? id = some p →
    R id.slot p { p with frame := { p.frame with eip, esp } }) :
    Course R k (k.load id image).2 := by
  rw [load]
  split
  · exact .refl
  · next space hspace =>
    obtain ⟨p, hp, -⟩ := spaceOf?_eq_some_iff.1 hspace
    split
    · exact .of_records rfl
    · exact course_redirect hp (hR p _ _ hp)

/-! ### Answers and faults -/

/-- So does a fault that a process is told of. -/
lemma course_reflectFault {f : TrapFrame} {faultVa : VirtAddr}
    (hR : ∀ p eip esp, k.live? id = some p →
      R id.slot p { p with frame := { p.frame with eip, esp } }) :
    Course R k (k.reflectFault id f faultVa).2 := by
  rw [reflectFault]
  split
  · exact .refl
  · next p hp =>
    split
    · exact .refl
    · exact .refl
    · next entry space _ _ =>
      split
      · exact .refl
      · next plan _ =>
        split
        · exact .of_records rfl
        · exact course_redirect hp (hR p _ _ hp)

/-- A fault is told to the process, or ends it. -/
lemma course_pageFault {f : TrapFrame} (hR : Ends R) (hedit : ∀ p eip esp, k.live? id = some p →
    R id.slot p { p with frame := { p.frame with eip, esp } }) :
    Course R k (k.pageFault cpu id f).2 := by
  have htold : Course R k (k.reflectFault id f (k.machine.faultAddress cpu)).2 :=
    course_reflectFault hedit
  rw [pageFault]
  dsimp only
  split
  · next frameVa k₁ heq =>
    rw [heq] at htold
    exact htold.trans (.quiet (quiet_log _ _))
  · next e k₁ heq =>
    rw [heq] at htold
    exact (htold.trans (.quiet ((quiet_log _ _).trans (quiet_audit _ _)))).trans
      (course_destroyOn hR)

lemma course_setAnswer {answer : Int32} (hR : ∀ p value, k.live? id = some p →
    R id.slot p { p with frame := p.frame.withResult value }) :
    Course R k (k.setAnswer cpu id answer) := by
  rw [setAnswer]
  split
  · exact .refl
  · next p hp =>
    split
    · exact .edit (f := fun p => { p with frame := p.frame.withResult answer.toUInt32 }) hp
        (hR p _ hp)
    · exact .refl

/-- A call that ends is answered, or ends the caller. -/
lemma course_conclude {request : Nat} {outcome : Outcome} (hR : Ends R)
    (hanswer : ∀ p value, k.live? id = some p →
      R id.slot p { p with frame := p.frame.withResult value }) :
    Course R k (k.conclude cpu id request outcome).2 := by
  cases outcome with
  | answer result => exact (course_setAnswer hanswer).trans (.quiet (quiet_audit _ _))
  | giveUp => exact .quiet (quiet_audit _ _)
  | badBuffer va =>
    exact (Course.quiet (((quiet_log _ _).trans (quiet_audit _ _)).trans (quiet_audit _ _))).trans
      (course_destroyOn hR)

/-! ### Calls -/

lemma course_exit (hR : Ends R) : Course R k (k.exit cpu s target).2 := by
  cases hres : k.resolve s target true with
  | error e =>
    rw [exit, hres]
    exact .refl
  | ok id =>
    obtain ⟨k₀, hk₀, heq⟩ := exit_eq cpu hres
    rw [heq]
    exact (Course.quiet hk₀).trans (course_destroyOn hR)

/-- **What a call does to the records**: whom it affects, it alters at most once, and it may end a
process. A call that makes a process is left to the hypothesis. -/
lemma course_execute (hk : k.Sound) (hs : k.live? s = some q) (hres : q.resident = some cpu)
    (hR : Ends R)
    (haffect : ∀ p p', k.live? p.id = some p → k.Affects s p.id p c p' → R p.id.slot p p')
    (hmake : ∀ answer k', c = .exofork → k.exofork s = .ok (answer, k') → Course R k k') :
    Course R k (k.execute cpu s c).2 := by
  -- the record of one live process is altered
  have hone : ∀ {t : ProcessId} {r : Process} {f : Process → Process}, k.live? t = some r →
      k.Affects s t r c (f r) → Course R k (k.modify t f) := fun hr h => by
    obtain ⟨-, rfl, -⟩ := live?_eq_some_iff.1 hr
    exact .edit hr (haffect _ _ hr h)
  obtain ⟨hrec, rfl, hlive⟩ := live?_eq_some_iff.1 hs
  cases c with
  | putString va len =>
    rw [execute]
    cases hput : k.putString q.id va len with
    | error e => cases e <;> exact .refl
    | ok k₁ => exact .quiet (putString_quiet hput)
  | getId => exact .refl
  | destroy target => exact course_exit hR
  | yield =>
    rw [execute, yield, hs]
    have hpause := edit_paused hlive True
    simp only [and_true] at hpause
    exact course_edit_unbind (f := fun p => if p.status = .running then
      { p with status := .runnable } else p) hs hpause.id hpause.live
      (hpause.resident.trans hres) (haffect _ _ hs (.yield rfl))
  | exofork =>
    rw [execute]
    cases hfork : k.exofork q.id with
    | error e => exact .refl
    | ok r => exact hmake r.1 r.2 rfl hfork
  | setStatus target status =>
    rw [execute]
    cases hset : k.setStatus q.id target status with
    | error e => exact .refl
    | ok k₁ =>
      obtain ⟨id, r, hstatus, hid, hr, rfl⟩ := setStatus_cases hset
      exact hone hr (.setStatus hstatus hid)
  | setFrame target va =>
    rw [execute]
    cases hset : k.setFrame q.id target va with
    | error e => cases e <;> exact .refl
    | ok k₁ =>
      obtain ⟨id, bytes, r, hid, hread, hr, rfl⟩ := setFrame_cases hset
      exact hone hr (.setFrame hid hread)
  | setFaultHandler target entry =>
    rw [execute]
    cases hset : k.setFaultHandler q.id target entry with
    | error e => exact .refl
    | ok k₁ =>
      obtain ⟨id, r, hid, hr, rfl⟩ := setFaultHandler_cases hset
      exact hone hr (.setFaultHandler hid)
  | pageAlloc target va perm => exact .of_records (congrArg (·.records) table_pageAlloc)
  | pageMap src srcVa dst dstVa perm => exact .of_records (congrArg (·.records) table_pageMap)
  | pageUnmap target va =>
    have hleaves : LeavesTable cpu q.id (.pageUnmap target va) := pageUnmap_leavesTable
    obtain ⟨result, k₂, hexec, htable⟩ := hleaves k
    rw [hexec]
    exact .of_records (congrArg (·.records) htable)
  | trySend target value va perm =>
    cases hsend : (k.trySend q.id target value va perm).1 with
    | error e => exact .of_records (congrArg (·.table.records) (trySend_error hk hsend))
    | ok v =>
      obtain ⟨t, r, ht, hconveys⟩ := trySend_ok hk hsend
      obtain ⟨hrec', rfl, -⟩ := live?_eq_some_iff.1 hconveys.live
      refine .modify r.id.slot (fun _ => told r q.id value va perm)
        (Array.ext_getElem? fun i => ?_) fun p hp => ?_
      · refine (hconveys.records i).trans ?_
        rw [ProcessTable.getElem?_modify]
        split
        · next heq => rw [← heq, hrec']; rfl
        · rfl
      · rw [hrec'] at hp
        cases hp
        exact .single (haffect _ _ hconveys.live (.told ht hsend hconveys.waiting))
  | receive dstVa =>
    rw [execute]
    cases hopen : k.receive cpu q.id dstVa with
    | error e => exact .refl
    | ok k₁ =>
      obtain ⟨r, hva, -, rfl⟩ := receive_cases hopen
      exact course_edit_unbind (f := fun p => { p with
        mailbox := { p.mailbox with receiving := true, dstVa }
        status := .notRunnable
        frame := p.frame.withResult 0 }) hs rfl rfl hres (haffect _ _ hs (.receive rfl hva))
  | time => exact .refl

end Exokernel.Kernel
