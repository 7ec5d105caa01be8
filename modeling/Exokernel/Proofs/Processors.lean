/-
What processors have bound and loaded.

* `Kernel.Loaded`: a processor has loaded the address space of what it has bound, and nothing else;
* `Move.turn`: what a move does to one processor;
* `Move.loaded`, `Reachable.loaded`: **every reachable state is loaded**;
* `Kernel.RunsOn`, `Kernel.Tells`: a processor that is told to run a process has it bound and
  running, with the registers that it was told;
* `Operation.undisturbed`: an operation of one processor takes nothing from another;
* `processor_keeps`: **what a processor is told to run** it has bound and loaded, and it keeps that
  until its own next step.
-/
import Exokernel.Proofs.Histories

namespace Exokernel

namespace Kernel

variable {k k' : Kernel} {id : ProcessId} {p : Process} {cpu c : Nat} {f : TrapFrame} {d : Deed}

/-! ### Processors, one move at a time -/

/-- A deed by which a processor gives up the process in a slot. -/
def Deed.GivesUp (slot : Nat) : Deed → Prop
  | .await id | .unbind id | .clear id => id.slot = slot
  | .quiet | .edit _ | .bind _ | .doom _ | .make _ _ | .remap _ | .work _ _ _ | .deliver _ => False

/-- What a move does to a processor: nothing, or it gives up what it had bound, or it is given
something. -/
inductive Turn (k : Kernel) (d : Deed) (c : Nat) (k' : Kernel) : Prop where
  | same (hcur : k'.current? c = k.current? c)
      (hactive : k'.machine.activeSpace? c = k.machine.activeSpace? c)
  | unload (hcur : k.current? c = none) (hcur' : k'.current? c = none)
      (hactive : k'.machine.activeSpace? c = none)
  | giveUp {slot : Nat} {p : Process} (hd : d.GivesUp slot) (hp : k.table.records[slot]? = some p)
      (hres : p.resident = some c) (hcur : k'.current? c = none)
      (hactive : k'.machine.activeSpace? c = none)
  | bind {slot : Nat} {p : Process} (hd : d = .bind slot) (hp : k.table.records[slot]? = some p)
      (hready : p.dispatchable) (hcpu : c < k.cpus.size) (hnone : k.current? c = none)
      (hcur : k'.current? c = some p.id)
      (hactive : k'.machine.activeSpace? c =
        if c < k.machine.processors.size then p.space else none)

/-- A processor that gives up a process has nothing bound and nothing loaded, and no other processor
is concerned. -/
lemma turn_unbind (c : Nat) (hk : k.Sound) (hd : d.GivesUp id.slot) (hp : k.live? id = some p)
    (hres : p.resident = some cpu)
    (hcur : ∀ c, k'.current? c = if cpu = c ∧ k.current? c = some id then none else k.current? c)
    (hactive : ∀ c, k'.machine.activeSpace? c =
      if cpu = c then none else k.machine.activeSpace? c) : k.Turn d c k' := by
  by_cases hc : cpu = c
  · subst hc
    have hclaim := (hk.current?_iff hp).2 hres
    exact .giveUp hd (live?_eq_some_iff.1 hp).1 hres ((hcur cpu).trans (if_pos ⟨rfl, hclaim⟩))
      ((hactive cpu).trans (if_pos rfl))
  · exact .same ((hcur c).trans (if_neg fun h => hc h.1)) ((hactive c).trans (if_neg hc))

/-- What a processor claims and has loaded that is given a process, and what any other. -/
lemma current?_bound {slot : Nat} (hcpu : cpu < k.cpus.size) (c : Nat) :
    (k.bound cpu slot p).current? c = if cpu = c then some p.id else k.current? c := by
  rw [bound, current?_modifyCpu]
  by_cases hc : cpu = c
  · subst hc
    rw [if_pos rfl, if_pos rfl]
    change (k.cpus[cpu]?.bind fun _ => some p.id) = some p.id
    rw [Array.getElem?_eq_getElem hcpu]
    rfl
  · rw [if_neg hc, if_neg hc]
    rfl

lemma activeSpace?_bound {slot : Nat} (c : Nat) : (k.bound cpu slot p).machine.activeSpace? c =
    if cpu = c then if c < k.machine.processors.size then p.space else none
    else k.machine.activeSpace? c :=
  activeSpace?_activate c

/-- **What a move does to one processor.** -/
lemma Move.turn (h : k.Move d k') (hk : k.Sound) (c : Nat) : k.Turn d c k' := by
  cases h with
  | quiet h =>
    rcases h.active c with hsame | ⟨hnone, hunloaded⟩
    · exact .same (h.current c) hsame
    · exact .unload hnone ((h.current c).trans hnone) hunloaded
  | @await cpu id p f hp hf hres hrun =>
    have hd : Deed.GivesUp id.slot (.await id) := rfl
    rw [modify_unbind_eq hp hf hres]
    exact turn_unbind c hk hd hp hres (fun c => current?_dropClaim cpu id c)
      fun c => activeSpace?_unload (m := k.machine) c
  | @unbind cpu id p hp hres hrun =>
    have hd : Deed.GivesUp id.slot (.unbind id) := rfl
    rw [unbind_eq hp hres]
    exact turn_unbind c hk hd hp hres (fun c => current?_dropClaim cpu id c)
      fun c => activeSpace?_unload (m := k.machine) c
  | @bind cpu slot p hp hready hcpu hnone =>
    by_cases hc : cpu = c
    · subst hc
      exact .bind rfl hp hready hcpu hnone ((current?_bound hcpu cpu).trans (if_pos rfl))
        ((activeSpace?_bound cpu).trans (if_pos rfl))
    · exact .same ((current?_bound hcpu c).trans (if_neg hc))
        ((activeSpace?_bound c).trans (if_neg hc))
  | doom hp hres =>
    refine .same rfl ?_
    exact activeSpace?_modifyProcessor (m := k.machine) (f := fun p => { p with
      received := p.received ++ [TrapNumber.reschedule] }) (fun _ => rfl) c
  | clear hp hid hs h =>
    have hcur := h.current c
    have hactive := h.active c
    split at hcur
    · next hres =>
      rw [if_pos hres] at hactive
      exact .giveUp rfl hp hres hcur hactive
    · next hres =>
      rw [if_neg hres] at hactive
      exact .same hcur hactive
  | make hcaller hs h =>
    obtain ⟨slot, rest, s, machine, -, hcreate, -, rfl⟩ := allocateAs_cases h
    obtain ⟨directory, frames, -, -, rfl⟩ := Machine.createSpace_cases hcreate
    exact .same rfl rfl
  | remap hs h => exact .same rfl (activeSpace?_of_eq h.sameShape.processors c)
  | work hs h => exact .same rfl (activeSpace?_of_eq (Machine.Works.sameShape h).processors c)
  | deliver hp hopen hmail h => exact .same rfl (activeSpace?_of_eq h.sameShape.processors c)
  | edit hp hf hopen => exact .same rfl rfl

/-- Nothing but a process that is left to its processor sends an interrupt. -/
lemma Move.same (h : k.Move d k') (hd : ∀ id, d ≠ .doom id) : k.SameProcessors k' := by
  cases h with
  | quiet h => exact h.same
  | @await cpu id p f hp hf hres hrun =>
    rw [modify_unbind_eq hp hf hres]
    exact (same_activate (k := k) cpu none).trans (.of_eq Array.size_modify rfl)
  | @unbind cpu id p hp hres hrun =>
    rw [unbind_eq hp hres]
    exact (same_activate (k := k) cpu none).trans (.of_eq Array.size_modify rfl)
  | @bind cpu slot p hp hready hcpu hnone =>
    exact (same_activate (k := k) cpu p.space).trans (.of_eq Array.size_modify rfl)
  | doom hp hres => exact absurd rfl (hd _)
  | clear hp hid hs h => exact h.same
  | make hcaller hs h =>
    obtain ⟨slot, rest, s, machine, -, hcreate, -, rfl⟩ := allocateAs_cases h
    obtain ⟨directory, frames, -, -, rfl⟩ := Machine.createSpace_cases hcreate
    exact .of_eq rfl rfl
  | remap hs h => exact .of_eq rfl h.sameShape.processors
  | work hs h => exact .of_eq rfl (Machine.Works.sameShape h).processors
  | deliver hp hopen hmail h => exact .of_eq rfl h.sameShape.processors
  | edit hp hf hopen => exact .of_eq rfl rfl

/-- No processor comes or goes. -/
lemma Move.sizes (h : k.Move d k') : k'.cpus.size = k.cpus.size ∧
    k'.machine.processors.size = k.machine.processors.size := by
  by_cases hd : ∃ id, d = .doom id
  · obtain ⟨id, rfl⟩ := hd
    cases h with
    | doom hp hres => exact ⟨rfl, Array.size_modify⟩
  · have hsame := h.same fun id heq => hd ⟨id, heq⟩
    exact ⟨hsame.cpus, hsame.processors⟩

/-! ### What is loaded -/

/-- The address space of what a processor has bound, live or dying. -/
def boundSpace? (k : Kernel) (cpu : Nat) : Option Nat :=
  (k.current? cpu).bind fun id => k.table.records[id.slot]?.bind (·.space)

lemma boundSpace?_of_none (hcur : k.current? cpu = none) : k.boundSpace? cpu = none := by
  rw [boundSpace?, hcur]
  rfl

/-- What a processor has bound, its slot shows. -/
lemma boundSpace?_of_some (hcur : k.current? cpu = some id)
    (hp : k.table.records[id.slot]? = some p) : k.boundSpace? cpu = p.space := by
  rw [boundSpace?, hcur, Option.bind_some, hp, Option.bind_some]

/-- **A processor has loaded** the address space of what it has bound, and nothing else. -/
structure Loaded (k : Kernel) : Prop where
  size : k.cpus.size = k.machine.processors.size
  active : ∀ cpu, k.machine.activeSpace? cpu = k.boundSpace? cpu

/-- What a processor has bound before and after a move, keeps its address space. -/
lemma Move.boundSpace? (h : k.Move d k') (hk : k.Sound) (hcur : k'.current? c = k.current? c) :
    k'.boundSpace? c = k.boundSpace? c := by
  cases hnow : k.current? c with
  | none => rw [boundSpace?_of_none hnow, boundSpace?_of_none (hcur.trans hnow)]
  | some id =>
    obtain ⟨p, hp, -, hres⟩ := (hk.tables.claim_iff c id).1 hnow
    obtain ⟨p', hp', -, hres'⟩ := ((h.tables hk).claim_iff c id).1 (hcur.trans hnow)
    rw [boundSpace?_of_some hnow hp, boundSpace?_of_some (hcur.trans hnow) hp']
    refine h.space hk hp (fun hs => ?_) hp' fun hs => ?_
    · rw [(hk.tables.sound _ p hp).idle hs] at hres
      cases hres
    · rw [((h.tables hk).sound _ p' hp').idle hs] at hres'
      cases hres'

/-- **A move keeps what is bound loaded.** -/
lemma Move.loaded (h : k.Move d k') (hk : k.Sound) (hl : k.Loaded) : k'.Loaded := by
  obtain ⟨hcpus, hprocessors⟩ := h.sizes
  refine ⟨hcpus.trans (hl.size.trans hprocessors.symm), fun c => ?_⟩
  cases h.turn hk c with
  | same hcur hactive => rw [hactive, hl.active, h.boundSpace? hk hcur]
  | unload hcur hcur' hactive => rw [hactive, boundSpace?_of_none hcur']
  | giveUp hd hp hres hcur hactive => rw [hactive, boundSpace?_of_none hcur]
  | @bind slot p hd hp hready hcpu hnone hcur hactive =>
    subst hd
    obtain ⟨p', hp', hid', hres'⟩ := ((h.tables hk).claim_iff c p.id).1 hcur
    simp only [Process.dispatchable, Bool.and_eq_true, decide_eq_true_eq] at hready
    have hslot : p.id.slot = slot :=
      (hk.tables.sound slot p hp).slot_eq (by rw [hready.1]; rintro ⟨⟩)
    rw [hactive, if_pos (hl.size ▸ hcpu), boundSpace?_of_some hcur hp']
    refine (h.space hk (hslot ▸ hp) (by rw [hready.1]; rintro ⟨⟩) hp' fun hs => ?_).symm
    rw [((h.tables hk).sound _ p' hp').idle hs] at hres'
    cases hres'

/-- **Moves keep what is bound loaded.** -/
lemma Moves.loaded {A : Deed → Prop} (h : Moves A k k') (hk : k.Sound) (hl : k.Loaded) :
    k'.Loaded :=
  (h.induct (P := fun k₁ => k₁.Sound ∧ k₁.Loaded) ⟨hk, hl⟩
    fun _ _ _ hk₁ _ hmove => ⟨hmove.sound hk₁.1, hmove.loaded hk₁.1 hk₁.2⟩).2

/-! ### Other processors -/

/-- The process in a slot is not bound to a processor. -/
def Off (k : Kernel) (c slot : Nat) : Prop :=
  ∀ p : Process, k.table.records[slot]? = some p → p.resident ≠ some c

/-- A processor has bound and loaded what it had. -/
def Undisturbed (c : Nat) (k k' : Kernel) : Prop :=
  k'.current? c = k.current? c ∧ k'.machine.activeSpace? c = k.machine.activeSpace? c

lemma Undisturbed.refl (c : Nat) (k : Kernel) : Undisturbed c k k := ⟨rfl, rfl⟩

lemma Undisturbed.trans {k'' : Kernel} (h : Undisturbed c k k') (h' : Undisturbed c k' k'') :
    Undisturbed c k k'' :=
  ⟨h'.1.trans h.1, h'.2.trans h.2⟩

/-- A quiet change leaves all processors alone. -/
lemma Quiet.undisturbed (h : k.Quiet k') (hl : k.Loaded) (c : Nat) : Undisturbed c k k' := by
  refine ⟨h.current c, ?_⟩
  rcases h.active c with hsame | ⟨hnone, hunloaded⟩
  · exact hsame
  · rw [hunloaded, hl.active, boundSpace?_of_none hnone]

/-- **A move leaves a processor alone** that it neither takes anything from nor gives anything. -/
lemma Move.undisturbed (h : k.Move d k') (hk : k.Sound) (hl : k.Loaded)
    (hbind : ∀ slot, d ≠ .bind slot) (hoff : ∀ slot, d.GivesUp slot → k.Off c slot) :
    Undisturbed c k k' := by
  cases h.turn hk c with
  | same hcur hactive => exact ⟨hcur, hactive⟩
  | unload hcur hcur' hactive =>
    exact ⟨hcur'.trans hcur.symm, by rw [hactive, hl.active, boundSpace?_of_none hcur]⟩
  | giveUp hd hp hres hcur hactive => exact absurd hres (hoff _ hd _ hp)
  | bind hd => exact absurd hd (hbind _)

/-- **Moves leave a processor alone** that they neither take anything from nor give anything. -/
lemma Moves.undisturbed {A : Deed → Prop} (h : Moves A k k') (hk : k.Sound) (hl : k.Loaded)
    (hbind : ∀ slot, ¬ A (.bind slot))
    (hoff : ∀ d slot, A d → d.GivesUp slot → k.Off c slot) : Undisturbed c k k' := by
  refine (h.induct (P := fun k₁ => k₁.Sound ∧ k₁.Loaded ∧
    (∀ slot, k.Off c slot → k₁.Off c slot) ∧ Undisturbed c k k₁)
    ⟨hk, hl, fun _ hslot => hslot, .refl c k⟩ ?_).2.2.2
  rintro k₁ d k₂ ⟨hk₁, hl₁, hback, hsame⟩ hd hmove
  have hnot : ∀ slot, d ≠ .bind slot := fun slot heq => hbind slot (heq ▸ hd)
  refine ⟨hmove.sound hk₁, hmove.loaded hk₁ hl₁, fun slot hslot p hp => ?_,
    hsame.trans
      (hmove.undisturbed hk₁ hl₁ hnot fun slot hgive => hback slot (hoff d slot hd hgive))⟩
  rcases hmove.resident hk₁ hnot hp with hnone | ⟨q, hq, hres⟩
  · rw [hnone]
    nofun
  · rw [hres]
    exact hback slot hslot q hq

/-- What a processor has bound, no other has. -/
lemma off_of_current (hk : k.Sound) (hcur : k.current? cpu = some id) (hc : cpu ≠ c) :
    k.Off c id.slot := fun p hp hres => by
  obtain ⟨q, hq, -, hqres⟩ := (hk.tables.claim_iff cpu id).1 hcur
  rw [hp] at hq
  cases hq
  rw [hres, Option.some.injEq] at hqres
  exact hc hqres.symm

lemma off_of_unbound {slot : Nat} (hp : k.table.records[slot]? = some p)
    (hres : p.resident = none) : k.Off c slot := fun q hq => by
  rw [hp] at hq
  cases hq
  rw [hres]
  nofun

/-- **A trap takes nothing** from another processor. -/
lemma TrapDeed.off {slot : Nat} (hk : k.Sound) (hcur : k.current? cpu = some id) (hc : cpu ≠ c)
    (hd : k.TrapDeed id f d) (hgive : d.GivesUp slot) : k.Off c slot := by
  have hown : ∀ {d : Deed}, d.Own id → d.GivesUp slot → k.Off c slot := fun hd hgive => by
    have hself := off_of_current hk hcur hc
    cases hd with
    | unbind | clear => exact hgive ▸ hself
    | _ => cases hgive
  cases hd with
  | own hd => exact hown hd hgive
  | call huser hlive hcause hsaved hcall hd =>
    cases hd with
    | own hd => exact hown hd hgive
    | await => exact hgive ▸ off_of_current hk hcur hc
    | @destroy target other p hid hp hres =>
      -- the child was bound nowhere before the call, and so before the trap
      have hget := hsaved.record other.slot
      rw [(live?_eq_some_iff.1 hp).1] at hget
      split at hget
      · obtain ⟨q, hq, rfl⟩ := Option.map_eq_some_iff.1 hget.symm
        exact hgive ▸ off_of_unbound hq hres
      · exact hgive ▸ off_of_unbound hget.symm hres
    | _ => cases hgive
  | fault => cases hgive

/-- A processor that schedules takes nothing from another. -/
lemma schedule_undisturbed (hk : k.Sound) (hl : k.Loaded) (hnone : k.current? cpu = none)
    (hc : cpu ≠ c) : Undisturbed c k (k.schedule cpu).2 := by
  rcases schedule_cases hnone with ⟨slot, p, k₁, hk₁, hcpus, hp, hready, hcpu, -, hlast⟩ | ⟨hk₁, -⟩
  · have hquiet : Moves anyDeed k k₁ := .quiet trivial hk₁
    have hmove : k₁.Move (.bind slot) (k₁.bound cpu slot p) :=
      .bind (hk₁.records ▸ hp) hready (hcpus ▸ hcpu) ((hk₁.current cpu).trans hnone)
    have hbound : Undisturbed c k₁ (k₁.bound cpu slot p) :=
      ⟨(current?_bound (hcpus ▸ hcpu) c).trans (if_neg hc),
        (activeSpace?_bound c).trans (if_neg hc)⟩
    have hl₁ := hquiet.loaded hk hl
    exact ((hk₁.undisturbed hl c).trans hbound).trans
      (hlast.undisturbed (hmove.loaded (hquiet.sound hk) hl₁) c)
  · exact hk₁.undisturbed hl c

/-- **A trap leaves all other processors alone.** -/
lemma trap_undisturbed (hk : k.Sound) (hl : k.Loaded) (hc : cpu ≠ c) :
    Undisturbed c k (k.trap cpu f).2 := by
  cases hcur : k.current? cpu with
  | none =>
    rcases trap_idle (f := f) hcur with ⟨k₁, hk₁, heq⟩ | ⟨k₁, panic, hk₁, heq⟩
    · have hquiet : Moves anyDeed k k₁ := .quiet trivial hk₁
      rw [heq]
      exact (hk₁.undisturbed hl c).trans (schedule_undisturbed (hquiet.sound hk)
        (hquiet.loaded hk hl) ((hk₁.current cpu).trans hcur) hc)
    · rw [heq]
      exact hk₁.undisturbed hl c
  | some id =>
    obtain ⟨k₁, hmoves, hgoes | ⟨panic, heq⟩⟩ := trap_cases (f := f) hk hcur
    · have hsame : Undisturbed c k k₁ := hmoves.undisturbed hk hl TrapDeed.not_bind
        fun d slot hd => hd.off hk hcur hc
      cases hgoes with
      | resume hp hrun hres heq => rwa [heq]
      | schedule hnone heq =>
        rw [heq]
        exact hsame.trans (schedule_undisturbed (hmoves.sound hk) (hmoves.loaded hk hl) hnone hc)
    · rw [heq]
      exact hmoves.undisturbed hk hl TrapDeed.not_bind fun d slot hd => hd.off hk hcur hc

/-! ### What a processor is told -/

/-- A process runs on a processor, with these registers. -/
def RunsOn (k : Kernel) (cpu : Nat) (id : ProcessId) (f : TrapFrame) : Prop :=
  ∃ p, k.live? id = some p ∧ p.status = .running ∧ p.resident = some cpu ∧ p.frame = f

lemma Quiet.runsOn (h : k.Quiet k') (hr : k.RunsOn cpu id f) : k'.RunsOn cpu id f := by
  obtain ⟨p, hp, hrest⟩ := hr
  exact ⟨p, (h.live? id).trans hp, hrest⟩

/-- A processor claims what runs on it. -/
lemma RunsOn.current? (h : k.RunsOn cpu id f) (hk : k.Sound) : k.current? cpu = some id := by
  obtain ⟨p, hp, -, hres, -⟩ := h
  exact (hk.current?_iff hp).2 hres

/-- What a processor is told fits what the kernel keeps. -/
structure Tells (cpu : Nat) (r : Resume × Kernel) : Prop where
  user : ∀ id f, r.1 = .user id f → r.2.RunsOn cpu id f
  idle : r.1 = .idle → r.2.current? cpu = none

/-- A process that is bound to a processor runs on it. -/
lemma runsOn_bound {slot : Nat} (hk : k.Sound) (hp : k.table.records[slot]? = some p)
    (hready : p.dispatchable) : (k.bound cpu slot p).RunsOn cpu p.id p.frame := by
  simp only [Process.dispatchable, Bool.and_eq_true, decide_eq_true_eq] at hready
  have hslot : p.id.slot = slot :=
    (hk.tables.sound slot p hp).slot_eq (by rw [hready.1]; rintro ⟨⟩)
  refine ⟨dispatched cpu p, live?_eq_some_iff.2 ⟨?_, rfl, rfl⟩, rfl, rfl, rfl⟩
  change (k.table.modify slot (dispatched cpu)).records[p.id.slot]? = _
  rw [ProcessTable.getElem?_modify, if_pos hslot.symm, hslot, hp]
  rfl

lemma schedule_tells (hk : k.Sound) (hnone : k.current? cpu = none) :
    Tells cpu (k.schedule cpu) := by
  rcases schedule_cases hnone with ⟨slot, p, k₁, hk₁, -, hp, hready, -, hres, hlast⟩ | ⟨hk₁, hres⟩
  · have hsound : k₁.Sound := hk₁.sound hk
    refine ⟨fun id f h => ?_, fun h => ?_⟩
    · rw [hres] at h
      cases h
      exact hlast.runsOn (runsOn_bound hsound (hk₁.records ▸ hp) hready)
    · rw [hres] at h
      cases h
  · exact ⟨fun id f h => absurd h (hres id f), fun _ => (hk₁.current cpu).trans hnone⟩

lemma GoesOn.tells {r : Resume × Kernel} (h : GoesOn cpu id k r) (hk : k.Sound) :
    Tells cpu r := by
  cases h with
  | resume hp hrun hres heq =>
    rw [heq]
    refine ⟨fun id f h => ?_, nofun⟩
    cases h
    exact ⟨_, hp, hrun, hres, rfl⟩
  | schedule hnone heq =>
    rw [heq]
    exact schedule_tells hk hnone

/-- **What a processor is told after a trap** fits what the kernel keeps. -/
lemma trap_tells (hk : k.Sound) : Tells cpu (k.trap cpu f) := by
  cases hcur : k.current? cpu with
  | none =>
    rcases trap_idle (f := f) hcur with ⟨k₁, hk₁, heq⟩ | ⟨k₁, panic, hk₁, heq⟩
    · rw [heq]
      exact schedule_tells (hk₁.sound hk)
        ((hk₁.current cpu).trans hcur)
    · rw [heq]
      exact ⟨nofun, nofun⟩
  | some id =>
    obtain ⟨k₁, hmoves, hgoes | ⟨panic, heq⟩⟩ := trap_cases (f := f) hk hcur
    · exact hgoes.tells (hmoves.sound hk)
    · rw [heq]
      exact ⟨nofun, nofun⟩

end Kernel

/-! ### Operations -/

namespace Operation

variable {k : Kernel} {op : Operation} {c : Nat}

/-- The processor that performs an operation by which processors take up and give up processes. -/
def performer : Operation → Option Nat
  | .destroy cpu _ | .trap cpu _ | .schedule cpu => some cpu
  | .spawn _ | .allocate _ | .latch _ _ | .store _ _ _ => none

/-- **An operation keeps what is bound loaded.** -/
lemma loaded (hk : k.Sound) (hl : k.Loaded) (hlegal : op.Legal k) : (op.apply k).Loaded := by
  refine op.induct hk hlegal hl (fun _ _ _ hk₁ _ hl₁ hmove => hmove.loaded hk₁ hl₁)
    (fun cpu va => ⟨hl.size.trans Array.size_modify.symm, fun c => ?_⟩)
    fun _ _ _ => ⟨hl.size, hl.active⟩
  exact (Kernel.activeSpace?_modifyProcessor (m := k.machine)
    (f := fun p => { p with faultVa := va }) (fun _ => rfl) c).trans (hl.active c)

/-- **An operation leaves all processors alone** that do not perform it. -/
lemma undisturbed (hk : k.Sound) (hl : k.Loaded) (hlegal : op.Legal k)
    (hc : op.performer ≠ some c) : Kernel.Undisturbed c k (op.apply k) := by
  have hspawn : ∀ d slot, k.SpawnDeed d → d.GivesUp slot → k.Off c slot := fun d slot hd hgive => by
    cases hd with
    | clear hq hs => exact hgive ▸ Kernel.off_of_unbound hq ((hk.tables.sound _ _ hq).idle hs)
    | _ => cases hgive
  have hne : ∀ {cpu : Nat}, some cpu ≠ some c → cpu ≠ c := fun h heq => h (congrArg some heq)
  cases op with
  | spawn image =>
    exact (Kernel.spawn_moves hk image).undisturbed hk hl Kernel.SpawnDeed.not_bind hspawn
  | allocate parent =>
    have hmoves : Kernel.Moves k.SpawnDeed k _ := allocate_moves .quiet .make parent
    exact hmoves.undisturbed hk hl Kernel.SpawnDeed.not_bind hspawn
  | destroy cpu id =>
    refine (destroy_moves hk cpu id).undisturbed hk hl Kernel.DestroyDeed.not_bind
      fun d slot hd hgive => ?_
    cases hd with
    | clear hp hhere =>
      intro q hq hres
      rw [← hgive, (Kernel.live?_eq_some_iff.1 hp).1] at hq
      cases hq
      rcases hhere with hnone | hsome
      · rw [hnone] at hres
        cases hres
      · exact hc (hsome.symm.trans hres)
    | _ => cases hgive
  | trap cpu f => exact Kernel.trap_undisturbed hk hl (hne hc)
  | schedule cpu => exact Kernel.schedule_undisturbed hk hl hlegal (hne hc)
  | latch cpu va =>
    exact ⟨rfl, Kernel.activeSpace?_modifyProcessor (m := k.machine)
      (f := fun p => { p with faultVa := va }) (fun _ => rfl) c⟩
  | store s va data => exact .refl c k

end Operation

/-! ### Any reachable state -/

/-- A fresh kernel has nothing bound and nothing loaded. -/
lemma Kernel.create_loaded {config : Config} {frames : Nat} {k : Kernel}
    (h : create (.ofSize config.cpus frames) config = .ok k) : k.Loaded := by
  obtain ⟨-, hmachine, -, hnone⟩ := create_ok h
  rw [create] at h
  split at h
  · cases h
  · cases h
    refine ⟨Array.size_replicate.trans Array.size_replicate.symm, fun cpu => ?_⟩
    rw [boundSpace?_of_none (hnone cpu), Machine.activeSpace?]
    change ((Array.replicate config.cpus {})[cpu]?.bind fun p : Processor => p.active) = none
    rw [Array.getElem?_replicate]
    split <;> rfl

/-- **Every reachable state is loaded.** -/
lemma Reachable.loaded {config : Config} {frames : Nat} {k : Kernel}
    (h : Reachable config frames k) : k.Loaded := by
  induction h with
  | boot hcreate _ hboot =>
    exact (Kernel.Moves.quiet (A := Kernel.anyDeed) trivial
      (Kernel.quiet_start hcreate hboot)).loaded (Kernel.create_sound hcreate)
      (Kernel.create_loaded hcreate)
  | step hreach op hlegal ih => exact op.loaded hreach.sound ih hlegal

/-- **A run leaves a processor alone** that does not act in it. -/
lemma Run.undisturbed {config : Config} {frames : Nat} {k k' : Kernel} {c : Nat}
    (hk : Reachable config frames k) (h : Run (fun _ op => op.performer ≠ some c) k k') :
    Kernel.Undisturbed c k k' := by
  induction h with
  | refl => exact .refl c k
  | step hrun op hlegal hop ih =>
    have hreach := hrun.reachable hk
    exact ih.trans (op.undisturbed hreach.sound hreach.loaded hlegal hop)

/-- What a processor does next, and what is bound to it then. If it is told to run a process, that
is live and runs on this processor, with the registers that were saved, and its address space is
there and loaded. If it is told to halt, nothing is bound to it and nothing loaded. -/
structure Kernel.Equipped (cpu : Nat) (r : Resume × Kernel) : Prop where
  user : ∀ id f, r.1 = .user id f → ∃ p s, r.2.live? id = some p ∧ p.status = .running ∧
    p.resident = some cpu ∧ p.frame = f ∧ r.2.current? cpu = some id ∧ p.space = some s ∧
    r.2.machine.activeSpace? cpu = some s ∧ (r.2.machine.space? s).isSome
  idle : r.1 = .idle → r.2.current? cpu = none ∧ r.2.machine.activeSpace? cpu = none

/-- A processor that was told what is bound to it is equipped for it. -/
lemma Kernel.Tells.equipped {cpu : Nat} {n : UInt32} {r : Resume × Kernel} (h : Tells cpu r)
    (hk : r.2.Sound) (hs : r.2.Separate n) (hl : r.2.Loaded) : Equipped cpu r := by
  refine ⟨fun id f hr => ?_, fun hr => ?_⟩
  · have hruns := h.user id f hr
    have hcur := hruns.current? hk
    obtain ⟨p, hp, hrun, hres, hframe⟩ := hruns
    obtain ⟨hrec, -, hlive⟩ := live?_eq_some_iff.1 hp
    obtain ⟨s, hspace⟩ := Option.isSome_iff_exists.1
      ((hk.tables.sound _ p hrec).space_iff.2 (ProcessStatus.ne_free_of_isLive hlive))
    refine ⟨p, s, hp, hrun, hres, hframe, hcur, hspace, ?_, hs.housed.exist _ p s hrec hspace⟩
    rw [hl.active, boundSpace?_of_some hcur hrec, hspace]
  · have hnone := h.idle hr
    exact ⟨hnone, by rw [hl.active, boundSpace?_of_none hnone]⟩

/-- **What a processor is told to run, it has bound and loaded**, and nobody takes it away, as long
as fewer than `2 ^ 32 - 1` address spaces have been made. A processor that comes out of a trap, or
out of the scheduler, is equipped for what it does next. Between any two operations, it has the
address space of exactly that process loaded that it has bound, be that live or dying, so that no
address space is loaded that is not there. And whatever others do, the process and the address space
stay where they are until the processor itself traps, schedules or destroys a process. -/
theorem processor_keeps {config : Config} {frames : Nat} {k : Kernel}
    (h : Early config frames k) (cpu : Nat) :
    (∀ f, Kernel.Equipped cpu (k.trap cpu f)) ∧
    (k.current? cpu = none → Kernel.Equipped cpu (k.schedule cpu)) ∧
    (∀ s, k.machine.activeSpace? cpu = some s ↔ ∃ id p, k.current? cpu = some id ∧
      k.table.records[id.slot]? = some p ∧ p.id = id ∧ p.space = some s) ∧
    (∀ s, k.machine.activeSpace? cpu = some s → (k.machine.space? s).isSome) ∧
    ∀ k', Run (fun _ op => op.performer ≠ some cpu) k k' →
      k'.current? cpu = k.current? cpu ∧
        k'.machine.activeSpace? cpu = k.machine.activeSpace? cpu := by
  have hreach := h.reachable
  have hk := hreach.sound
  have hs := h.separate
  have hactive : ∀ s, k.machine.activeSpace? cpu = some s ↔ ∃ id p, k.current? cpu = some id ∧
      k.table.records[id.slot]? = some p ∧ p.id = id ∧ p.space = some s := fun s => by
    rw [hreach.loaded.active, Kernel.boundSpace?, Option.bind_eq_some_iff]
    constructor
    · rintro ⟨id, hcur, hspace⟩
      obtain ⟨p, hp, hs⟩ := Option.bind_eq_some_iff.1 hspace
      exact ⟨id, p, hcur, hp, ((hk.tables.claim_iff_of_slot hp).1 hcur).1, hs⟩
    · rintro ⟨id, p, hcur, hp, -, hs⟩
      exact ⟨id, hcur, Option.bind_eq_some_iff.2 ⟨p, hp, hs⟩⟩
  refine ⟨fun f => ?_, fun hnone => ?_, hactive, fun s hloaded => ?_,
    fun k' hrun => hrun.undisturbed hreach⟩
  · have hnext := hreach.step (.trap cpu f) trivial
    have hnexts := (Operation.trap cpu f).separate hk trivial hs
    exact (Kernel.trap_tells hk).equipped hnext.sound hnexts hnext.loaded
  · have hnext := hreach.step (.schedule cpu) hnone
    have hnexts := (Operation.schedule cpu).separate hk hnone hs
    exact (Kernel.schedule_tells hk hnone).equipped hnext.sound hnexts hnext.loaded
  · obtain ⟨id, p, -, hp, -, hspace⟩ := (hactive s).1 hloaded
    exact hs.housed.exist _ p s hp hspace

/-- A process that another processor destroys stays loaded where it runs. -/
theorem processor_keeps_doomed : ∃ k k' : Kernel, Early { maxProcesses := 2, cpus := 2 } 16 k ∧
    Run (fun _ op => op.performer ≠ some 0) k k' ∧ k.live? (ProcessId.self.next 0) ≠ none ∧
    k'.live? (ProcessId.self.next 0) = none ∧
    k'.current? 0 = some (ProcessId.self.next 0) ∧ k'.machine.activeSpace? 0 = some 1 := by
  have hboot : Booted { maxProcesses := 2, cpus := 2 } 16 _ := ⟨_, [0, 1], rfl, .refl _, rfl⟩
  have hspawn := hboot.history.snoc (.spawn ⟨⟨0⟩, []⟩) trivial
  have hrun := (hspawn.snoc (.schedule 0) rfl).early hboot (by decide)
  obtain ⟨-, -, -, -, hkeeps⟩ := processor_keeps hrun 0
  obtain ⟨hcur, hactive⟩ := hkeeps _
    (.step .refl (.destroy 1 (ProcessId.self.next 0)) trivial (by decide))
  exact ⟨_, _, hrun, .step .refl (.destroy 1 (ProcessId.self.next 0)) trivial (by decide),
    by decide, by decide, hcur.trans rfl, hactive.trans rfl⟩

end Exokernel
