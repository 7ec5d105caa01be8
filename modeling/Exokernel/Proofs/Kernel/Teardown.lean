/-
Giving up, destroying and dispatching processes, as moves.

* `Kernel.reap_reaps`: clearing away a dying process for whoever has it bound;
* `Kernel.clearStale_moves`, `Kernel.destroyOn_moves`: what a processor does about a process that is
  to go;
* `Kernel.edit_unbind_moves`, `Kernel.preempt_moves`: what it does about one that stays live;
* `Kernel.schedule_moves`: what it does when it needs another.
-/
import Exokernel.Kernel.Trap
import Exokernel.Proofs.Kernel.Moves

namespace Exokernel.Kernel

variable {k k' : Kernel} {id : ProcessId} {p : Process} {cpu : Nat} {A : Deed → Prop}

/-! ### Clearing away -/

lemma find?_doomed (hp : k.live? id = some p) :
    (k.table.modify id.slot Process.doomed).records[id.slot]? = some p.doomed := by
  rw [ProcessTable.getElem?_modify, if_pos rfl, (live?_eq_some_iff.1 hp).1]
  rfl

/-- What destruction begins with: a live process is doomed. -/
lemma beginFree?_eq (hp : k.live? id = some p) :
    k.table.beginFree? id = some (p.resident, k.table.modify id.slot Process.doomed) := by
  rw [live?] at hp
  rw [ProcessTable.beginFree?, hp]
  rfl

lemma beginFree?_none (hp : k.live? id = none) : k.table.beginFree? id = none := by
  rw [live?] at hp
  rw [ProcessTable.beginFree?, hp]

/-- Nothing is cleared away but a dying process that is bound to this holder. -/
lemma reap_of_not {holder : Option Nat}
    (h : ∀ p : Process, k.table.records[id.slot]? = some p →
      ¬ (p.id = id ∧ p.status = .dying ∧ p.resident = holder)) : k.reap id holder = k := by
  have hnone : k.table.takeDying? id holder = none := by
    rw [ProcessTable.takeDying?]
    split
    · rfl
    · next p hp => rw [if_neg (h p hp)]
  rw [reap, hnone]

/-- The machine once a holder, if there is one, has nothing loaded. -/
def unloaded (m : Machine) : Option Nat → Machine
  | none => m
  | some cpu => m.activate cpu none

lemma activeSpace?_unloaded (m : Machine) (holder : Option Nat) (c : Nat) :
    (unloaded m holder).activeSpace? c = if holder = some c then none else m.activeSpace? c := by
  cases holder with
  | none => rfl
  | some cpu => rw [unloaded, activeSpace?_unload]; simp only [Option.some.injEq]

lemma same_unloaded (holder : Option Nat) :
    k.SameProcessors { k with machine := unloaded k.machine holder } := by
  cases holder with
  | none => exact .refl k
  | some cpu => exact same_activate cpu none

/-- What is left of a kernel in which a dying process with record `p` was cleared away, for a
holder. -/
structure Reaps (k : Kernel) (id : ProcessId) (p : Process) (holder : Option Nat) (k' : Kernel) :
    Prop where
  records : k'.table.records = (k.table.modify id.slot Process.cleared).records
  free : k'.table.free = id.slot :: k.table.free
  cpus : k'.cpus = k.cpus
  frames : k'.machine.frames = (vacated k.machine p.space).frames
  spaces : k'.machine.spaces = (vacated k.machine p.space).spaces
  windows : k'.machine.windows = k.machine.windows
  processors : k'.machine.processors = (unloaded k.machine holder).processors

/-- A message about it changes nothing of that. -/
lemma Reaps.log {holder : Option Nat} (h : k.Reaps id p holder k') (level : LogLevel)
    (message : String) : k.Reaps id p holder (k'.log level message) := by
  have hquiet := quiet_log (k := k') level message
  refine ⟨hquiet.records.trans h.records, hquiet.free.trans h.free, ?_,
    hquiet.frames.trans h.frames, hquiet.spaces.trans h.spaces,
    hquiet.windows.trans h.windows, ?_⟩
  · rw [← h.cpus, Kernel.log]
    split <;> rfl
  · rw [← h.processors, Kernel.log]
    split <;> rfl

/-- A record whose process is dying and bound to the given holder is taken. -/
lemma takeDying?_of_dying {t : ProcessTable} {holder : Option Nat}
    (hp : t.records[id.slot]? = some p) (hid : p.id = id) (hs : p.status = .dying)
    (hres : p.resident = holder) : t.takeDying? id holder =
      some (p.space, t.modify id.slot fun p => { p with resident := none, space := none }) := by
  rw [ProcessTable.takeDying?, hp]
  exact if_pos ⟨hid, hs, hres⟩

/-- **A record that was taken and is given back** is cleared, and its slot is the next one that is
free. -/
lemma finishFree_taken {t : ProcessTable} (hp : t.records[id.slot]? = some p) (hid : p.id = id)
    (hs : p.status = .dying) :
    ((t.modify id.slot fun p => { p with resident := none, space := none }).finishFree id).records =
        (t.modify id.slot Process.cleared).records ∧
      ((t.modify id.slot fun p => { p with resident := none, space := none }).finishFree id).free =
        id.slot :: t.free := by
  have hget : (t.modify id.slot fun p =>
      { p with resident := none, space := none }).records[id.slot]? =
      some { p with resident := none, space := none } := by
    rw [ProcessTable.getElem?_modify, if_pos rfl, hp]
    rfl
  have hfinish : (t.modify id.slot fun p =>
      { p with resident := none, space := none }).finishFree id =
      { (t.modify id.slot fun p => { p with resident := none, space := none }).modify id.slot
          (fun p => { p with status := .free, faultHandler := none, mailbox := {} }) with
        free := id.slot :: t.free } := by
    rw [ProcessTable.finishFree, hget]
    exact if_pos ⟨hid, hs⟩
  rw [hfinish]
  refine ⟨Array.ext_getElem? fun i => ?_, rfl⟩
  change ((t.modify id.slot fun p => { p with resident := none, space := none }).modify
    id.slot (fun p =>
      { p with status := .free, faultHandler := none, mailbox := {} })).records[i]? = _
  simp only [ProcessTable.getElem?_modify]
  split
  · cases t.records[i]? <;> rfl
  · rfl

/-- **A dying process is cleared away** by whoever it is bound to. -/
lemma reap_reaps {holder : Option Nat} (hp : k.table.records[id.slot]? = some p)
    (hid : p.id = id) (hs : p.status = .dying) (hres : p.resident = holder) :
    k.Reaps id p holder (k.reap id holder) := by
  obtain ⟨hrecords, hfree⟩ := finishFree_taken hp hid hs
  rw [reap, takeDying?_of_dying hp hid hs hres]
  refine Reaps.log ?_ _ _
  cases hspace : p.space with
  | none =>
    cases holder <;>
      exact ⟨hrecords, hfree, rfl, by rw [hspace]; rfl, by rw [hspace]; rfl, rfl, rfl⟩
  | some s =>
    have hvacated : vacated k.machine p.space = k.machine.dismantle s := by rw [hspace]; rfl
    cases holder with
    | none =>
      exact ⟨hrecords, hfree, rfl, by rw [hvacated], by rw [hvacated],
        Machine.windows_dismantle, Machine.processors_dismantle⟩
    | some cpu =>
      have hmachine := Machine.dismantle_withMemory (s := s) (k.machine.activate cpu none) k.machine
      refine ⟨hrecords, hfree, rfl, ?_, ?_, congrArg (·.windows) hmachine,
        congrArg (·.processors) hmachine⟩
      · rw [hvacated]
        exact congrArg (·.frames) hmachine
      · rw [hvacated]
        exact congrArg (·.spaces) hmachine

/-- What is cleared away is gone, if its holder claims it no more. -/
lemma Reaps.clears (h : k.Reaps id p p.resident k')
    (hclaim : ∀ c, p.resident = some c → k.current? c = none) : k.Clears id p k' where
  records := h.records
  free := h.free
  current c := by
    rw [current?, h.cpus]
    split
    · next hc => exact hclaim c hc
    · rfl
  frames := h.frames
  spaces := h.spaces
  windows := h.windows
  same := (same_unloaded p.resident).trans (.of_eq (by rw [h.cpus]) h.processors)
  active c := by
    rw [activeSpace?_of_eq h.processors c, activeSpace?_unloaded]

/-- A claim that is dropped first does not matter. -/
lemma Clears.of_dropClaim (h : (k.dropClaim cpu id).Clears id p k') (hres : p.resident = some cpu) :
    k.Clears id p k' where
  records := h.records
  free := h.free
  current c := by
    rw [h.current, current?_dropClaim, hres]
    split
    · rfl
    · next hc => exact if_neg fun hdrop => hc (congrArg some hdrop.1)
  frames := h.frames
  spaces := h.spaces
  windows := h.windows
  same := by
    have hsame : k.SameProcessors (k.dropClaim cpu id) := .of_eq Array.size_modify rfl
    exact hsame.trans h.same
  active := h.active

/-- A processor finds that what it had bound is dying, and clears it away. -/
lemma clearStale_clears (hk : k.table.Consistent k.current?)
    (hp : k.table.records[id.slot]? = some p) (hid : p.id = id) (hs : p.status = .dying)
    (hres : p.resident = some cpu) : k.Clears id p (k.clearStale cpu id) := by
  have hreaps : (k.dropClaim cpu id).Reaps id p p.resident (k.clearStale cpu id) := by
    rw [hres]
    exact reap_reaps (k := k.dropClaim cpu id) hp hid hs hres
  refine (hreaps.clears fun c hc => ?_).of_dropClaim hres
  rw [hres, Option.some.injEq] at hc
  rw [current?_dropClaim, if_pos ⟨hc, hc ▸ hid ▸ hk.claim_eq hp hres⟩]

/-- A processor that claims something else has nothing of this name to clear away. -/
lemma quiet_clearStale (hk : k.Sound) (hcur : k.current? cpu ≠ some id) :
    k.Quiet (k.clearStale cpu id) := by
  have hreap : (k.dropClaim cpu id).reap id (some cpu) = k.dropClaim cpu id :=
    reap_of_not fun p hp ⟨hid, _, hres⟩ => hcur (hid ▸ hk.tables.claim_eq hp hres)
  rw [clearStale, hreap]
  exact quiet_dropClaim hcur

/-- **A processor whose process is gone** clears it away, if that was left to it. -/
lemma clearStale_moves (hk : k.Sound) (hcur : k.current? cpu = some id → k.live? id = none)
    (hq : A .quiet) (hclear : A (.clear id)) : Moves A k (k.clearStale cpu id) := by
  by_cases hc : k.current? cpu = some id
  · obtain ⟨p, hp, hid, hres⟩ := (hk.tables.claim_iff cpu id).1 hc
    have hsound := hk.tables.sound id.slot p hp
    have hdying : p.status = .dying := by
      have hnot : ¬ p.status.isLive := fun hlive => by
        rw [live?_eq_some_iff.2 ⟨hp, hid, hlive⟩] at hcur
        cases hcur hc
      cases hs : p.status with
      | free =>
        rw [hsound.idle hs] at hres
        cases hres
      | dying => rfl
      | _ => exact absurd (by rw [hs]; rfl) hnot
    exact .one hclear (.clear hp hid (by rw [hdying]; nofun)
      (clearStale_clears hk.tables hp hid hdying hres))
  · exact .quiet hq (quiet_clearStale hk hc)

lemma current?_reap {holder : Option Nat} (c : Nat) :
    (k.reap id holder).current? c = k.current? c := by
  rw [reap]
  split
  · rfl
  · next space table _ =>
    rw [(quiet_log _ _).current]
    cases holder <;> cases space <;> rfl

/-- A processor that clears away what it had bound claims nothing. -/
lemma current?_clearStale (hcur : k.current? cpu = some id ∨ k.current? cpu = none) :
    (k.clearStale cpu id).current? cpu = none := by
  rw [clearStale, current?_reap, current?_dropClaim]
  split
  · rfl
  · next h => exact hcur.resolve_left fun hc => h ⟨rfl, hc⟩

/-! ### Destroying -/

/-- It does not matter that a process was doomed before it is cleared away. -/
lemma Clears.of_doomed
    (h : Clears { k with table := k.table.modify id.slot Process.doomed } id p.doomed k') :
    k.Clears id p k' where
  records := by
    rw [h.records]
    refine Array.ext_getElem? fun i => ?_
    simp only [ProcessTable.getElem?_modify]
    split
    · cases k.table.records[i]? <;> rfl
    · rfl
  free := h.free
  current := h.current
  frames := h.frames
  spaces := h.spaces
  windows := h.windows
  same := ⟨h.same.cpus, h.same.processors, h.same.received⟩
  active := h.active

/-- A process that nobody has bound is cleared away at once. -/
lemma reap_none_clears (hp : k.live? id = some p) (hres : p.resident = none) :
    k.Clears id p ({ k with table := k.table.modify id.slot Process.doomed }.reap id none) := by
  have hdoomed : p.doomed.resident = none := hres
  have hreaps : Reaps { k with table := k.table.modify id.slot Process.doomed } id p.doomed
      p.doomed.resident
      ({ k with table := k.table.modify id.slot Process.doomed }.reap id none) := by
    rw [hdoomed]
    exact reap_reaps (find?_doomed hp) (live?_eq_some_iff.1 hp).2.1 rfl hdoomed
  refine (hreaps.clears fun c hc => ?_).of_doomed
  rw [hdoomed] at hc
  cases hc

/-- **Destroying a process** that no other processor has bound clears it away. -/
lemma destroyOn_clears (hk : k.Sound) (hp : k.live? id = some p)
    (hres : p.resident = none ∨ p.resident = some cpu) : k.Clears id p (k.destroyOn cpu id).2 := by
  obtain ⟨-, hid, -⟩ := live?_eq_some_iff.1 hp
  rw [destroyOn, beginFree?_eq hp]
  rcases hres with hnone | hsome
  · rw [hnone]
    exact reap_none_clears hp hnone
  · rw [hsome]
    dsimp only
    rw [if_pos rfl]
    have hclears := clearStale_clears
      (k := { k with table := k.table.modify id.slot Process.doomed })
      (tables_doomed hk.tables hp hsome) (find?_doomed hp) hid rfl hsome
    exact hclears.of_doomed

/-- **Destroying a process** that another processor has bound leaves that to it. -/
lemma destroyOn_dooms {holder : Nat} (hp : k.live? id = some p) (hres : p.resident = some holder)
    (hne : holder ≠ cpu) : Quiet { k with
      table := k.table.modify id.slot Process.doomed
      machine := k.machine.interrupt holder TrapNumber.reschedule } (k.destroyOn cpu id).2 := by
  rw [destroyOn, beginFree?_eq hp, hres]
  dsimp only
  rw [if_neg hne, log]
  split <;> exact .of_processors rfl rfl (fun _ => rfl) rfl rfl rfl rfl rfl

/-- Destroying a process clears it away, or leaves that to the processor that has it bound. -/
lemma destroyOn_moves (hk : k.Sound) (hq : A .quiet)
    (hclear : ∀ p, k.live? id = some p → p.resident = none ∨ p.resident = some cpu → A (.clear id))
    (hdoom : ∀ p holder, k.live? id = some p → p.resident = some holder → holder ≠ cpu →
      A (.doom id)) : Moves A k (k.destroyOn cpu id).2 := by
  cases hp : k.live? id with
  | none =>
    rw [destroyOn, beginFree?_none hp]
    exact .refl
  | some p =>
    obtain ⟨hrec, hid, hlive⟩ := live?_eq_some_iff.1 hp
    by_cases hhere : p.resident = none ∨ p.resident = some cpu
    · exact .one (hclear p hp hhere) (.clear hrec hid (ProcessStatus.ne_free_of_isLive hlive)
        (destroyOn_clears hk hp hhere))
    · rw [not_or] at hhere
      obtain ⟨holder, hres⟩ := Option.ne_none_iff_exists'.1 hhere.1
      have hne : holder ≠ cpu := fun heq => hhere.2 (heq ▸ hres)
      exact (Moves.one (hdoom p holder hp hres hne) (.doom hp hres)).trans
        (.quiet hq (destroyOn_dooms hp hres hne))

/-- A processor that has to schedule after a destruction claims nothing. -/
lemma destroyOn_switch (hk : k.Sound) (h : (k.destroyOn cpu id).1 = .switch) :
    (k.destroyOn cpu id).2.current? cpu = none := by
  rw [destroyOn] at h ⊢
  cases hp : k.live? id with
  | none =>
    rw [beginFree?_none hp] at h
    cases h
  | some p =>
    rw [beginFree?_eq hp] at h ⊢
    cases hres : p.resident with
    | none =>
      rw [hres] at h
      cases h
    | some holder =>
      rw [hres] at h
      dsimp only at h ⊢
      split
      · next hholder =>
        subst hholder
        exact current?_clearStale (.inl ((hk.current?_iff hp).2 hres))
      · next hholder =>
        rw [if_neg hholder] at h
        cases h

/-! ### Giving up -/

/-- A processor that gives up the process that it has bound claims nothing. -/
lemma current?_unbind (hk : k.Sound) (hp : k.live? id = some p) (hres : p.resident = some cpu) :
    (k.unbind cpu id).current? cpu = none := by
  rw [unbind_eq hp hres, current?_dropClaim]
  exact if_pos ⟨rfl, (hk.current?_iff hp).2 hres⟩

/-- So it does if it edits the process before. -/
lemma current?_modify_unbind {f : Process → Process} (hk : k.Sound) (hp : k.live? id = some p)
    (hres : p.resident = some cpu) (hf : p.Edit (f p)) :
    ((k.modify id f).unbind cpu id).current? cpu = none := by
  rw [modify_unbind_eq hp hf hres, current?_dropClaim]
  exact if_pos ⟨rfl, (hk.current?_iff hp).2 hres⟩

/-- A process that runs is made ready to run before its processor gives it up. -/
lemma edit_paused (hlive : p.status.isLive) (c : Prop) [Decidable c] :
    p.Edit (if p.status = .running ∧ c then { p with status := .runnable } else p) := by
  split
  · next h =>
    refine ⟨rfl, rfl, rfl, rfl, rfl, nofun, fun hblocked hrec => ?_, rfl⟩
    rw [h.1] at hblocked
    cases hblocked hrec
  · exact ⟨rfl, rfl, rfl, rfl, hlive, fun h => h, fun hblocked => hblocked, rfl⟩

/-- **A process is edited and given up** by the processor that has it bound. -/
lemma edit_unbind_moves {f : Process → Process} (hk : k.Sound) (hp : k.live? id = some p)
    (hres : p.resident = some cpu) (hf : p.Edit (f p))
    (hopen : (f p).mailbox.receiving → p.mailbox.receiving) (hrun : (f p).status ≠ .running)
    (hedit : A (.edit id)) (hunbind : A (.unbind id)) :
    Moves A k ((k.modify id f).unbind cpu id) ∧
      ((k.modify id f).unbind cpu id).current? cpu = none := by
  have hmove : k.Move (.edit id) (k.modify id f) := .edit hp hf hopen
  have hp' := live?_modify (f := f) hp hf.id hf.live
  have hres' : (f p).resident = some cpu := hf.resident.trans hres
  exact ⟨(Moves.one hedit hmove).trans (.one hunbind (.unbind hp' hres' hrun)),
    current?_modify_unbind hk hp hres hf⟩

/-- **A processor is taken** from what it has bound. -/
lemma preempt_moves (hk : k.Sound) (hcur : k.current? cpu = some id) (hq : A .quiet)
    (hedit : A (.edit id)) (hunbind : A (.unbind id)) (hclear : A (.clear id)) :
    Moves A k (k.preempt cpu id) ∧ (k.preempt cpu id).current? cpu = none := by
  rw [preempt]
  cases hp : k.live? id with
  | none => exact ⟨clearStale_moves hk (fun _ => hp) hq hclear, current?_clearStale (.inl hcur)⟩
  | some p =>
    obtain ⟨-, -, hlive⟩ := live?_eq_some_iff.1 hp
    have hres := (hk.current?_iff hp).1 hcur
    refine edit_unbind_moves hk hp hres (edit_paused hlive _) (fun h => ?_) ?_ hedit hunbind
    · split at h <;> exact h
    · split
      · nofun
      · next h => exact fun hrun => h ⟨hrun, hres⟩

/-! ### Finding the next process -/

/-- **What scheduling comes to** on a processor that claims nothing: a process that is ready is
bound to it and resumed, or nothing happens. -/
lemma schedule_cases (hnone : k.current? cpu = none) :
    (∃ (slot : Nat) (p : Process) (k₁ : Kernel), k.Quiet k₁ ∧ k₁.cpus = k.cpus ∧
      k.table.records[slot]? = some p ∧ p.dispatchable ∧ cpu < k.cpus.size ∧
      (k.schedule cpu).1 = .user p.id p.frame ∧ (k₁.bound cpu slot p).Quiet (k.schedule cpu).2) ∨
    (k.Quiet (k.schedule cpu).2 ∧ ∀ id f, (k.schedule cpu).1 ≠ .user id f) := by
  have hready : ∀ {slot}, k.dispatchable slot = true →
      ∃ p : Process, k.table.records[slot]? = some p ∧ p.dispatchable := fun h =>
    (Option.any_eq_true ..).1 h
  rw [schedule]
  split
  · next hcpu =>
    split
    · next slot hnext =>
      obtain ⟨p, hp, hd⟩ := hready (List.find?_some hnext)
      refine .inl ⟨slot, p, { k with table := { k.table with cursor := slot } },
        .of_processors rfl rfl (fun _ => rfl) rfl rfl rfl rfl rfl, rfl, hp, hd, hcpu, ?_⟩
      rw [dispatch_eq (k := { k with table := { k.table with cursor := slot } }) hp]
      exact ⟨rfl, quiet_log _ _⟩
    · split
      · next hidle =>
        obtain ⟨p, hp, hd⟩ := hready hidle.2
        refine .inl ⟨idleSlot, p, k, .refl k, rfl, hp, hd, hcpu, ?_⟩
        rw [dispatch_eq hp]
        exact ⟨rfl, quiet_log _ _⟩
      · have hlog := quiet_log (k := k) .trace s!"cpu {cpu}: nothing to run, halting"
        exact .inr ⟨hlog.trans (quiet_unload ((hlog.current cpu).trans hnone)), nofun⟩
  · exact .inr ⟨.refl k, nofun⟩

/-- **A processor that claims nothing finds the next process.** -/
lemma schedule_moves (hnone : k.current? cpu = none) (hq : A .quiet)
    (hbind : ∀ slot, A (.bind slot)) : Moves A k (k.schedule cpu).2 := by
  rcases schedule_cases hnone with ⟨slot, p, k₁, hk₁, hcpus, hp, hd, hcpu, -, hlast⟩ | ⟨h, -⟩
  · have hmove : k₁.Move (.bind slot) (k₁.bound cpu slot p) :=
      .bind (hk₁.records ▸ hp) hd (hcpus ▸ hcpu) ((hk₁.current cpu).trans hnone)
    exact ((Moves.quiet hq hk₁).trans (.one (hbind slot) hmove)).trans (.quiet hq hlast)
  · exact .quiet hq h

end Exokernel.Kernel
