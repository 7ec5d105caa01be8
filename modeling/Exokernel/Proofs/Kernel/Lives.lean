/-
How long processes live.

* `Deed.Ends`, `Moves.live?`: a process stays live until it is doomed or cleared away;
* `Moves.gone`: a process that is gone stays gone, unless one is made;
* `Moves.free`: so does a free slot;
* `Moves.makesNoSpace`: where no process is made, no address space is;
* `Moves.space_gone`: an address space goes with its process;
* `call_stages`: **a call that a process makes by a trap**, and what comes after it;
* `TrapDeed.ends`: whom a trap may end;
* `destroyOn_gone`, `trap_destroy_gone`: **whoever is destroyed** is not live any more.
-/
import Exokernel.Proofs.Kernel.Bystanders

namespace Exokernel.Kernel

variable {k k' : Kernel} {id : ProcessId} {p q : Process} {cpu slot s : Nat} {f : TrapFrame}
  {d : Deed} {A : Deed → Prop}

/-! ### Live processes -/

/-- Two live processes have two slots. -/
lemma slot_ne_of_live? {other : ProcessId} (hp : k.live? id = some p) (hq : k.live? other = some q)
    (hne : id ≠ other) : id.slot ≠ other.slot := fun hslot => by
  obtain ⟨hrec, hid, -⟩ := live?_eq_some_iff.1 hp
  obtain ⟨hrec', hid', -⟩ := live?_eq_some_iff.1 hq
  rw [hslot, hrec'] at hrec
  cases hrec
  exact hne (hid.symm.trans hid')

/-- A deed by which a process comes to an end. -/
def Deed.Ends (id : ProcessId) : Deed → Prop
  | .doom other | .clear other => other = id
  | .quiet | .edit _ | .await _ | .unbind _ | .bind _ | .make _ _ | .remap _ | .work _ _ _
  | .deliver _ => False

/-- A process that is ready is live. -/
lemma isLive_of_dispatchable (hready : p.dispatchable) : p.status.isLive := by
  simp only [Process.dispatchable, Bool.and_eq_true, decide_eq_true_eq] at hready
  rw [hready.1]
  rfl

/-- **A process stays live** until it is doomed or cleared away. -/
lemma Move.live? (h : k.Move d k') (hk : k.Sound) (hd : ¬ d.Ends id) (hp : k.live? id = some p) :
    ∃ p', k'.live? id = some p' := by
  obtain ⟨hrec, hid, hlive⟩ := live?_eq_some_iff.1 hp
  obtain ⟨p', hp', hchange⟩ := h.changed hk hrec
  cases hchange with
  | same => exact ⟨_, live?_eq_some_iff.2 ⟨hp', hid, hlive⟩⟩
  | edit hslot hlive hf hopen =>
    exact ⟨_, live?_eq_some_iff.2 ⟨hp', hf.id.trans hid, hf.live⟩⟩
  | await hslot hlive hf hres hrun =>
    exact ⟨_, live?_eq_some_iff.2 ⟨hp', hf.id.trans hid, hf.live⟩⟩
  | unbind hslot hlive hres hrun => exact ⟨_, live?_eq_some_iff.2 ⟨hp', hid, hlive⟩⟩
  | bind hready => exact ⟨_, live?_eq_some_iff.2 ⟨hp', hid, rfl⟩⟩
  | doom | clear => exact absurd hid hd
  | make hfree => exact absurd hfree (ProcessStatus.ne_free_of_isLive hlive)
  | deliver => exact ⟨_, live?_eq_some_iff.2 ⟨hp', hid, rfl⟩⟩

lemma Moves.live? (h : Moves A k k') (hk : k.Sound) (hA : ∀ d, A d → ¬ d.Ends id)
    (hp : k.live? id = some p) : ∃ p', k'.live? id = some p' := by
  refine (h.induct (P := fun k₁ => k₁.Sound ∧ ∃ p', k₁.live? id = some p') ⟨hk, p, hp⟩ ?_).2
  rintro k₁ d k₂ ⟨hk₁, p₁, hp₁⟩ hd hmove
  exact ⟨hmove.sound hk₁, hmove.live? hk₁ (hA d hd) hp₁⟩

/-- **A process that is gone** stays gone, unless one is made. -/
lemma Move.gone (h : k.Move d k') (hk : k.Sound) (hd : ∀ caller number, d ≠ .make caller number)
    (hnone : k.live? id = none) : k'.live? id = none := by
  cases hp' : k'.live? id with
  | none => rfl
  | some p' =>
    obtain ⟨hrec, hid, hlive'⟩ := live?_eq_some_iff.1 hp'
    obtain ⟨p, hp, hchange⟩ := h.change hk hrec
    -- whoever is live after the move, was live before it, under the same name
    have hback : p.id = p'.id → p.status.isLive → k'.live? id = none := fun hsame hlive => by
      rw [live?_eq_some_iff.2 ⟨hp, hsame.trans hid, hlive⟩] at hnone
      cases hnone
    rw [hp'] at hback
    cases hchange with
    | same => exact hback rfl hlive'
    | edit hslot hlive hf hopen => exact hback hf.id.symm hlive
    | await hslot hlive hf hres hrun => exact hback hf.id.symm hlive
    | unbind hslot hlive hres hrun => exact hback rfl hlive
    | bind hready => exact hback rfl (isLive_of_dispatchable hready)
    | doom | clear => cases hlive'
    | make => exact absurd rfl (hd _ _)
    | deliver hslot hlive hopen hmail => exact hback rfl hlive

lemma Moves.gone (h : Moves A k k') (hk : k.Sound) (hA : ∀ caller number, ¬ A (.make caller number))
    (hnone : k.live? id = none) : k'.live? id = none := by
  refine (h.induct (P := fun k₁ => k₁.Sound ∧ k₁.live? id = none) ⟨hk, hnone⟩ ?_).2
  rintro k₁ d k₂ ⟨hk₁, hnone₁⟩ hd hmove
  exact ⟨hmove.sound hk₁,
    hmove.gone hk₁ (fun caller number heq => hA caller number (heq ▸ hd)) hnone₁⟩

/-- **A slot that is free** stays so, unless a process is made. -/
lemma Move.free (h : k.Move d k') (hk : k.Sound) (hd : ∀ caller number, d ≠ .make caller number)
    (hp : k.table.records[slot]? = some p) (hs : p.status = .free) :
    k'.table.records[slot]? = some p := by
  obtain ⟨p', hp', hchange⟩ := h.changed hk hp
  have hnot : ¬ p.status.isLive := fun hlive => ProcessStatus.ne_free_of_isLive hlive hs
  cases hchange with
  | same => exact hp'
  | edit hslot hlive hf hopen => exact absurd hlive hnot
  | await hslot hlive hf hres hrun => exact absurd hlive hnot
  | unbind hslot hlive hres hrun => exact absurd hlive hnot
  | bind hready => exact absurd (isLive_of_dispatchable hready) hnot
  | doom hslot hlive hres => exact absurd hlive hnot
  | clear hslot hne => exact absurd hs hne
  | make => exact absurd rfl (hd _ _)
  | deliver hslot hlive hopen hmail => exact absurd hlive hnot

lemma Moves.free (h : Moves A k k') (hk : k.Sound) (hA : ∀ caller number, ¬ A (.make caller number))
    (hp : k.table.records[slot]? = some p) (hs : p.status = .free) :
    k'.table.records[slot]? = some p := by
  refine (h.induct (P := fun k₁ => k₁.Sound ∧ k₁.table.records[slot]? = some p) ⟨hk, hp⟩ ?_).2
  rintro k₁ d k₂ ⟨hk₁, hp₁⟩ hd hmove
  exact ⟨hmove.sound hk₁,
    hmove.free hk₁ (fun caller number heq => hA caller number (heq ▸ hd)) hp₁ hs⟩

/-! ### Address spaces -/

/-- An address space that is not there is not made by a move that makes none with its number. -/
lemma Move.absent (h : k.Move d k')
    (hd : ∀ caller number, d = .make caller number → number.toNat ≠ s)
    (hnone : k.machine.space? s = none) : k'.machine.space? s = none := by
  rw [← Option.not_isSome_iff_eq_none] at hnone ⊢
  intro hthere
  rcases h.numbers with ⟨⟨caller, rfl⟩, -, hspaces⟩ | ⟨-, -, hspaces⟩
  · rw [hspaces, if_neg (hd _ _ rfl)] at hthere
    exact hnone hthere
  · exact hnone (hspaces s hthere)

/-- **No address space is made.** -/
structure MakesNoSpace (k k' : Kernel) : Prop where
  next : k'.machine.spaces.nextId = k.machine.spaces.nextId
  fewer : ∀ s, (k'.machine.space? s).isSome → (k.machine.space? s).isSome

namespace MakesNoSpace

lemma of_spaces (h : k'.machine.spaces = k.machine.spaces) : k.MakesNoSpace k' :=
  ⟨by rw [h], fun s hs => by rwa [Machine.space?, h] at hs⟩

lemma trans {k'' : Kernel} (h : k.MakesNoSpace k') (h' : k'.MakesNoSpace k'') :
    k.MakesNoSpace k'' :=
  ⟨h'.next.trans h.next, fun s hs => h.fewer s (h'.fewer s hs)⟩

/-- The next number is still free. -/
lemma next_free (h : k.MakesNoSpace k')
    (hfree : k.machine.space? k.machine.spaces.nextId.toNat = none) :
    k'.machine.space? k'.machine.spaces.nextId.toNat = none := by
  rw [← Option.not_isSome_iff_eq_none] at hfree ⊢
  exact fun hthere => hfree (h.fewer _ (h.next ▸ hthere))

end MakesNoSpace

/-- No address space is made where no process is. -/
lemma Moves.makesNoSpace (h : Moves A k k')
    (hA : ∀ caller number, ¬ A (.make caller number)) : k.MakesNoSpace k' :=
  h.induct (P := k.MakesNoSpace) (.of_spaces rfl) fun _ d _ hmade hd hmove => by
    rcases hmove.numbers with ⟨⟨caller, rfl⟩, -⟩ | ⟨-, hnext, hfewer⟩
    · exact absurd hd (hA _ _)
    · exact hmade.trans ⟨hnext, hfewer⟩

/-- A process that is cleared away takes its address space along. -/
lemma Clears.space?_none (h : k.Clears id p k') (hs : p.space = some s) :
    k'.machine.space? s = none := by
  have hgone := space?_vacated k.machine p.space s
  rw [if_pos hs] at hgone
  refine Option.not_isSome_iff_eq_none.1 ?_
  rw [Machine.space?, h.spaces]
  exact Bool.eq_false_iff.1 hgone

/-- A slot keeps its address space, or that is not there any more. -/
lemma Move.space_gone (h : k.Move d k') (hk : k.Sound) (hp : k.table.records[slot]? = some p)
    (hs : p.space = some s) : (∃ p', k'.table.records[slot]? = some p' ∧ p'.space = some s) ∨
      k'.machine.space? s = none := by
  obtain ⟨p', hp', hchange⟩ := h.changed hk hp
  cases hchange with
  | edit hslot hlive hf hopen => exact .inl ⟨p', hp', hf.space.trans hs⟩
  | await hslot hlive hf hres hrun => exact .inl ⟨_, hp', hf.space.trans hs⟩
  | make hfree => exact absurd hfree ((hk.tables.sound slot p hp).space_iff.1 (by rw [hs]; rfl))
  | clear hslot hused =>
    cases h with
    | @clear _ _ q hq _ _ h =>
      rw [hslot, hp] at hq
      cases hq
      exact .inr (h.space?_none hs)
  | _ => exact .inl ⟨_, hp', hs⟩

/-- **An address space goes with its process**: once the slot does not hold it any more, it is not
there any more, unless another one is made with its number. -/
lemma Moves.space_gone (h : Moves A k k') (hk : k.Sound)
    (hA : ∀ caller number, A (.make caller number) → number.toNat ≠ s)
    (hp : k.table.records[slot]? = some p) (hs : p.space = some s)
    (hq : k'.table.records[slot]? = some q) (hne : q.space ≠ some s) :
    k'.machine.space? s = none := by
  refine ((h.induct (P := fun k₁ => k₁.Sound ∧
    ((∃ p₁, k₁.table.records[slot]? = some p₁ ∧ p₁.space = some s) ∨ k₁.machine.space? s = none))
    ⟨hk, .inl ⟨p, hp, hs⟩⟩ ?_).2).resolve_left ?_
  · rintro k₁ d k₂ ⟨hk₁, ⟨p₁, hp₁, hs₁⟩ | hnone⟩ hd hmove
    · exact ⟨hmove.sound hk₁, hmove.space_gone hk₁ hp₁ hs₁⟩
    · exact ⟨hmove.sound hk₁,
        .inr (hmove.absent (fun caller number heq => hA caller number (heq ▸ hd)) hnone)⟩
  · rintro ⟨p', hp', hs'⟩
    rw [hq] at hp'
    cases hp'
    exact hne hs'

/-! ### Calls -/

/-- A processor that goes on comes to nothing but quiet changes, and is given a process. -/
inductive Deed.Dispatch : Deed → Prop where
  | quiet : Dispatch .quiet
  | bind (slot : Nat) : Dispatch (.bind slot)

lemma Deed.Dispatch.not_make (h : d.Dispatch) (caller : Option ProcessId) (number : UInt32) :
    d ≠ .make caller number := by
  rintro rfl
  cases h

lemma GoesOn.moves {r : Resume × Kernel} (h : GoesOn cpu id k r) :
    Moves Deed.Dispatch k r.2 := by
  cases h with
  | resume hp hrun hres heq =>
    rw [heq]
    exact .refl
  | schedule hnone heq =>
    rw [heq]
    exact schedule_moves hnone .quiet .bind

/-- **A trap comes in two stages**: first the kernel does what the trap is taken for, and then its
processor goes on. -/
lemma trap_stages (hk : k.Sound) (hcur : k.current? cpu = some id) :
    ∃ k₁, Moves (k.TrapDeed id f) k k₁ ∧ Moves Deed.Dispatch k₁ (k.trap cpu f).2 := by
  obtain ⟨k₁, hmoves, hgoes | ⟨panic, heq⟩⟩ := trap_cases (f := f) hk hcur
  · exact ⟨k₁, hmoves, hgoes.moves⟩
  · refine ⟨k₁, hmoves, ?_⟩
    rw [heq]
    exact .refl

/-- **What comes of a call that a process makes by a trap**: a kernel that has saved the registers
of the process carries it out, the process has its answer or is cleared away, and the processor goes
on. -/
lemma call_stages {c : Syscall} (hk : k.Sound) (hcur : k.current? cpu = some id)
    (hcalls : k.Calls id f c) : ∃ k₁ p k₂, k.Saved id f k₁ ∧ k₁.Sound ∧ k₁.live? id = some p ∧
      p.frame = f ∧ p.resident = some cpu ∧
      Moves (Deed.Own id) (k₁.execute cpu id c).2 k₂ ∧ GoesOn cpu id k₂ (k.trap cpu f) := by
  obtain ⟨k₁, p, request, hsaved, hp, hframe, hres, htrap⟩ := trap_call hk hcur hcalls
  obtain ⟨p₀, hp₀⟩ := Option.isSome_iff_exists.1 hcalls.2.1
  have hk₁ := hsaved.sound hk hp₀
  have hcur₁ := (hk₁.current?_iff hp).2 hres
  obtain ⟨hexec, hrel⟩ := execute_moves (c := c) hk₁ hp hres
  have hk₂ := hexec.sound hk₁
  obtain ⟨hconclude, hleaves⟩ := conclude_moves (A := Deed.Own id) hk₂
    (hexec.onlyOn hk₁ CallDeed.not_bind (onlyOn_of_live? hp hres)) (fun _ hd => hd) request hrel
  have hcur₂ := hcur₁ ▸ hexec.current CallDeed.not_bind cpu
  have hcur₃ : Kernel.current? _ cpu = some id ∨ Kernel.current? _ cpu = none :=
    (hconclude.current (fun _ => nofun) cpu).elim (fun h => h ▸ hcur₂) .inr
  obtain ⟨k₃, hleave, hgoes⟩ := leave_cases (hconclude.sound hk₂) (fun _ hd => hd) hcur₃ hleaves
  exact ⟨k₁, p, k₃, hsaved, hk₁, hp, hframe, hres, hconclude.trans hleave, htrap ▸ hgoes⟩

/-! ### Destroying -/

/-- What is done to make a process is about slots that were free, and ends nobody. -/
lemma SpawnDeed.not_ends (h : k.SpawnDeed d) (hp : k.live? id = some p) : ¬ d.Ends id := by
  intro hends
  cases h with
  | clear hq hs =>
    obtain rfl : _ = id := hends
    rw [live?_eq_none hq fun hlive => ProcessStatus.ne_free_of_isLive hlive hs] at hp
    cases hp
  | _ => cases hends

/-- **A trap ends** nobody but the process that takes it, and whom that destroys. -/
lemma TrapDeed.ends {v : ProcessId} (h : k.TrapDeed id f d) (hends : d.Ends v) :
    d = .clear id ∧ v = id ∨
    ∃ target, k.Calls id f (.destroy target) ∧ k.resolve id target true = .ok v := by
  cases h with
  | own hd =>
    cases hd with
    | clear => exact .inl ⟨rfl, hends.symm⟩
    | _ => cases hends
  | call huser hlive hcause hsaved hc hd =>
    cases hd with
    | own hd =>
      cases hd with
      | clear => exact .inl ⟨rfl, hends.symm⟩
      | _ => cases hends
    | destroy hid hp hres | doom hid hne =>
      cases hends
      exact .inr ⟨_, ⟨huser, hlive, hcause, hc⟩, hsaved.resolve .. ▸ hid⟩
    | _ => cases hends
  | fault => cases hends

/-- Nobody is made but by a call. -/
lemma TrapDeed.not_make (h : k.TrapDeed id f d) (hcause : TrapCause.ofNumber f.trapno ≠ .syscall)
    (caller : Option ProcessId) (number : UInt32) : d ≠ .make caller number := by
  rintro rfl
  cases h with
  | own hd => cases hd
  | call huser hlive hcall => exact hcause hcall

/-- **Whoever is destroyed** is not live any more. -/
lemma destroyOn_gone (hk : k.Sound) (cpu : Nat) (id : ProcessId) :
    (k.destroyOn cpu id).2.live? id = none := by
  cases hp : k.live? id with
  | none =>
    rw [destroyOn, beginFree?_none hp]
    exact hp
  | some p =>
    obtain ⟨hrec, -, -⟩ := live?_eq_some_iff.1 hp
    by_cases hhere : p.resident = none ∨ p.resident = some cpu
    · have hclears := destroyOn_clears hk hp hhere
      refine live?_eq_none (p := p.cleared) ?_ (by rintro ⟨⟩)
      rw [hclears.records, ProcessTable.getElem?_modify, if_pos rfl, hrec]
      rfl
    · rw [not_or] at hhere
      obtain ⟨holder, hres⟩ := Option.ne_none_iff_exists'.1 hhere.1
      have hne : holder ≠ cpu := fun heq => hhere.2 (heq ▸ hres)
      have hquiet := destroyOn_dooms hp hres hne
      refine live?_eq_none (p := p.doomed) ?_ (by rintro ⟨⟩)
      rw [hquiet.records]
      exact find?_doomed hp

/-- Destroying somebody is told, and then done. -/
lemma exit_eq {s target : ProcessId} (cpu : Nat) (hid : k.resolve s target true = .ok id) :
    ∃ k₀, k.Quiet k₀ ∧ (k.exit cpu s target).2 = (k₀.destroyOn cpu id).2 := by
  rw [exit, hid]
  dsimp only
  refine ⟨k.log .info (if id = s then s!"[{s}] exiting gracefully"
    else s!"[{s}] destroying {id}"), quiet_log _ _, ?_⟩
  split
  · next heq => rw [heq]
  · next heq => rw [heq]

/-- **Whoever a process destroys**, is not live any more after the trap. -/
lemma trap_destroy_gone {target : ProcessId} (hk : k.Sound) (hcur : k.current? cpu = some id)
    (hcalls : k.Calls id f (.destroy target)) {v : ProcessId}
    (hv : k.resolve id target true = .ok v) : (k.trap cpu f).2.live? v = none := by
  obtain ⟨k₁, p, k₂, hsaved, hk₁, -, -, -, hrest, hgoes⟩ := call_stages hk hcur hcalls
  obtain ⟨k₀, hk₀, heq⟩ := exit_eq cpu ((hsaved.resolve ..).trans hv)
  have hsound : k₀.Sound := hk₀.sound hk₁
  rw [execute, heq] at hrest
  have hdestroy : Moves anyDeed k₀ (k₀.destroyOn cpu v).2 :=
    destroyOn_moves hsound trivial (fun _ _ _ => trivial) fun _ _ _ _ _ => trivial
  have hdestroyed := hdestroy.sound hsound
  have hgone := hrest.gone hdestroyed (by rintro _ _ ⟨⟩) (destroyOn_gone hsound cpu v)
  exact hgoes.moves.gone (hrest.sound hdestroyed) (by rintro _ _ ⟨⟩) hgone

end Exokernel.Kernel
