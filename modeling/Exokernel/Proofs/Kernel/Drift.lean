/-
What memory is like when processors only change hands.

* `Kernel.Drifts`: address spaces that are still there show what they showed, with the same
  contents, and whoever is live was live before, with the same address space;
* `Deed.Calm`, `Moves.drifts`: **moves that are not about memory** come to no more than that;
* `trap_drifts`, `schedule_drifts`: neither do processors that look for something to run, nor traps
  with calm deeds only.
-/
import Exokernel.Proofs.Kernel.Bystanders

namespace Exokernel

/-- Who is found after a record was changed, was found before, and is like this. -/
lemma ProcessTable.find?_of_modify {t : ProcessTable} {slot : Nat} {g : Process → Process}
    {R : Process → Process → Prop} {id : ProcessId} {p' : Process}
    (hp' : (t.modify slot g).find? id = some p') (hsame : ∀ p, R p p)
    (hg : ∀ p : Process, t.records[slot]? = some p → (g p).status.isLive →
      p.status.isLive ∧ (g p).id = p.id ∧ R p (g p)) :
    ∃ p, t.find? id = some p ∧ R p p' := by
  simp only [find?, Option.filter_eq_some_iff, Process.holds, Bool.and_eq_true,
    decide_eq_true_eq] at hp' ⊢
  obtain ⟨hrec, hid, hlive⟩ := hp'
  rw [getElem?_modify] at hrec
  split at hrec
  · next hslot =>
    obtain ⟨p, hp, rfl⟩ := Option.map_eq_some_iff.1 hrec
    obtain ⟨hlive', hsame, hlike⟩ := hg p (hslot ▸ hp) hlive
    exact ⟨p, ⟨hp, hsame.symm.trans hid, hlive'⟩, hlike⟩
  · exact ⟨p', ⟨hrec, hid, hlive⟩, hsame p'⟩

namespace Kernel

variable {k k' k'' : Kernel} {id : ProcessId} {p : Process} {cpu n : Nat} {f : TrapFrame}
  {d : Deed}

/-- **Memory stays as it is**, but for address spaces that are gone. -/
structure Drifts (k k' : Kernel) : Prop where
  contents : ∀ s page e, k'.machine.mapping? s page = some e →
    k'.machine.frames.contents? e.frame = k.machine.frames.contents? e.frame
  there : ∀ s, (k'.machine.space? s).isSome → (k.machine.space? s).isSome
  pages : ∀ s page, (k'.machine.space? s).isSome →
    k'.machine.mapping? s page = k.machine.mapping? s page
  living : ∀ id s, k'.spaceOf? id = some s → k.spaceOf? id = some s

namespace Drifts

lemma refl (k : Kernel) : k.Drifts k :=
  ⟨fun _ _ _ _ => rfl, fun _ hs => hs, fun _ _ _ => rfl, fun _ _ hs => hs⟩

/-- A page shows what it showed, or its address space is gone and it shows nothing. -/
lemma page (h : k.Drifts k') (s page : Nat) :
    k'.machine.mapping? s page = k.machine.mapping? s page ∨ k'.machine.mapping? s page = none := by
  cases hspace : k'.machine.space? s with
  | none => exact .inr (by rw [Machine.mapping?, hspace]; rfl)
  | some a => exact .inl (h.pages s page (by rw [hspace]; rfl))

/-- No page comes to show anything. -/
lemma fewer (h : k.Drifts k') (s page : Nat) (e : Mapping)
    (he : k'.machine.mapping? s page = some e) : k.machine.mapping? s page = some e := by
  rcases h.page s page with hsame | hnone
  · exact hsame ▸ he
  · rw [hnone] at he
    cases he

lemma trans (h : k.Drifts k') (h' : k'.Drifts k'') : k.Drifts k'' where
  contents s page e he :=
    (h'.contents s page e he).trans (h.contents s page e (h'.fewer s page e he))
  there s hs := h.there s (h'.there s hs)
  pages s page hs := (h'.pages s page hs).trans (h.pages s page (h'.there s hs))
  living id s hs := h.living id s (h'.living id s hs)

/-- Nothing changes but records. -/
lemma of_machine (hm : k'.machine = k.machine)
    (hliving : ∀ id s, k'.spaceOf? id = some s → k.spaceOf? id = some s) : k.Drifts k' :=
  ⟨fun _ _ _ _ => by rw [hm], fun _ hs => hm ▸ hs, fun _ _ _ => by rw [hm], hliving⟩

/-- A change of one record that makes nobody live and leaves the process its memory. -/
lemma of_modify {slot : Nat} {g : Process → Process}
    (hg : ∀ p : Process, k.table.records[slot]? = some p → (g p).status.isLive →
      p.status.isLive ∧ (g p).id = p.id ∧ (g p).space = p.space) :
    k.Drifts { k with table := k.table.modify slot g } := by
  refine .of_machine rfl fun id s hs => ?_
  obtain ⟨p', hp', hspace⟩ := spaceOf?_eq_some_iff.1 hs
  obtain ⟨p, hp, hsame⟩ := ProcessTable.find?_of_modify (R := fun p p' => p'.space = p.space) hp'
    (fun _ => rfl) hg
  exact spaceOf?_eq_some_iff.2 ⟨p, hp, hsame ▸ hspace⟩

/-- An edit leaves the process its memory. -/
lemma edit {g : Process → Process} (hp : k.live? id = some p) (hg : p.Edit (g p)) :
    k.Drifts (k.modify id g) := by
  refine .of_modify fun q hq _ => ?_
  obtain ⟨hrec, -, hlive⟩ := live?_eq_some_iff.1 hp
  rw [hrec] at hq
  cases hq
  exact ⟨hlive, hg.id, hg.space⟩

/-- So does a processor that gives it up. -/
lemma unbind (hp : k.live? id = some p) (hres : p.resident = some cpu) :
    k.Drifts (k.unbind cpu id) := by
  rw [unbind_eq hp hres]
  have hmodify : k.Drifts (k.modify id fun p => { p with resident := none }) :=
    .of_modify fun q _ hlive => ⟨hlive, rfl, rfl⟩
  exact hmodify.trans
    ⟨fun _ _ _ _ => rfl, fun _ hs => hs, fun _ _ _ => rfl, fun _ _ hs => hs⟩

end Drifts

/-- A quiet change is no change of memory. -/
lemma Quiet.drifts (h : k.Quiet k') : k.Drifts k' where
  contents _ _ _ _ := by rw [h.frames]
  there s hs := h.space? s ▸ hs
  pages s page _ := h.mapping? s page
  living id s hs := by rwa [spaceOf?, h.live?] at hs

/-- A process that is cleared away takes its address space along, and no other. -/
lemma Clears.drifts (h : k.Clears id p k') : k.Drifts k' := by
  have hspaces : ∀ s, k'.machine.space? s = (vacated k.machine p.space).space? s := fun s => by
    rw [Machine.space?, h.spaces]
    rfl
  have hgone : ∀ s, (k'.machine.space? s).isSome → p.space ≠ some s ∧
      (k.machine.space? s).isSome := fun s hs => by
    rw [hspaces, space?_vacated] at hs
    split at hs
    · cases hs
    · next hne => exact ⟨hne, hs⟩
  refine ⟨fun _ _ e _ => ?_, fun s hs => (hgone s hs).2, fun s page hs => ?_, fun other s hs => ?_⟩
  · rw [h.frames]
    cases p.space with
    | none => rfl
    | some s => exact Machine.contents?_dismantle e.frame
  · rw [Machine.mapping?, hspaces]
    exact mapping?_vacated (hgone s hs).1 page
  · obtain ⟨p', hp', hspace⟩ := spaceOf?_eq_some_iff.1 hs
    obtain ⟨hrec, hid, hlive⟩ := live?_eq_some_iff.1 hp'
    rw [h.records, ProcessTable.getElem?_modify] at hrec
    split at hrec
    · obtain ⟨r, -, rfl⟩ := Option.map_eq_some_iff.1 hrec
      cases hlive
    · exact spaceOf?_eq_some_iff.2 ⟨p', live?_eq_some_iff.2 ⟨hrec, hid, hlive⟩, hspace⟩

/-- A deed that is not about memory. -/
def Deed.Calm : Deed → Prop
  | .quiet | .edit _ | .await _ | .unbind _ | .bind _ | .doom _ | .clear _ => True
  | .make _ _ | .remap _ | .work _ _ _ | .deliver _ => False

lemma Deed.Own.calm (hd : d.Own id) : d.Calm := by
  cases hd <;> trivial

/-- **A calm move** leaves memory as it is. -/
lemma Move.drifts (h : k.Move d k') (hd : d.Calm) : k.Drifts k' := by
  cases h with
  | quiet h => exact h.drifts
  | edit hp hg => exact .edit hp hg
  | await hp hg hres hrun =>
    exact (Drifts.edit hp hg).trans
      (.unbind (live?_modify hp hg.id hg.live) (hg.resident.trans hres))
  | unbind hp hres hrun => exact .unbind hp hres
  | @bind cpu slot p hp hready hcpu hnone =>
    have hmodify : k.Drifts { k with table := k.table.modify slot (dispatched cpu) } := by
      refine .of_modify fun q hq _ => ?_
      rw [hp] at hq
      cases hq
      simp only [Process.dispatchable, Bool.and_eq_true, decide_eq_true_eq] at hready
      exact ⟨by rw [hready.1]; rfl, rfl, rfl⟩
    exact hmodify.trans
      ⟨fun _ _ _ _ => rfl, fun _ hs => hs, fun _ _ _ => rfl, fun _ _ hs => hs⟩
  | @doom id _ _ hp hres =>
    have hmodify : k.Drifts { k with table := k.table.modify id.slot Process.doomed } :=
      .of_modify fun q _ hlive => by cases hlive
    exact hmodify.trans
      ⟨fun _ _ _ _ => rfl, fun _ hs => hs, fun _ _ _ => rfl, fun _ _ hs => hs⟩
  | clear hp hid hs h => exact h.drifts
  | make | remap | work | deliver => cases hd

lemma Moves.drifts {A : Deed → Prop} (h : Moves A k k') (hA : ∀ d, A d → d.Calm) :
    k.Drifts k' :=
  h.induct (P := k.Drifts) (.refl k) fun _ d _ hdrifts hd hmove =>
    hdrifts.trans (hmove.drifts (hA d hd))

/-! ### Processors -/

/-- A processor that looks for something to run. -/
lemma schedule_drifts (hnone : k.current? cpu = none) : k.Drifts (k.schedule cpu).2 :=
  Moves.drifts (A := Deed.Calm) (schedule_moves hnone trivial fun _ => trivial) fun _ hd => hd

lemma GoesOn.drifts {r : Resume × Kernel} (h : GoesOn cpu id k r) : k.Drifts r.2 := by
  cases h with
  | resume hp hrun hres heq =>
    rw [heq]
    exact .refl k
  | schedule hnone heq =>
    rw [heq]
    exact schedule_drifts hnone

/-- **A trap with calm deeds only** leaves memory as it is. -/
lemma trap_drifts (hk : k.Sound)
    (hcalm : ∀ id, k.current? cpu = some id → ∀ d, k.TrapDeed id f d → d.Calm) :
    k.Drifts (k.trap cpu f).2 := by
  cases hcur : k.current? cpu with
  | none =>
    rcases trap_idle (f := f) hcur with ⟨k₁, hk₁, heq⟩ | ⟨k₁, panic, hk₁, heq⟩
    · rw [heq]
      exact hk₁.drifts.trans (schedule_drifts ((hk₁.current cpu).trans hcur))
    · rw [heq]
      exact hk₁.drifts
  | some id =>
    obtain ⟨k₁, hmoves, hgoes | ⟨panic, heq⟩⟩ := trap_cases (f := f) hk hcur
    · exact (hmoves.drifts (hcalm id hcur)).trans hgoes.drifts
    · rw [heq]
      exact hmoves.drifts (hcalm id hcur)

end Kernel

end Exokernel
