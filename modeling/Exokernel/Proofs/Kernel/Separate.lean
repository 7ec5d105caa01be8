/-
Kernels whose address spaces are kept apart.

The numbers of address spaces come round: after the last one they begin again, and an address space
that is made then may take the place of another. As long as no number is given out that is in use,
this does not happen.

* `ProcessTable.Housed`: every address space is held by exactly one record;
* `Kernel.Separate`: **address spaces are kept apart**: they are housed, nothing of the memory is
  lost, and a certain number is free when it is the next one;
* `Move.separate`, `Moves.separate`: **moves with numbered deeds keep address spaces apart**;
* `Move.keeps`, `Moves.keeps`: moves that are not about a slot leave its record and its pages alone.
-/
import Exokernel.Proofs.Kernel.Bystanders

namespace Exokernel

/-! ### Address spaces and who holds them -/

/-- **Every address space is held** by exactly one record, and records hold no others. -/
structure ProcessTable.Housed (t : ProcessTable) (m : Machine) : Prop where
  exist : ∀ (slot : Nat) (p : Process) (s : Nat),
    t.records[slot]? = some p → p.space = some s → (m.space? s).isSome
  held : ∀ s, (m.space? s).isSome →
    ∃ (slot : Nat) (p : Process), t.records[slot]? = some p ∧ p.space = some s
  unique : ∀ (slot slot' : Nat) (p p' : Process) (s : Nat), t.records[slot]? = some p →
    t.records[slot']? = some p' → p.space = some s → p'.space = some s → slot = slot'

namespace ProcessTable.Housed

variable {t t' : ProcessTable} {m m' : Machine}

/-- The address space that a slot holds. -/
lemma of_spaces (h : t.Housed m)
    (ht : ∀ slot : Nat, t'.records[slot]?.map (·.space) = t.records[slot]?.map (·.space))
    (hm : ∀ s, (m'.space? s).isSome = (m.space? s).isSome) : t'.Housed m' := by
  have hback : ∀ (slot : Nat) (p : Process), t'.records[slot]? = some p →
      ∃ q : Process, t.records[slot]? = some q ∧ q.space = p.space := fun slot p hp => by
    have hslot := ht slot
    rw [hp, Option.map_some] at hslot
    exact Option.map_eq_some_iff.1 hslot.symm
  refine ⟨fun slot p s hp hs => ?_, fun s hs => ?_, fun slot slot' p p' s hp hp' hs hs' => ?_⟩
  · obtain ⟨q, hq, hqs⟩ := hback slot p hp
    rw [hm]
    exact h.exist slot q s hq (hqs.trans hs)
  · obtain ⟨slot, q, hq, hqs⟩ := h.held s (hm s ▸ hs)
    have hslot := ht slot
    rw [hq, Option.map_some] at hslot
    obtain ⟨p, hp, hps⟩ := Option.map_eq_some_iff.1 hslot
    exact ⟨slot, p, hp, hps.trans hqs⟩
  · obtain ⟨q, hq, hqs⟩ := hback slot p hp
    obtain ⟨q', hq', hqs'⟩ := hback slot' p' hp'
    exact h.unique slot slot' q q' s hq hq' (hqs.trans hs) (hqs'.trans hs')

/-- A change of a record that leaves its address space alone. -/
lemma modify (h : t.Housed m) {slot : Nat} {f : Process → Process}
    (hf : ∀ p, t.records[slot]? = some p → (f p).space = p.space)
    (hm : ∀ s, (m'.space? s).isSome = (m.space? s).isSome) : (t.modify slot f).Housed m' := by
  refine h.of_spaces (fun i => ?_) hm
  rw [getElem?_modify]
  split
  · next hi =>
    subst hi
    cases hp : t.records[slot]? with
    | none => rfl
    | some p => simp [hf p hp]
  · rfl

/-- A process that is cleared away takes its address space along. -/
lemma clear (h : t.Housed m) {slot : Nat} {p : Process} (hp : t.records[slot]? = some p)
    (ht : t'.records = (t.modify slot Process.cleared).records)
    (hm : ∀ s, (m'.space? s).isSome =
      if p.space = some s then false else (m.space? s).isSome) : t'.Housed m' := by
  have hget : ∀ i : Nat, t'.records[i]? =
      if slot = i then some p.cleared else t.records[i]? := fun i => by
    rw [ht, getElem?_modify]
    split
    · next hi => rw [← hi, hp]; rfl
    · rfl
  refine ⟨fun i q s hq hs => ?_, fun s hs => ?_, fun i j q r s hq hr hs hs' => ?_⟩
  · rw [hget] at hq
    split at hq
    · cases hq
      cases hs
    · next hi =>
      rw [hm, if_neg fun hps => hi (h.unique slot i p q s hp hq hps hs)]
      exact h.exist i q s hq hs
  · rw [hm] at hs
    split at hs
    · cases hs
    · next hne =>
      obtain ⟨i, q, hq, hqs⟩ := h.held s hs
      refine ⟨i, q, ?_, hqs⟩
      rw [hget, if_neg fun hi => hne ?_, hq]
      rw [← hi, hp] at hq
      cases hq
      exact hqs
  · rw [hget] at hq hr
    split at hq
    · cases hq
      cases hs
    · split at hr
      · cases hr
        cases hs'
      · exact h.unique i j q r s hq hr hs hs'

/-- A process that is made holds an address space that was not there. -/
lemma occupy (h : t.Housed m) {slot s : Nat} {p q : Process} {free : List Nat}
    (hp : t.records[slot]? = some p) (hempty : p.space = none) (hq : q.space = some s)
    (hnone : m.space? s = none)
    (hm : ∀ s', (m'.space? s').isSome = if s = s' then true else (m.space? s').isSome) :
    ({ t.modify slot fun _ => q with free } : ProcessTable).Housed m' := by
  have hget : ∀ i : Nat, ({ t.modify slot fun _ => q with free } : ProcessTable).records[i]? =
      if slot = i then some q else t.records[i]? := fun i => by
    change (t.modify slot fun _ => q).records[i]? = _
    rw [getElem?_modify]
    split
    · next hi => rw [← hi, hp]; rfl
    · rfl
  have hother : ∀ (i : Nat) (r : Process), t.records[i]? = some r → r.space ≠ some s :=
    fun i r hr hs => by
      have hsome := h.exist i r s hr hs
      rw [hnone] at hsome
      cases hsome
  refine ⟨fun i r s' hr hs => ?_, fun s' hs => ?_, fun i j r r' s' hr hr' hs hs' => ?_⟩
  · rw [hget] at hr
    rw [hm]
    split
    · rfl
    · next hne =>
      split at hr
      · cases hr
        rw [hq, Option.some.injEq] at hs
        exact absurd hs hne
      · exact h.exist i r s' hr hs
  · rw [hm] at hs
    split at hs
    · next heq => exact ⟨slot, q, (hget slot).trans (if_pos rfl), heq ▸ hq⟩
    · obtain ⟨i, r, hr, hrs⟩ := h.held s' hs
      refine ⟨i, r, ?_, hrs⟩
      rw [hget, if_neg fun hi => ?_, hr]
      rw [← hi, hp] at hr
      cases hr
      rw [hempty] at hrs
      cases hrs
  · rw [hget] at hr hr'
    split at hr <;> split at hr'
    · next hi hj => exact hi.symm.trans hj
    · cases hr
      rw [hq] at hs
      exact absurd (hs ▸ hs') (hother j r' hr')
    · cases hr'
      rw [hq] at hs'
      exact absurd (hs' ▸ hs) (hother i r hr)
    · exact h.unique i j r r' s' hr hr' hs hs'

end ProcessTable.Housed

namespace Kernel

variable {k k' : Kernel} {id : ProcessId} {p q : Process} {d : Deed} {slot : Nat} {n : UInt32}

/-- An edit leaves every address space held. -/
lemma housed_modify {f : Process → Process} (hh : k.table.Housed k.machine)
    (hp : k.live? id = some p) (hf : p.Edit (f p)) :
    (k.modify id f).table.Housed (k.modify id f).machine := by
  refine hh.modify (fun q hq => ?_) fun _ => rfl
  rw [(live?_eq_some_iff.1 hp).1] at hq
  cases hq
  exact hf.space

lemma housed_unbind {cpu : Nat} (hh : k.table.Housed k.machine) (hp : k.live? id = some p)
    (hres : p.resident = some cpu) :
    (k.unbind cpu id).table.Housed (k.unbind cpu id).machine := by
  rw [unbind_eq hp hres]
  exact hh.modify (fun _ _ => rfl) fun _ => rfl

/-! ### Address spaces that are kept apart -/

/-- **Address spaces are kept apart**, and stay so if the next one that is made has number `n`: each
is held by exactly one record, no reference to a frame is lost, and number `n` is free if it is the
next one that is given out. -/
structure Separate (k : Kernel) (n : UInt32) : Prop where
  housed : k.table.Housed k.machine
  accounted : k.machine.Accounted [] []
  free : k.machine.spaces.nextId = n → k.machine.space? n.toNat = none

/-- A live process has an address space that is there. -/
lemma Separate.isSome_space? (hk : k.Separate n) {s : Nat} (hs : k.spaceOf? id = some s) :
    (k.machine.space? s).isSome := by
  obtain ⟨p, hp, hspace⟩ := spaceOf?_eq_some_iff.1 hs
  exact hk.housed.exist _ p s (live?_eq_some_iff.1 hp).1 hspace

/-- Two processes do not share an address space. -/
lemma Separate.spaceOf?_inj (hk : k.Separate n) {other : ProcessId} {s : Nat}
    (h : k.spaceOf? id = some s) (h' : k.spaceOf? other = some s) : id = other := by
  obtain ⟨p, hp, hs⟩ := spaceOf?_eq_some_iff.1 h
  obtain ⟨q, hq, hs'⟩ := spaceOf?_eq_some_iff.1 h'
  obtain ⟨hrec, hid, -⟩ := live?_eq_some_iff.1 hp
  obtain ⟨hrec', hid', -⟩ := live?_eq_some_iff.1 hq
  have hslot := hk.housed.unique id.slot other.slot p q s hrec hrec' hs hs'
  rw [hslot, hrec'] at hrec
  cases hrec
  exact hid.symm.trans hid'

/-- Two slots do not share an address space. -/
lemma Separate.space_ne (hk : k.Separate n) {other s : Nat} (hp : k.table.records[other]? = some p)
    (hps : p.space = some s) (hq : k.table.records[slot]? = some q) (hne : other ≠ slot) {s' : Nat}
    (hqs : q.space = some s') : s ≠ s' := by
  rintro rfl
  exact hne (hk.housed.unique other slot p q s hp hq hps hqs)

namespace Move

/-- **A move keeps every address space held**, if it gives out no number that is in use. -/
lemma housed (h : k.Move d k') (hk : k.Sound) (hd : d.Numbered n) (hs : k.Separate n) :
    k'.table.Housed k'.machine := by
  have hh := hs.housed
  cases h with
  | quiet h =>
    exact hh.of_spaces (fun slot => by rw [h.records]) fun s => by rw [h.space?]
  | edit hp hf hopen => exact housed_modify hh hp hf
  | await hp hf hres hrun =>
    exact housed_unbind (housed_modify hh hp hf) (live?_modify hp hf.id hf.live)
      (hf.resident.trans hres)
  | unbind hp hres hrun => exact housed_unbind hh hp hres
  | bind hp hready hcpu hnone => exact hh.modify (fun _ _ => rfl) fun _ => rfl
  | doom hp hres => exact hh.modify (fun _ _ => rfl) fun _ => rfl
  | @clear _ id p hp hid hused h =>
    refine hh.clear hp h.records fun s => ?_
    rw [Machine.space?, h.spaces]
    exact space?_vacated k.machine p.space s
  | make hcaller hstatus h =>
    obtain ⟨slot, rest, s, machine, hrow, hcreate, rfl, rfl⟩ := allocateAs_cases h
    have hspaces := Machine.space?_createSpace hcreate
    have hnone : k.machine.space? s = none := by
      obtain ⟨-, -, -, rfl, -⟩ := Machine.createSpace_cases hcreate
      rw [show k.machine.spaces.nextId = n from hd]
      exact hs.free hd
    obtain ⟨p, hp, hfree⟩ := (hk.tables.mem_free_iff slot).1 (hrow ▸ List.mem_cons_self)
    have hempty : p.space = none := by
      cases hspace : p.space with
      | none => rfl
      | some _ =>
        exact absurd hfree ((hk.tables.sound slot p hp).space_iff.1 (by rw [hspace]; rfl))
    exact hh.occupy hp hempty rfl hnone hspaces
  | remap hspace h => exact hh.of_spaces (fun _ => rfl) h.sameShape.spaces
  | work hspace h => exact hh.of_spaces (fun _ => rfl) (Machine.Works.sameShape h).spaces
  | deliver hp hopen hmail h =>
    exact hh.modify (f := fun p => { p with mailbox := _, status := .runnable })
      (fun _ _ => rfl) h.sameShape.spaces

/-- **A move keeps address spaces apart**, if it makes no other one than that with number `n`. -/
lemma separate (h : k.Move d k') (hk : k.Sound) (hd : d.Numbered n) (hs : k.Separate n) :
    k'.Separate n := by
  refine ⟨h.housed hk hd hs, h.accounted hs.accounted ?_, fun hnext => ?_⟩
  · rintro caller number rfl
    rcases h.numbers with ⟨⟨_, heq⟩, -⟩ | ⟨hnot, -⟩
    · cases heq
      rw [show k.machine.spaces.nextId = n from hd]
      exact hs.free hd
    · exact absurd rfl (hnot caller number)
  · rcases h.numbers with ⟨⟨caller, rfl⟩, hadvance, -⟩ | ⟨-, hsame, hfewer⟩
    · -- the number was given out just now
      rw [hadvance, show k.machine.spaces.nextId = n from hd] at hnext
      exact absurd hnext (by simp)
    · cases hspace : k'.machine.space? n.toNat with
      | none => rfl
      | some a =>
        have hthere := hfewer n.toNat (by rw [hspace]; rfl)
        rw [hs.free (hsame ▸ hnext)] at hthere
        cases hthere

/-- **A move that spares a slot** leaves its record and its pages alone. -/
lemma keeps (h : k.Move d k') (hk : k.Sound) (hd : d.Numbered n) (hs : k.Separate n)
    (hspares : d.Spares slot) (hq : k.table.records[slot]? = some q) (hused : q.status ≠ .free) :
    k.Keeps slot q k' := by
  refine ⟨h.record hk hspares hq hused, fun s page hqs => ?_⟩
  have hother : ∀ {id : ProcessId} {s' : Nat}, k.spaceOf? id = some s' → id.slot ≠ slot →
      s' ≠ s := fun hspace hne => by
    obtain ⟨p, hp, hps⟩ := spaceOf?_eq_some_iff.1 hspace
    exact hs.space_ne (live?_eq_some_iff.1 hp).1 hps hq hne hqs
  cases h with
  | quiet h => exact h.mapping? s page
  | await hp hf hres hrun =>
    rw [modify_unbind_eq hp hf hres]
    rfl
  | unbind hp hres hrun =>
    rw [unbind_eq hp hres]
    rfl
  | @clear _ id p hp hid hfree h =>
    rw [Machine.mapping?, Machine.space?, h.spaces]
    exact mapping?_vacated (fun hps => hs.space_ne hp hps hq hspares hqs rfl) page
  | make hcaller hstatus h =>
    obtain ⟨other, rest, s', machine, -, hcreate, -, rfl⟩ := allocateAs_cases h
    refine (Machine.mapping?_createSpace hcreate s page).trans (if_neg ?_)
    rintro rfl
    obtain ⟨-, -, -, rfl, -⟩ := Machine.createSpace_cases hcreate
    have hthere := hs.housed.exist slot q _ hq hqs
    rw [show k.machine.spaces.nextId = n from hd, hs.free hd] at hthere
    cases hthere
  | remap hspace h => exact h.mapping?_of_ne (hother hspace hspares) page
  | work hspace h => exact Machine.Works.mapping?_of_ne h (hother hspace hspares) page
  | deliver hp hopen hmail h =>
    exact h.mapping? fun va hps _ =>
      absurd rfl (hother (spaceOf?_eq_some_iff.2 ⟨_, hp, hps⟩) hspares)
  | _ => rfl

end Move

namespace Moves

variable {A : Deed → Prop}

/-- **Moves keep address spaces apart**, if they make no other one than that with number `n`. -/
lemma separate (h : Moves A k k') (hk : k.Sound) (hA : ∀ d, A d → d.Numbered n)
    (hs : k.Separate n) : k'.Separate n :=
  (h.induct (P := fun k₁ => k₁.Sound ∧ k₁.Separate n) ⟨hk, hs⟩ fun _ d _ ⟨hk₁, hs₁⟩ hd hmove =>
    ⟨hmove.sound hk₁, hmove.separate hk₁ (hA d hd) hs₁⟩).2

/-- **Moves that spare a slot** leave its record and its pages alone. -/
lemma keeps (h : Moves A k k') (hk : k.Sound) (hnumbered : ∀ d, A d → d.Numbered n)
    (hs : k.Separate n) (hA : ∀ d, A d → d.Spares slot) (hq : k.table.records[slot]? = some q)
    (hused : q.status ≠ .free) : k.Keeps slot q k' := by
  refine (h.induct (P := fun k₁ => k₁.Sound ∧ k₁.Separate n ∧ k.Keeps slot q k₁)
    ⟨hk, hs, .refl hq⟩ ?_).2.2
  rintro k₁ d k₂ ⟨hk₁, hs₁, hkeeps⟩ hd hmove
  exact ⟨hmove.sound hk₁, hmove.separate hk₁ (hnumbered d hd) hs₁,
    hkeeps.trans (hmove.keeps hk₁ (hnumbered d hd) hs₁ (hA d hd) hkeeps.record hused)⟩

end Moves

end Kernel

end Exokernel
