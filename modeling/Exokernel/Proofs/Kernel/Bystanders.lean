/-
What a move leaves of the processes that it is not about.

* `Deed.Spares`, `Moves.record`: moves that are not about a slot leave its record alone;
* `Keeps`: a slot keeps its record, and the pages of its address space;
* `Move.contents?`: nothing but work on memory changes what a frame holds;
* `GoesOn.keeps`: a processor that goes on dispatches at most one process;
* `Saved.record`, `trap_call`: a call that a process makes by a trap is carried out by a kernel that
  has saved the registers of the process.
-/
import Exokernel.Proofs.Kernel.Traps

namespace Exokernel.Kernel

variable {k k' : Kernel} {id : ProcessId} {p q : Process} {cpu slot n : Nat} {f : TrapFrame}

/-! ### Moves that spare a slot -/

/-- A deed that is not about a slot. -/
def Deed.Spares (slot : Nat) : Deed → Prop
  | .quiet | .make _ _ => True
  | .edit id | .await id | .unbind id | .doom id | .clear id | .remap id | .work id _ _
  | .deliver id => id.slot ≠ slot
  | .bind other => other ≠ slot

/-- A slot has record `q`, and the pages of its address space show what they showed in `k`. -/
structure Keeps (k : Kernel) (slot : Nat) (q : Process) (k' : Kernel) : Prop where
  record : k'.table.records[slot]? = some q
  pages : ∀ s page, q.space = some s → k'.machine.mapping? s page = k.machine.mapping? s page

lemma Keeps.refl (hq : k.table.records[slot]? = some q) : k.Keeps slot q k :=
  ⟨hq, fun _ _ _ => rfl⟩

lemma Keeps.trans {k'' : Kernel} (h : k.Keeps slot q k') (h' : k'.Keeps slot q k'') :
    k.Keeps slot q k'' :=
  ⟨h'.record, fun s page hs => (h'.pages s page hs).trans (h.pages s page hs)⟩

/-- A page of another address space shows what it showed. -/
lemma mapping?_vacated {m : Machine} {space : Option Nat} {s : Nat} (hs : space ≠ some s)
    (page : Nat) : (vacated m space).mapping? s page = m.mapping? s page := by
  cases space with
  | none => rfl
  | some s' => rw [vacated, Machine.mapping?_dismantle, if_neg fun h => hs (congrArg some h)]

/-- What a message shows, it shows where the receiver wants it. -/
lemma Shows.mapping? {s : Option Nat} {dst : Option VirtAddr} {m m' : Machine} {s' page : Nat}
    (h : Shows s dst m m') (hne : ∀ va, s = some s' → dst = some va → va.page ≠ page) :
    m'.mapping? s' page = m.mapping? s' page := by
  cases h with
  | nothing => rfl
  | kept hf => rfl
  | page hs hva hf h =>
    refine (Machine.mapping?_map h s' page).trans (if_neg ?_)
    rintro ⟨rfl, hpage⟩
    exact hne _ hs hva hpage

/-- **A move that spares a slot** leaves its record alone. -/
lemma Move.record {d : Deed} (h : k.Move d k') (hk : k.Sound) (hd : d.Spares slot)
    (hq : k.table.records[slot]? = some q) (hs : q.status ≠ .free) :
    k'.table.records[slot]? = some q := by
  obtain ⟨q', hq', hchange⟩ := h.changed hk hq
  rw [hq']
  cases hchange with
  | same => rfl
  | bind => exact absurd rfl hd
  | make hfree => exact absurd hfree hs
  | edit hslot | await hslot | unbind hslot | doom hslot | clear hslot | deliver hslot =>
    exact absurd hslot hd

/-- **Moves that spare a slot** leave its record alone. -/
lemma Moves.record {A : Deed → Prop} (h : Moves A k k') (hk : k.Sound)
    (hA : ∀ d, A d → d.Spares slot) (hq : k.table.records[slot]? = some q)
    (hs : q.status ≠ .free) : k'.table.records[slot]? = some q := by
  refine (h.induct (P := fun k₁ => k₁.Sound ∧ k₁.table.records[slot]? = some q) ⟨hk, hq⟩ ?_).2
  rintro k₁ d k₂ ⟨hk₁, hq₁⟩ hd hmove
  exact ⟨hmove.sound hk₁, hmove.record hk₁ (hA d hd) hq₁ hs⟩

/-! ### What frames hold -/

/-- **Nothing but work on memory** changes what a frame holds. -/
lemma Move.contents? {d : Deed} (h : k.Move d k')
    (hwork : ∀ id before after, d = .work id before after →
      after.frames.contents? n = before.frames.contents? n) :
    k'.machine.frames.contents? n = k.machine.frames.contents? n := by
  cases h with
  | quiet h => rw [h.frames]
  | await hp hf hres hrun =>
    rw [modify_unbind_eq hp hf hres]
    rfl
  | unbind hp hres hrun =>
    rw [unbind_eq hp hres]
    rfl
  | @clear _ id p hp hid hs h =>
    rw [h.frames]
    cases p.space with
    | none => rfl
    | some s => exact Machine.contents?_dismantle n
  | make hcaller hs h =>
    obtain ⟨slot, rest, s, machine, -, hcreate, -, rfl⟩ := allocateAs_cases h
    obtain ⟨directory, frames, hall, -, rfl⟩ := Machine.createSpace_cases hcreate
    exact Machine.contents?_allocOwned? hall
  | remap hs h => exact h.contents? n
  | work hs h => exact hwork _ _ _ rfl
  | deliver hp hopen hmail h =>
    cases h with
    | nothing => rfl
    | kept hf => exact (Machine.Remap.kept (s := 0) hf).contents? n
    | page hs hva hf h => exact (Machine.Remap.mapKept hf h).contents? n
  | _ => rfl

lemma Moves.contents? {A : Deed → Prop} (h : Moves A k k')
    (hA : ∀ id before after, A (.work id before after) →
      after.frames.contents? n = before.frames.contents? n) :
    k'.machine.frames.contents? n = k.machine.frames.contents? n :=
  h.induct (P := fun k₁ => k₁.machine.frames.contents? n = k.machine.frames.contents? n) rfl
    fun _ _ _ hk₁ hd hmove => (hmove.contents? fun id before after heq =>
      hA id before after (heq ▸ hd)).trans hk₁

/-! ### Going on -/

/-- The record of a process that was dispatched to a processor. -/
def dispatched (cpu : Nat) (q : Process) : Process :=
  { q with status := .running, resident := some cpu, runs := q.runs + 1 }

/-- What becomes of the record `q` of a slot when a processor goes on: nothing, or it was resumed
there. -/
def Goes (cpu : Nat) (q : Process) (r : Resume × Kernel) (q' : Process) : Prop :=
  q' = q ∨ r.1 = .user q.id q.frame ∧ q' = dispatched cpu q

/-- A processor that schedules dispatches at most one process, and that changes no memory. -/
lemma schedule_keeps (hnone : k.current? cpu = none) (hq : k.table.records[slot]? = some q) :
    (∃ q', (k.schedule cpu).2.table.records[slot]? = some q' ∧ Goes cpu q (k.schedule cpu) q') ∧
      (k.schedule cpu).2.machine.frames = k.machine.frames ∧
      (k.schedule cpu).2.machine.spaces = k.machine.spaces := by
  rcases schedule_cases hnone with ⟨other, p, k₁, hk₁, -, hp, -, -, hres, hlast⟩ | ⟨h, -⟩
  · refine ⟨?_, hlast.frames.trans hk₁.frames, hlast.spaces.trans hk₁.spaces⟩
    have hget : (k.schedule cpu).2.table.records[slot]? =
        if other = slot then some (dispatched cpu q) else some q := by
      rw [hlast.records]
      change (k₁.table.modify other (dispatched cpu)).records[slot]? = _
      rw [ProcessTable.getElem?_modify, hk₁.records, hq]
      rfl
    rw [hget]
    split
    · next heq =>
      rw [heq, hq] at hp
      cases hp
      exact ⟨dispatched cpu q, rfl, .inr ⟨hres, rfl⟩⟩
    · exact ⟨q, rfl, .inl rfl⟩
  · exact ⟨⟨q, h.records ▸ hq, .inl rfl⟩, h.frames, h.spaces⟩

/-- **A processor that goes on** dispatches at most one process, and that changes no memory. -/
lemma GoesOn.keeps {r : Resume × Kernel} (h : GoesOn cpu id k r)
    (hq : k.table.records[slot]? = some q) :
    (∃ q', r.2.table.records[slot]? = some q' ∧ Goes cpu q r q') ∧
      r.2.machine.frames = k.machine.frames ∧ r.2.machine.spaces = k.machine.spaces := by
  cases h with
  | resume hp hrun hres heq =>
    rw [heq]
    exact ⟨⟨q, hq, .inl rfl⟩, rfl, rfl⟩
  | schedule hnone heq =>
    rw [heq]
    exact schedule_keeps hnone hq

/-- What a processor that goes on leaves of a process. -/
lemma Goes.same {r : Resume × Kernel} {q' : Process} (h : Goes cpu q r q') : q'.id = q.id ∧
    q'.parent = q.parent ∧ q'.frame = q.frame ∧ q'.faultHandler = q.faultHandler ∧
    q'.space = q.space := by
  rcases h with rfl | ⟨-, rfl⟩ <;> exact ⟨rfl, rfl, rfl, rfl, rfl⟩

/-- A live process stays live, with the same registers, when a processor goes on. -/
lemma GoesOn.live? {other : ProcessId} {r : Resume × Kernel} (h : GoesOn cpu id k r)
    (hp : k.live? other = some p) : ∃ p', r.2.live? other = some p' ∧ p'.frame = p.frame := by
  obtain ⟨hrec, hid, hlive⟩ := live?_eq_some_iff.1 hp
  obtain ⟨⟨p', hp', rfl | ⟨-, rfl⟩⟩, -⟩ := h.keeps hrec
  · exact ⟨p', live?_eq_some_iff.2 ⟨hp', hid, hlive⟩, rfl⟩
  · exact ⟨_, live?_eq_some_iff.2 ⟨hp', hid, rfl⟩, rfl⟩

/-! ### Calls by traps -/

/-- A kernel that has saved registers has the same memory. -/
lemma Saved.memory (h : k.Saved id f k') : k'.machine.frames = k.machine.frames ∧
    k'.machine.spaces = k.machine.spaces ∧ k'.machine.windows = k.machine.windows := by
  obtain ⟨k₀, hk₀, hk'⟩ := h
  exact ⟨hk'.frames.trans hk₀.frames, hk'.spaces.trans hk₀.spaces, hk'.windows.trans hk₀.windows⟩

/-- It differs in these registers. -/
lemma Saved.record (h : k.Saved id f k') (slot : Nat) : k'.table.records[slot]? =
    if id.slot = slot then k.table.records[slot]?.map fun p => { p with frame := f }
    else k.table.records[slot]? := by
  obtain ⟨k₀, hk₀, hk'⟩ := h
  rw [hk'.records, modify, ProcessTable.getElem?_modify, hk₀.records]

lemma Saved.live? (h : k.Saved id f k') (hp : k.live? id = some p) :
    k'.live? id = some { p with frame := f } := by
  obtain ⟨hrec, hid, hlive⟩ := live?_eq_some_iff.1 hp
  refine live?_eq_some_iff.2 ⟨?_, hid, hlive⟩
  rw [h.record, if_pos rfl, hrec]
  rfl

/-- The others live on as they are. -/
lemma Saved.live?_iff {other : ProcessId} (h : k.Saved id f k') (hslot : id.slot ≠ other.slot) :
    k'.live? other = some p ↔ k.live? other = some p := by
  rw [live?_eq_some_iff, live?_eq_some_iff, h.record, if_neg hslot]

/-- It finds the same processes. -/
lemma Saved.find? (h : k.Saved id f k') (other : ProcessId) : k'.table.find? other =
    (k.table.find? other).map fun p =>
      if id.slot = other.slot then { p with frame := f } else p := by
  rw [ProcessTable.find?, ProcessTable.find?, h.record]
  cases k.table.records[other.slot]? with
  | none => split <;> rfl
  | some p =>
    have hholds : Process.holds { p with frame := f } other = p.holds other := rfl
    by_cases hslot : id.slot = other.slot <;> by_cases hp : p.holds other <;>
      simp [Option.filter, hslot, hp, hholds]

/-- Everybody means by an identity whom they meant before. -/
lemma Saved.resolve (h : k.Saved id f k') (caller target : ProcessId) (related : Bool) :
    k'.resolve caller target related = k.resolve caller target related := by
  rw [Kernel.resolve, Kernel.resolve, ProcessTable.resolve, ProcessTable.resolve, h.find?]
  cases k.table.find? target with
  | none => rfl
  | some p => split_ifs <;> simp_all

lemma Saved.spaceOf? {s : Nat} {caller : ProcessId} (h : k.Saved id f k')
    (hs : k'.spaceOf? caller = some s) : k.spaceOf? caller = some s := by
  obtain ⟨p', hp', hspace⟩ := spaceOf?_eq_some_iff.1 hs
  obtain ⟨hrec, hid, hlive⟩ := live?_eq_some_iff.1 hp'
  have hget := h.record caller.slot
  rw [hrec] at hget
  split at hget
  · obtain ⟨p, hp, rfl⟩ := Option.map_eq_some_iff.1 hget.symm
    exact spaceOf?_eq_some_iff.2 ⟨p, live?_eq_some_iff.2 ⟨hp, hid, hlive⟩, hspace⟩
  · exact spaceOf?_eq_some_iff.2 ⟨p', live?_eq_some_iff.2 ⟨hget.symm, hid, hlive⟩, hspace⟩

/-- It has the same address space, too. -/
lemma Saved.spaceOf?_eq {s : Nat} (h : k.Saved id f k') (hs : k.spaceOf? id = some s) :
    k'.spaceOf? id = some s := by
  obtain ⟨p, hp, hspace⟩ := spaceOf?_eq_some_iff.1 hs
  exact spaceOf?_eq_some_iff.2 ⟨_, h.live? hp, hspace⟩

lemma Saved.moves {A : Deed → Prop} (h : k.Saved id f k') (hp : k.live? id = some p)
    (hA : ∀ d, Deed.Own id d → A d) : Moves A k k' := by
  obtain ⟨k₀, hk₀, hk'⟩ := h
  have hedit : k₀.Move (.edit id) (k₀.modify id fun p => { p with frame := f }) :=
    .edit_of_same ((hk₀.live? id).trans hp) rfl rfl rfl rfl rfl rfl
  exact ((Moves.quiet (hA _ .quiet) hk₀).trans (.one (hA _ .edit) hedit)).trans
    (.quiet (hA _ .quiet) hk')

lemma Saved.sound (h : k.Saved id f k') (hk : k.Sound) (hp : k.live? id = some p) : k'.Sound :=
  (h.moves (A := anyDeed) hp fun _ _ => trivial).sound hk

/-- The call that a process makes by a trap, if it is understood. -/
def Calls (k : Kernel) (id : ProcessId) (f : TrapFrame) (c : Syscall) : Prop :=
  f.isUser ∧ (k.live? id).isSome ∧ TrapCause.ofNumber f.trapno = .syscall ∧
    Syscall.decode f.call = .ok c

/-- **A call that a process makes by a trap** is carried out by a kernel that has saved its
registers. -/
lemma trap_call {c : Syscall} (hk : k.Sound) (hcur : k.current? cpu = some id)
    (hcalls : k.Calls id f c) : ∃ k₁ p request, k.Saved id f k₁ ∧ k₁.live? id = some p ∧
      p.frame = f ∧ p.resident = some cpu ∧ k.trap cpu f =
        (((k₁.execute cpu id c).2.conclude cpu id request (k₁.execute cpu id c).1).2).leave cpu id
          ((k₁.execute cpu id c).2.conclude cpu id request (k₁.execute cpu id c).1).1 := by
  obtain ⟨huser, hlive, hcause, hc⟩ := hcalls
  obtain ⟨r, hr, hrid⟩ := Option.bind_eq_some_iff.1 hcur
  have hcount : k.Quiet (k.modifyCpu cpu fun c => { c with traps := c.traps + 1 }) :=
    quiet_countTrap
  rcases live?_of_current hk hcur with ⟨p, hp, hres⟩ | hgone
  · have hp₀ := (hcount.live? id).trans hp
    have hp₁ : ((k.modifyCpu cpu fun c => { c with traps := c.traps + 1 }).modify id fun p =>
        { p with frame := f }).live? id = some { p with frame := f } :=
      live?_modify hp₀ rfl (live?_eq_some_iff.1 hp).2.2
    obtain ⟨k₁, request, hk₁, heq⟩ := systemCall_eq cpu hp₁ hc
    refine ⟨k₁, { p with frame := f }, request, ⟨_, hcount, hk₁⟩, (hk₁.live? id).trans hp₁, rfl,
      hres, ?_⟩
    rw [trap, hr]
    dsimp only
    rw [if_pos huser, hrid, userTrap]
    dsimp only
    rw [if_pos (isBound_iff.2 ⟨p, hp₀, hres⟩), handle, hcause]
    dsimp only
    rw [heq]
  · rw [hgone] at hlive
    cases hlive

/-- An answer is put into the registers of the caller. -/
lemma live?_setAnswer (answer : Int32) (hp : k.live? id = some p) (hres : p.resident = some cpu) :
    (k.setAnswer cpu id answer).live? id =
      some { p with frame := p.frame.withResult answer.toUInt32 } := by
  rw [setAnswer, hp]
  dsimp only
  rw [if_pos hres]
  exact live?_modify hp rfl (live?_eq_some_iff.1 hp).2.2

end Exokernel.Kernel
