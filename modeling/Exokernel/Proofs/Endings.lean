/-
How processes end.

* `Kernel.Fate`, `Operation.fate`: a process that an operation ends is cleared away by it, or left
  to the processor that has it bound;
* `Operation.Destroys`, `Operation.Destroys.gone`: whoever is destroyed is not live any more;
* `Operation.Wakes`, `Operation.lingers`: a dying process is left alone until its processor traps;
* `Kernel.trap_sweeps`: that trap clears it away, and does nothing that the process asked for;
* `teardown_deferred`: **a process that is destroyed is torn down once**, at once if no other
  processor has it bound, and by the next trap of that processor otherwise.
-/
import Exokernel.Proofs.Health
import Exokernel.Proofs.Kernel.Lives
import Exokernel.Proofs.Processors

namespace Exokernel

namespace Kernel

variable {k k' k₁ k₂ : Kernel} {id v : ProcessId} {p q : Process} {cpu d slot s : Nat}
  {f : TrapFrame} {deed : Deed} {A : Deed → Prop} {n : UInt32}

/-! ### Dying processes -/

/-- A dying process is not live. -/
lemma live?_of_dying (hq : k.table.records[slot]? = some q) (hs : q.status = .dying)
    (hp : k.live? id = some p) : id.slot ≠ slot := by
  rintro rfl
  obtain ⟨hrec, -, hlive⟩ := live?_eq_some_iff.1 hp
  rw [hq] at hrec
  cases hrec
  exact ProcessStatus.ne_dying_of_isLive hlive hs

/-- A deed that is not about a slot, unless a processor is given what the slot holds. -/
def Deed.Skips (slot : Nat) (deed : Deed) : Prop :=
  deed.Spares slot ∨ ∃ other, deed = .bind other

/-- No processor is given a dying process. -/
lemma Move.spares (h : k.Move deed k') (hd : deed.Skips slot)
    (hq : k.table.records[slot]? = some q) (hs : q.status = .dying) : deed.Spares slot := by
  rcases hd with hspares | ⟨other, rfl⟩
  · exact hspares
  · rintro rfl
    cases h with
    | bind hp hready hcpu hnone =>
      rw [hq] at hp
      cases hp
      exact ProcessStatus.ne_dying_of_isLive (isLive_of_dispatchable hready) hs

/-- **Moves that skip a dying process** spare it. -/
lemma Moves.spares (h : Moves A k k') (hk : k.Sound) (hA : ∀ deed, A deed → deed.Skips slot)
    (hq : k.table.records[slot]? = some q) (hs : q.status = .dying) :
    Moves (fun deed => A deed ∧ deed.Spares slot) k k' := by
  have hused : q.status ≠ .free := by
    rw [hs]
    decide
  refine (h.induct (P := fun k₁ => k₁.Sound ∧ k₁.table.records[slot]? = some q ∧
    Moves (fun deed => A deed ∧ deed.Spares slot) k k₁) ⟨hk, hq, .refl⟩ ?_).2.2
  rintro k₁ deed k₂ ⟨hk₁, hq₁, hmoves⟩ hd hmove
  have hspares := hmove.spares (hA deed hd) hq₁ hs
  exact ⟨hmove.sound hk₁, hmove.record hk₁ hspares hq₁ hused,
    hmoves.trans (.one ⟨hd, hspares⟩ hmove)⟩

/-- A processor that dispatches skips every slot. -/
lemma Deed.Dispatch.skips (h : deed.Dispatch) : deed.Skips slot := by
  cases h with
  | quiet => exact .inl trivial
  | bind other => exact .inr ⟨other, rfl⟩

lemma Deed.Dispatch.numbered (h : deed.Dispatch) : deed.Numbered n := by
  cases h <;> trivial

/-- **A processor that dispatches** leaves a dying process alone. -/
lemma Moves.keeps_dying (h : Moves Deed.Dispatch k k') (hk : k.Sound) (hsep : k.Separate n)
    (hq : k.table.records[slot]? = some q) (hs : q.status = .dying) : k.Keeps slot q k' := by
  refine (h.spares hk (fun _ hd => hd.skips) hq hs).keeps hk (fun _ hd => hd.1.numbered) hsep
    (fun _ hd => hd.2) hq ?_
  rw [hs]
  decide

/-! ### What ends a process -/

/-- What a processor may do that is about the process `v` with record `p`: it clears it away, unless
another processor has it bound; and it leaves it to that one otherwise. -/
inductive Deed.Ending (cpu : Nat) (v : ProcessId) (p : Process) : Deed → Prop where
  | spares {deed : Deed} (hd : deed.Spares v.slot)
      (hmake : ∀ caller number, deed ≠ .make caller number)
      (hdoom : ∀ id, deed ≠ .doom id) : Ending cpu v p deed
  | clear (hhere : p.resident = none ∨ p.resident = some cpu) : Ending cpu v p (.clear v)
  | doom (helse : p.resident ≠ some cpu) : Ending cpu v p (.doom v)

lemma Deed.Ending.not_make (h : deed.Ending cpu v p) (caller : Option ProcessId)
    (number : UInt32) : deed ≠ .make caller number := by
  cases h with
  | spares hd hmake hdoom => exact hmake caller number
  | clear | doom => nofun

lemma Deed.Ending.numbered (h : deed.Ending cpu v p) : deed.Numbered n := by
  cases deed with
  | make caller number => exact absurd rfl (h.not_make caller number)
  | _ => trivial

/-- **How a process ended** that had record `p` in `k`. -/
inductive Fate (k : Kernel) (cpu : Nat) (v : ProcessId) (p : Process) (k' : Kernel) : Prop where
  /-- Nobody else had it bound, and its slot is free. -/
  | cleared {q : Process} (hhere : p.resident = none ∨ p.resident = some cpu)
      (hq : k'.table.records[v.slot]? = some q) (hs : q.status = .free) : Fate k cpu v p k'
  /-- Another processor has it bound, and was interrupted. -/
  | doomed {holder : Nat} (hres : p.resident = some holder) (hne : holder ≠ cpu)
      (hkeeps : k.Keeps v.slot p.doomed k') (hrec : k'.machine.received holder =
        k.machine.received holder ++ [TrapNumber.reschedule]) : Fate k cpu v p k'

/-- A process that is cleared away leaves a free slot. -/
lemma Move.cleared (h : k.Move (.clear id) k') :
    ∃ q, k'.table.records[id.slot]? = some q ∧ q.status = .free := by
  cases h with
  | @clear _ _ p hp hid hs h =>
    refine ⟨p.cleared, ?_, rfl⟩
    rw [h.records, ProcessTable.getElem?_modify, if_pos rfl, hp]
    rfl

/-- A processor that is interrupted receives the interrupt. -/
lemma received_interrupt {m : Machine} (hcpu : cpu < m.processors.size) (number : UInt32) :
    (m.interrupt cpu number).received cpu = m.received cpu ++ [number] := by
  rw [Machine.interrupt, Machine.received, Machine.received, Machine.modifyProcessor,
    Array.getElem?_modify, if_pos rfl, Array.getElem?_eq_getElem hcpu]
  rfl

/-- A process that is doomed keeps its pages, and its processor is interrupted. -/
lemma Move.doomed (h : k.Move (.doom v) k') (hl : k.Loaded) (hk : k.Sound)
    (hp : k.table.records[v.slot]? = some p) : p.status.isLive ∧ ∃ holder,
      p.resident = some holder ∧ k.Keeps v.slot p.doomed k' ∧
      k'.machine.received holder = k.machine.received holder ++ [TrapNumber.reschedule] := by
  cases h with
  | @doom _ q holder hq hres =>
    obtain ⟨hrec, -, hlive⟩ := live?_eq_some_iff.1 hq
    rw [hp] at hrec
    cases hrec
    have hcpu : holder < k.machine.processors.size := by
      obtain ⟨c, hc, -⟩ := Option.bind_eq_some_iff.1 (hk.tables.claim_eq hp hres)
      exact hl.size ▸ (Array.getElem?_eq_some_iff.1 hc).1
    exact ⟨hlive, holder, hres, ⟨find?_doomed hq, fun _ _ _ => rfl⟩, received_interrupt hcpu _⟩

/-- **A process comes to its end once**: while it is left alone it stays as it is, and once it has
ended, that is how it ended. -/
lemma Moves.fate (h : Moves (Deed.Ending cpu v p) k k') (hk : k.Sound) (hsep : k.Separate n)
    (hl : k.Loaded) (hp : k.live? v = some p) : k.Keeps v.slot p k' ∨ Fate k cpu v p k' := by
  obtain ⟨hrec, -, hlive⟩ := live?_eq_some_iff.1 hp
  suffices hall : (k'.Sound ∧ k'.Separate n) ∧ k'.Loaded ∧
      (k.Keeps v.slot p k' ∧ k.SameProcessors k' ∨ Fate k cpu v p k') from
    hall.2.2.imp_left (·.1)
  refine h.induct (P := fun k₁ => (k₁.Sound ∧ k₁.Separate n) ∧ k₁.Loaded ∧
    (k.Keeps v.slot p k₁ ∧ k.SameProcessors k₁ ∨ Fate k cpu v p k₁))
    ⟨⟨hk, hsep⟩, hl, .inl ⟨.refl hrec, .refl k⟩⟩ ?_
  rintro k₁ deed k₂ ⟨⟨hk₁, hsep₁⟩, hl₁, hbefore⟩ hd hmove
  refine ⟨⟨hmove.sound hk₁, hmove.separate hk₁ hd.numbered hsep₁⟩, hmove.loaded hk₁ hl₁, ?_⟩
  rcases hbefore with ⟨hkeeps, hsame⟩ | ⟨hhere, hq, hs⟩ | ⟨hres, hne, hkeeps, hreceived⟩
  · have hnumbered : deed.Numbered n := hd.numbered
    cases hd with
    | spares hd hmake hdoom =>
      exact .inl ⟨hkeeps.trans (hmove.keeps hk₁ hnumbered hsep₁ hd hkeeps.record
        (ProcessStatus.ne_free_of_isLive hlive)), hsame.trans (hmove.same hdoom)⟩
    | clear hhere =>
      obtain ⟨q, hq, hs⟩ := hmove.cleared
      exact .inr (.cleared hhere hq hs)
    | doom helse =>
      obtain ⟨-, holder, hres, hdoomed, hreceived⟩ := hmove.doomed hl₁ hk₁ hkeeps.record
      refine .inr (.doomed hres (fun heq => helse (heq ▸ hres))
        ⟨hdoomed.record, fun s page hs => ?_⟩ ?_)
      · exact (hdoomed.pages s page hs).trans (hkeeps.pages s page hs)
      · rw [hreceived, hsame.received]
  · -- nobody takes the slot again
    exact .inr (.cleared hhere (hmove.free hk₁ hd.not_make hq hs) hs)
  · have hnumbered : deed.Numbered n := hd.numbered
    cases hd with
    | spares hd hmake hdoom =>
      refine .inr (.doomed hres hne
        (hkeeps.trans (hmove.keeps hk₁ hnumbered hsep₁ hd hkeeps.record nofun)) ?_)
      rw [(hmove.same hdoom).received, hreceived]
    | clear hhere =>
      rw [hres] at hhere
      exact absurd (hhere.resolve_left nofun) fun heq => hne (Option.some.inj heq)
    | doom helse => cases (hmove.doomed hl₁ hk₁ hkeeps.record).1

/-- What a processor dispatches then, does not matter. -/
lemma Fate.dispatch (h : Fate k cpu v p k₁) (hmoves : Moves Deed.Dispatch k₁ k₂) (hk₁ : k₁.Sound)
    (hsep : k₁.Separate n) : Fate k cpu v p k₂ := by
  cases h with
  | cleared hhere hq hs =>
    exact .cleared hhere (hmoves.free hk₁ (by rintro _ _ ⟨⟩) hq hs) hs
  | @doomed holder hres hne hkeeps hrec =>
    refine .doomed hres hne (hkeeps.trans (hmoves.keeps_dying hk₁ hsep hkeeps.record rfl))
      (Eq.trans ?_ hrec)
    refine hmoves.induct (P := fun k' => k'.machine.received holder = k₁.machine.received holder)
      rfl fun _ deed _ ih hd hmove => ?_
    rw [(hmove.same fun _ heq => ?_).received, ih]
    rw [heq] at hd
    cases hd

/-! ### What traps end -/

/-- What a process does by itself is about its own slot. -/
lemma Deed.Own.ending (h : deed.Own id) (hne : id.slot ≠ v.slot) : deed.Ending cpu v p := by
  cases h with
  | quiet => exact .spares trivial nofun nofun
  | edit | unbind | clear => exact .spares hne nofun nofun

/-- **A process that destroys another** does nothing else about it. -/
lemma TrapDeed.ending {target : ProcessId} (h : k.TrapDeed id f deed)
    (hcalls : k.Calls id f (.destroy target)) (hv : k.resolve id target true = .ok v)
    (hne : id.slot ≠ v.slot) (hp : k.live? v = some p) (helse : p.resident ≠ some cpu) :
    deed.Ending cpu v p := by
  obtain ⟨-, -, hcause, hc⟩ := hcalls
  cases h with
  | own hd => exact hd.ending hne
  | call huser hlive hcause' hsaved hc' hd =>
    rw [hc, Except.ok.injEq] at hc'
    subst hc'
    have hwhom : ∀ {other : ProcessId}, Kernel.resolve _ id target true = .ok other → v = other :=
      fun hid => by
        rw [hsaved.resolve, hv, Except.ok.injEq] at hid
        exact hid
    cases hd with
    | own hd => exact hd.ending hne
    | destroy hid hp' hres =>
      obtain rfl := hwhom hid
      have hrec := (live?_eq_some_iff.1 hp').1
      rw [hsaved.record, if_neg hne, (live?_eq_some_iff.1 hp).1] at hrec
      cases hrec
      exact .clear (.inl hres)
    | doom hid hne' =>
      obtain rfl := hwhom hid
      exact .doom helse
  | fault hcause' =>
    rw [hcause] at hcause'
    cases hcause'

/-- **A process that traps** stays live or leaves a free slot. -/
lemma Moves.self_fate (h : Moves (k.TrapDeed v f) k k') (hk : k.Sound) (hp : k.live? v = some p) :
    (∃ q, k'.live? v = some q) ∨ ∃ q, k'.table.records[v.slot]? = some q ∧ q.status = .free := by
  refine (h.induct (P := fun k₁ => k₁.Sound ∧ ((∃ q, k₁.live? v = some q) ∨
    ∃ q, k₁.table.records[v.slot]? = some q ∧ q.status = .free)) ⟨hk, .inl ⟨p, hp⟩⟩ ?_).2
  rintro k₁ deed k₂ ⟨hk₁, ⟨q, hq⟩ | ⟨q, hq, hs⟩⟩ hd hmove
  · refine ⟨hmove.sound hk₁, ?_⟩
    by_cases hends : deed.Ends v
    · cases deed with
      | clear other =>
        cases hends
        exact .inr hmove.cleared
      | doom other =>
        -- nobody is left to another processor who is bound to this one
        cases hends
        cases hd with
        | own hd => cases hd
        | call huser hlive hcause hsaved hc hd =>
          cases hd with
          | own hd => cases hd
          | doom hid hne => exact absurd rfl hne
      | _ => cases hends
    · exact .inl (hmove.live? hk₁ hends hq)
  · refine ⟨hmove.sound hk₁, .inr ⟨q, hmove.free hk₁ ?_ hq hs, hs⟩⟩
    -- who is gone makes no other
    rintro caller number rfl
    have hcaller : caller = some v := by
      cases hd with
      | own hd => cases hd
      | call huser hlive hcause hsaved hc hd =>
        cases hd with
        | own hd => cases hd
        | make => rfl
    cases hmove with
    | make hlives hstatus hmade =>
      obtain ⟨r, hr⟩ := Option.isSome_iff_exists.1 (hlives v hcaller)
      obtain ⟨hrec, -, hlive⟩ := live?_eq_some_iff.1 hr
      rw [hq] at hrec
      cases hrec
      exact ProcessStatus.ne_free_of_isLive hlive hs

/-- A process that is live lasts while a processor dispatches. -/
lemma Moves.lasts (h : Moves Deed.Dispatch k k') (hk : k.Sound) (hp : k.live? v = some p) :
    ∃ q, k'.live? v = some q :=
  h.live? hk (fun _ hd hends => by cases hd <;> cases hends) hp

/-- **What becomes of a process that traps**: it stays live, or leaves a free slot. -/
lemma trap_self_fate (hk : k.Sound) (hcur : k.current? cpu = some v) (hp : k.live? v = some p) :
    (∃ q, (k.trap cpu f).2.live? v = some q) ∨
      ∃ q, (k.trap cpu f).2.table.records[v.slot]? = some q ∧ q.status = .free := by
  obtain ⟨k₁, hmoves, hlast⟩ := trap_stages (f := f) hk hcur
  rcases hmoves.self_fate hk hp with ⟨q, hq⟩ | ⟨q, hq, hs⟩
  · exact .inl (hlast.lasts (hmoves.sound hk) hq)
  · exact .inr ⟨q, hlast.free (hmoves.sound hk) (by rintro _ _ ⟨⟩) hq hs, hs⟩

/-- **What becomes of a process by a trap**: it stays live, or it ends. -/
lemma trap_fate (hk : k.Sound) (hsep : k.Separate k.machine.spaces.nextId) (hl : k.Loaded)
    (hp : k.live? v = some p) :
    (∃ q, (k.trap cpu f).2.live? v = some q) ∨ Fate k cpu v p (k.trap cpu f).2 := by
  obtain ⟨hrec, hpid, -⟩ := live?_eq_some_iff.1 hp
  cases hcur : k.current? cpu with
  | none =>
    refine .inl (Moves.lasts ?_ hk hp)
    rcases trap_idle (f := f) hcur with ⟨k₁, hk₁, heq⟩ | ⟨k₁, panic, hk₁, heq⟩
    · rw [heq]
      exact (Moves.quiet .quiet hk₁).trans
        (schedule_moves ((hk₁.current cpu).trans hcur) .quiet .bind)
    · rw [heq]
      exact .quiet .quiet hk₁
  | some id =>
    by_cases hself : v = id
    · subst hself
      refine (trap_self_fate hk hcur hp).imp_right fun ⟨q, hq, hs⟩ => ?_
      exact .cleared (.inr ((hk.current?_iff hp).1 hcur)) hq hs
    obtain ⟨k₁, hmoves, hlast⟩ := trap_stages (f := f) hk hcur
    have hk₁ := hmoves.sound hk
    by_cases hdestroys : ∃ target, k.Calls id f (.destroy target) ∧
        k.resolve id target true = .ok v
    · obtain ⟨target, hcalls, hv⟩ := hdestroys
      obtain ⟨caller, hcaller⟩ := Option.isSome_iff_exists.1 hcalls.2.1
      have hne := slot_ne_of_live? hcaller hp (Ne.symm hself)
      have helse : p.resident ≠ some cpu := fun hres => by
        have hclaim := hk.tables.claim_eq hrec hres
        rw [hcur, hpid, Option.some.injEq] at hclaim
        exact hself hclaim.symm
      have hending := hmoves.mono fun deed hd => hd.ending hcalls hv hne hp helse
      rcases hending.fate hk hsep hl hp with hkeeps | hfate
      · exact .inl (hlast.lasts hk₁
          (live?_eq_some_iff.2 ⟨hkeeps.record, (live?_eq_some_iff.1 hp).2⟩))
      · exact .inr (hfate.dispatch hlast hk₁
          (hmoves.separate hk (fun _ hd => hd.numbered) hsep))
    · obtain ⟨q, hq⟩ := hmoves.live? hk (fun deed hd hends => by
        rcases hd.ends hends with ⟨-, heq⟩ | hcalls
        · exact hself heq
        · exact hdestroys hcalls) hp
      exact .inl (hlast.lasts hk₁ hq)

/-! ### Traps of others -/

/-- **A trap on another processor** is not about a dying process. -/
lemma TrapDeed.spares_dying (hk : k.Sound) (hcur : k.current? cpu = some id)
    (hq : k.table.records[slot]? = some q) (hs : q.status = .dying) (hres : q.resident = some d)
    (hne : cpu ≠ d) (h : k.TrapDeed id f deed) : deed.Spares slot := by
  have hself : id.slot ≠ slot := by
    rintro rfl
    exact off_of_current hk hcur hne q hq hres
  have hlive : ∀ {k₁ : Kernel} {other : ProcessId} {p : Process}, k.Saved id f k₁ →
      k₁.live? other = some p → other.slot ≠ slot := fun {k₁ other p} hsaved hp =>
    live?_of_dying (by rw [hsaved.record, if_neg hself, hq]) hs hp
  have hown : ∀ {deed : Deed}, deed.Own id → deed.Spares slot := fun hd => by
    cases hd with
    | quiet => trivial
    | edit | unbind | clear => exact hself
  cases h with
  | own hd => exact hown hd
  | @call k₁ c _ huser hcaller hcause hsaved hc hd =>
    obtain ⟨p, hp⟩ := Option.isSome_iff_exists.1 hcaller
    have hmeant : ∀ {other target : ProcessId} {related : Bool},
        k₁.resolve id target related = .ok other → other.slot ≠ slot := fun hid => by
      obtain ⟨r, hr⟩ := live?_of_resolve (hsaved.live? hp) hid
      exact hlive hsaved hr
    cases hd with
    | own hd => exact hown hd
    | make => trivial
    | await | refused => exact hself
    | child hr hfree =>
      rintro rfl
      rw [hsaved.record, if_neg hself, hq] at hr
      cases hr
      rw [hs] at hfree
      cases hfree
    | destroy hid | doom hid | setStatus hid | setFrame hid | setFaultHandler hid | pageAlloc _ hid
    | pageMap hid | pageUnmap hid | deliver hid => exact hmeant hid
  | fault => exact hself

/-- A trap that a processor takes inside the kernel, and that is no interrupt, stops it. -/
lemma trap_halts (huser : ¬ f.isUser) (hcause : ¬ (TrapCause.ofNumber f.trapno).isInterrupt) :
    k.Quiet (k.trap cpu f).2 := by
  rw [trap]
  cases k.cpus[cpu]? with
  | none => exact .refl k
  | some c =>
    dsimp only
    rw [if_neg huser, kernelTrap]
    dsimp only
    rw [if_neg hcause]
    dsimp only
    exact quiet_countTrap.trans (quiet_log _ _)

/-! ### The trap that clears away -/

lemma vacated_congr {m m' : Machine} (hframes : m'.frames = m.frames)
    (hspaces : m'.spaces = m.spaces)
    (space : Option Nat) : (vacated m' space).frames = (vacated m space).frames ∧
      (vacated m' space).spaces = (vacated m space).spaces := by
  cases space with
  | none => exact ⟨hframes, hspaces⟩
  | some s =>
    have hsame : ({ m' with frames := m.frames, spaces := m.spaces } : Machine) = m' := by
      rw [← hframes, ← hspaces]
    have hmachine := Machine.dismantle_withMemory (s := s) m' m
    rw [hsame] at hmachine
    exact ⟨congrArg (·.frames) hmachine, congrArg (·.spaces) hmachine⟩

/-- What happens quietly before a process is cleared away, does not matter. -/
lemma Quiet.clears (h : k.Quiet k₁) (hl : k.Loaded) (hc : k₁.Clears id p k₂) :
    k.Clears id p k₂ where
  records := by
    rw [hc.records]
    exact congrArg (·.modify id.slot Process.cleared) h.records
  free := by rw [hc.free, h.free]
  current c := by rw [hc.current, h.current]
  frames := hc.frames.trans (vacated_congr h.frames h.spaces p.space).1
  spaces := hc.spaces.trans (vacated_congr h.frames h.spaces p.space).2
  windows := hc.windows.trans h.windows
  same := h.same.trans hc.same
  active c := by rw [hc.active, (h.undisturbed hl c).2]

/-- Nor does what happens quietly after that. -/
lemma Clears.quiet (hc : k.Clears id p k₁) (h : k₁.Quiet k₂) (hl : k₁.Loaded) :
    k.Clears id p k₂ where
  records := h.records.trans hc.records
  free := h.free.trans hc.free
  current c := (h.current c).trans (hc.current c)
  frames := h.frames.trans hc.frames
  spaces := h.spaces.trans hc.spaces
  windows := h.windows.trans hc.windows
  same := hc.same.trans h.same
  active c := ((h.undisturbed hl c).2).trans (hc.active c)

lemma auditLog_log (level : LogLevel) (message : String) :
    (k.log level message).auditLog = k.auditLog := by
  rw [log]
  split <;> rfl

lemma auditLog_clearStale : (k.clearStale cpu id).auditLog = k.auditLog := by
  rw [clearStale, reap]
  split
  · rfl
  · next space table _ =>
    rw [auditLog_log]
    cases space <;> rfl

lemma auditLog_acknowledgeInterrupt (cause : TrapCause) :
    (k.acknowledgeInterrupt cpu cause).auditLog = k.auditLog := by
  change (k.serviceInterrupt cpu cause).auditLog = k.auditLog
  cases cause with
  | timer =>
    rw [serviceInterrupt]
    split <;> rfl
  | spurious => exact auditLog_log ..
  | device line =>
    rw [serviceInterrupt]
    split
    · rfl
    · exact auditLog_log ..
  | _ => rfl

/-- Only the process `id` with record `p` was cleared away, and nothing was recorded. -/
def Sweeps (k : Kernel) (id : ProcessId) (p : Process) (k' : Kernel) : Prop :=
  k.Clears id p k' ∧ k'.auditLog = k.auditLog

/-- A processor finds that what it had bound is dying, with quiet changes before and after. -/
lemma clearStale_sweeps (hk : k.Sound) (hl : k.Loaded) (hquiet : k.Quiet k₁)
    (haudit : k₁.auditLog = k.auditLog) (hq : k.table.records[v.slot]? = some q) (hid : q.id = v)
    (hs : q.status = .dying) (hres : q.resident = some cpu)
    (hafter : (k₁.clearStale cpu v).Quiet k₂)
    (haudit₂ : k₂.auditLog = (k₁.clearStale cpu v).auditLog) : k.Sweeps v q k₂ := by
  have hmoves : Moves anyDeed k k₁ := .quiet trivial hquiet
  have hk₁ := hmoves.sound hk
  have hrec := hquiet.records ▸ hq
  have hclears := clearStale_clears hk₁.tables hrec hid hs hres
  have hl₂ := (Move.clear hrec hid (by rw [hs]; nofun) hclears).loaded hk₁ (hmoves.loaded hk hl)
  exact ⟨(hquiet.clears hl hclears).quiet hafter hl₂,
    haudit₂.trans (auditLog_clearStale.trans haudit)⟩

/-- So it does by a trap out of user code. -/
lemma userTrap_sweeps (hk : k.Sound) (hl : k.Loaded) (hquiet : k.Quiet k₁)
    (haudit : k₁.auditLog = k.auditLog) (hq : k.table.records[v.slot]? = some q) (hid : q.id = v)
    (hs : q.status = .dying) (hres : q.resident = some cpu) :
    ∃ k₂, k.Sweeps v q k₂ ∧ k₁.userTrap cpu (some v) f = k₂.schedule cpu := by
  have hnot : ¬ k₁.isBound cpu v := fun h => by
    obtain ⟨p, hp, -⟩ := isBound_iff.1 h
    exact live?_of_dying hq hs ((hquiet.live? v).symm.trans hp) rfl
  have hlog := quiet_log (k := k₁) .debug s!"cpu {cpu}: {v} is gone"
  rw [userTrap]
  dsimp only
  rw [if_neg hnot]
  refine ⟨_, clearStale_sweeps hk hl (hquiet.trans hlog) ((auditLog_log ..).trans haudit) hq hid hs
    hres ?_ ?_, rfl⟩
  · split
    · exact quiet_acknowledgeInterrupt _
    · exact .refl _
  · split
    · exact auditLog_acknowledgeInterrupt _
    · rfl

/-- And by an interrupt inside the kernel. -/
lemma kernelTrap_sweeps (hk : k.Sound) (hl : k.Loaded) (hquiet : k.Quiet k₁)
    (haudit : k₁.auditLog = k.auditLog) (hq : k.table.records[v.slot]? = some q) (hid : q.id = v)
    (hs : q.status = .dying) (hres : q.resident = some cpu)
    (hcause : (TrapCause.ofNumber f.trapno).isInterrupt) :
    ∃ k₂, k.Sweeps v q k₂ ∧ k₁.kernelTrap cpu (some v) f = k₂.schedule cpu := by
  have hack : k.Quiet (k₁.acknowledgeInterrupt cpu (TrapCause.ofNumber f.trapno)) :=
    hquiet.trans (quiet_acknowledgeInterrupt _)
  have hgone : (k₁.acknowledgeInterrupt cpu (TrapCause.ofNumber f.trapno)).live? v = none := by
    rw [Option.eq_none_iff_forall_ne_some]
    exact fun p hp => live?_of_dying hq hs ((hack.live? v).symm.trans hp) rfl
  rw [kernelTrap]
  dsimp only
  rw [if_pos hcause, preempt, hgone]
  exact ⟨_, clearStale_sweeps hk hl hack ((auditLog_acknowledgeInterrupt _).trans haudit) hq hid hs
    hres (.refl _) rfl, rfl⟩

/-- **The next trap of a processor that has a dying process bound**, out of user code or by an
interrupt, clears the process away. It does nothing that the process asked for; the processor
finds another process. -/
lemma trap_sweeps (hk : k.Sound) (hl : k.Loaded) (hq : k.table.records[v.slot]? = some q)
    (hid : q.id = v) (hs : q.status = .dying) (hres : q.resident = some cpu)
    (hwakes : f.isUser ∨ (TrapCause.ofNumber f.trapno).isInterrupt) :
    ∃ k₁, k.Sweeps v q k₁ ∧ k.trap cpu f = k₁.schedule cpu := by
  obtain ⟨c, hc, hcid⟩ := Option.bind_eq_some_iff.1 (hid ▸ hk.tables.claim_eq hq hres)
  rw [trap, hc]
  dsimp only
  rw [hcid]
  split
  · exact userTrap_sweeps hk hl quiet_countTrap rfl hq hid hs hres
  · next huser =>
    exact kernelTrap_sweeps hk hl quiet_countTrap rfl hq hid hs hres (hwakes.resolve_left huser)

/-- That trap leaves the slot of the process free. -/
lemma trap_vacates (hk : k.Sound) (hl : k.Loaded) (hq : k.table.records[v.slot]? = some q)
    (hid : q.id = v) (hs : q.status = .dying) (hres : q.resident = some cpu)
    (hwakes : f.isUser ∨ (TrapCause.ofNumber f.trapno).isInterrupt) : ∃ q' : Process,
    (k.trap cpu f).2.table.records[v.slot]? = some q' ∧ q'.status = .free := by
  obtain ⟨k₁, hsweeps, heq⟩ := trap_sweeps hk hl hq hid hs hres hwakes
  have hmove : k.Move (.clear v) k₁ := .clear hq hid (by rw [hs]; nofun) hsweeps.1
  obtain ⟨q', hq', hfree⟩ := hmove.cleared
  have hnone : k₁.current? cpu = none := by
    rw [hsweeps.1.current]
    exact if_pos hres
  have hlast : Moves Deed.Dispatch k₁ (k₁.schedule cpu).2 := schedule_moves hnone .quiet .bind
  rw [heq]
  exact ⟨q', hlast.free (hmove.sound hk) (by rintro _ _ ⟨⟩) hq' hfree, hfree⟩

/-- A process that had address space `s` is gone for good: nobody finds it, its address space is not
there any more, and its slot is free once. -/
structure Cleared (k : Kernel) (v : ProcessId) (s : Nat) : Prop where
  gone : k.live? v = none
  space : k.machine.space? s = none
  free : k.table.free.count v.slot = 1

/-- A process whose slot is free is gone for good, unless its address space is made anew. -/
lemma Moves.cleared (h : Moves A k k') (hk : k.Sound)
    (hA : ∀ caller number, A (.make caller number) → number.toNat ≠ s)
    (hp : k.table.records[v.slot]? = some p) (hs : p.space = some s)
    (hq : k'.table.records[v.slot]? = some q) (hfree : q.status = .free) : k'.Cleared v s := by
  have hk' := h.sound hk
  exact ⟨live?_eq_none hq fun hlive => ProcessStatus.ne_free_of_isLive hlive hfree,
    h.space_gone hk hA hp hs hq fun hspace =>
      (hk'.tables.sound _ q hq).space_iff.1 (by rw [hspace]; rfl) hfree,
    (count_free hk' hq).trans (if_pos hfree)⟩

/-- The process `v`, which had record `p` and address space `s` in `k`, lingers: it is dying and
bound to processor `d`, which has its address space loaded. That is there and shows what it showed,
and nobody has taken the slot. -/
structure Lingers (k : Kernel) (v : ProcessId) (p : Process) (d s : Nat) (k' : Kernel) : Prop where
  record : k'.table.records[v.slot]? = some p.doomed
  resident : p.doomed.resident = some d
  current : k'.current? d = some v
  space : (k'.machine.space? s).isSome
  pages : ∀ page, k'.machine.mapping? s page = k.machine.mapping? s page
  active : k'.machine.activeSpace? d = some s
  taken : v.slot ∉ k'.table.free

/-- That follows from what the slot and the pages are. -/
lemma Keeps.lingers (h : k.Keeps v.slot p.doomed k') (hk' : k'.Sound) (hsep' : k'.Separate n)
    (hl' : k'.Loaded) (hid : p.id = v) (hs : p.space = some s) (hres : p.resident = some d) :
    k.Lingers v p d s k' := by
  have hcur : k'.current? d = some v := hid ▸ hk'.tables.claim_eq h.record hres
  refine ⟨h.record, hres, hcur, hsep'.housed.exist _ _ s h.record hs,
    fun page => h.pages s page hs, ?_, fun hmem => ?_⟩
  · rw [hl'.active, boundSpace?_of_some hcur h.record]
    exact hs
  · obtain ⟨q, hq, hfree⟩ := (hk'.tables.mem_free_iff _).1 hmem
    rw [h.record] at hq
    cases hq
    cases hfree

end Kernel

/-! ### Operations -/

namespace Operation

variable {k : Kernel} {op : Operation} {v : ProcessId} {p q : Process} {d slot : Nat}

/-- **What becomes of a process by an operation**: it stays live, or it ends by what a processor
does. -/
lemma fate (hk : k.Sound) (hsep : k.Separate k.machine.spaces.nextId) (hl : k.Loaded)
    (hlegal : op.Legal k) (hp : k.live? v = some p) : (∃ q, (op.apply k).live? v = some q) ∨
      ∃ cpu, op.performer = some cpu ∧ k.Fate cpu v p (op.apply k) := by
  have hlive := (Kernel.live?_eq_some_iff.1 hp).2
  cases op with
  | spawn image =>
    exact .inl ((Kernel.spawn_moves hk image).live? hk (fun _ hd => hd.not_ends hp) hp)
  | allocate parent =>
    have hmoves : Kernel.Moves k.SpawnDeed k _ := allocate_moves .quiet .make parent
    exact .inl (hmoves.live? hk (fun _ hd => hd.not_ends hp) hp)
  | destroy cpu id =>
    have hmoves := destroy_moves hk cpu id
    by_cases hid : id = v
    · subst hid
      have hending := hmoves.mono (B := Kernel.Deed.Ending cpu id p) fun deed hd => by
        cases hd with
        | quiet => exact .spares trivial nofun nofun
        | clear hq hhere =>
          rw [hp] at hq
          cases hq
          exact .clear hhere
        | doom hq hres hne =>
          rw [hp] at hq
          cases hq
          refine .doom fun hres' => hne ?_
          rw [hres, Option.some.injEq] at hres'
          exact hres'
      rcases hending.fate hk hsep hl hp with hkeeps | hfate
      · exact .inl ⟨p, Kernel.live?_eq_some_iff.2 ⟨hkeeps.record, hlive⟩⟩
      · exact .inr ⟨cpu, rfl, hfate⟩
    · refine .inl (hmoves.live? hk (fun deed hd hends => ?_) hp)
      cases hd with
      | quiet => cases hends
      | clear hq hhere => exact hid hends
      | doom hq hres hne => exact hid hends
  | trap cpu f => exact (Kernel.trap_fate hk hsep hl hp).imp_right fun hfate => ⟨cpu, rfl, hfate⟩
  | schedule cpu =>
    have hmoves := Kernel.schedule_moves (A := Kernel.Deed.Dispatch) (k := k) hlegal .quiet .bind
    exact .inl (hmoves.live? hk (fun _ hd hends => by cases hd <;> cases hends) hp)
  | latch cpu va => exact .inl ⟨p, hp⟩
  | store s va data => exact .inl ⟨p, hp⟩

/-- An operation destroys a process: the host wishes it, or the process or its parent asks for it,
or the kernel ends it for what it did. -/
inductive Destroys (k : Kernel) (v : ProcessId) : Operation → Prop where
  | host (cpu : Nat) : Destroys k v (.destroy cpu v)
  | call {cpu : Nat} {caller target : ProcessId} {f : TrapFrame}
      (hcur : k.current? cpu = some caller)
      (hcalls : k.Calls caller f (.destroy target)) (hv : k.resolve caller target true = .ok v) :
      Destroys k v (.trap cpu f)
  | ended {op : Operation} (hgone : (op.apply k).live? v = none) : Destroys k v op

/-- **Whoever is destroyed** is not live any more. -/
lemma Destroys.gone (h : Destroys k v op) (hk : k.Sound) (hp : k.live? v = some p) :
    (op.apply k).live? v = none := by
  cases h with
  | host cpu =>
    rw [apply, Kernel.destroy, hp]
    exact Kernel.destroyOn_gone hk cpu v
  | call hcur hcalls hv => exact Kernel.trap_destroy_gone hk hcur hcalls hv
  | ended hgone => exact hgone

/-- A trap by which a processor looks at what it has bound: any but an exception inside the
kernel. -/
def Wakes (d : Nat) : Operation → Prop
  | .trap cpu f => cpu = d ∧ (f.isUser ∨ (TrapCause.ofNumber f.trapno).isInterrupt)
  | _ => False

/-- A trap that does not wake its processor skips a dying process. -/
lemma trap_skips {cpu : Nat} {f : TrapFrame} (hk : k.Sound)
    (hwakes : ¬ (trap cpu f).Wakes d) (hq : k.table.records[slot]? = some q)
    (hs : q.status = .dying) (hres : q.resident = some d) :
    Kernel.Moves (fun deed => deed.Numbered k.machine.spaces.nextId ∧ deed.Skips slot) k
      ((trap cpu f).apply k) := by
  have hdispatch : ∀ deed : Kernel.Deed, deed.Dispatch →
      deed.Numbered k.machine.spaces.nextId ∧ deed.Skips slot :=
    fun _ hd => ⟨hd.numbered, hd.skips⟩
  rw [apply]
  cases hcur : k.current? cpu with
  | none =>
    rcases Kernel.trap_idle (f := f) hcur with ⟨k₁, hk₁, heq⟩ | ⟨k₁, panic, hk₁, heq⟩
    · rw [heq]
      exact (Kernel.Moves.quiet (hdispatch _ .quiet) hk₁).trans
        (Kernel.schedule_moves ((hk₁.current cpu).trans hcur) (hdispatch _ .quiet)
          fun _ => hdispatch _ (.bind _))
    · rw [heq]
      exact .quiet (hdispatch _ .quiet) hk₁
  | some id =>
    by_cases hcpu : cpu = d
    · refine .quiet (hdispatch _ .quiet) (Kernel.trap_halts (fun huser => ?_) fun hcause => ?_)
      · exact hwakes ⟨hcpu, .inl huser⟩
      · exact hwakes ⟨hcpu, .inr hcause⟩
    · -- the process is bound to another processor
      obtain ⟨k₁, hmoves, hlast⟩ := Kernel.trap_stages (f := f) hk hcur
      exact (hmoves.mono fun deed hd =>
        ⟨hd.numbered, .inl (hd.spares_dying hk hcur hq hs hres hcpu)⟩).trans
        (hlast.mono hdispatch)

/-- **Every operation spares a dying process** that does not wake its processor. -/
lemma spares (hk : k.Sound) (hlegal : op.Legal k) (hwakes : ¬ op.Wakes d)
    (hq : k.table.records[slot]? = some q) (hs : q.status = .dying) (hres : q.resident = some d) :
    Kernel.Moves (fun deed => deed.Numbered k.machine.spaces.nextId ∧ deed.Spares slot) k
        (op.apply k) ∨
      (∃ cpu va, op = .latch cpu va) ∨ ∃ s va data, op = .store s va data := by
  have hvacant : ∀ {id : ProcessId} {r : Process}, k.table.records[id.slot]? = some r →
      r.status = .free → id.slot ≠ slot := by
    rintro id r hr hfree rfl
    rw [hq] at hr
    cases hr
    rw [hs] at hfree
    cases hfree
  have hspawn : ∀ deed, k.SpawnDeed deed →
      deed.Numbered k.machine.spaces.nextId ∧ deed.Spares slot := fun deed hd => by
    refine ⟨hd.numbered, ?_⟩
    cases hd with
    | quiet | make => trivial
    | edit hr hfree | work hr hfree | clear hr hfree => exact hvacant hr hfree
  have hskipped : ∀ {k' : Kernel},
      Kernel.Moves (fun deed => deed.Numbered k.machine.spaces.nextId ∧ deed.Skips slot) k k' →
      Kernel.Moves (fun deed => deed.Numbered k.machine.spaces.nextId ∧ deed.Spares slot) k k' :=
    fun hmoves => (hmoves.spares hk (fun _ hd => hd.2) hq hs).mono fun _ hd => ⟨hd.1.1, hd.2⟩
  cases op with
  | spawn image => exact .inl ((Kernel.spawn_moves hk image).mono hspawn)
  | allocate parent => exact .inl (allocate_moves (hspawn _ .quiet) (hspawn _ .make) parent)
  | destroy cpu id =>
    refine .inl ((destroy_moves hk cpu id).mono fun deed hd => ⟨hd.numbered, ?_⟩)
    cases hd with
    | quiet => trivial
    | clear hp hhere | doom hp hres hne => exact Kernel.live?_of_dying hq hs hp
  | trap cpu f => exact .inl (hskipped (trap_skips hk hwakes hq hs hres))
  | schedule cpu =>
    have hmoves := Kernel.schedule_moves (A := Kernel.Deed.Dispatch) (k := k) hlegal .quiet .bind
    exact .inl (hskipped (hmoves.mono fun _ hd => ⟨hd.numbered, hd.skips⟩))
  | latch cpu va => exact .inr (.inl ⟨cpu, va, rfl⟩)
  | store s va data => exact .inr (.inr ⟨s, va, data, rfl⟩)

/-- **The record of a dying process stays**, until its processor is woken. -/
lemma record_dying (hk : k.Sound) (hlegal : op.Legal k) (hwakes : ¬ op.Wakes d)
    (hq : k.table.records[slot]? = some q) (hs : q.status = .dying) (hres : q.resident = some d) :
    (op.apply k).table.records[slot]? = some q := by
  rcases op.spares hk hlegal hwakes hq hs hres with hmoves | ⟨_, _, rfl⟩ | ⟨_, _, _, rfl⟩
  · exact hmoves.record hk (fun _ hd => hd.2) hq (by rw [hs]; decide)
  · exact hq
  · exact hq

/-- **A dying process is left alone** by every operation that does not wake its processor. -/
lemma lingers (hk : k.Sound) (hsep : k.Separate k.machine.spaces.nextId) (hlegal : op.Legal k)
    (hwakes : ¬ op.Wakes d) (hq : k.table.records[slot]? = some q) (hs : q.status = .dying)
    (hres : q.resident = some d) : k.Keeps slot q (op.apply k) := by
  rcases op.spares hk hlegal hwakes hq hs hres with hmoves | ⟨_, _, rfl⟩ | ⟨_, _, _, rfl⟩
  · exact hmoves.keeps hk (fun _ hd => hd.1) hsep (fun _ hd => hd.2) hq (by rw [hs]; decide)
  · exact ⟨hq, fun _ _ _ => rfl⟩
  · exact ⟨hq, fun _ _ _ => rfl⟩

end Operation

/-- **The record of a dying process stays** in every run that does not wake its processor. -/
lemma Run.record_dying {config : Config} {frames d slot : Nat} {k k' : Kernel} {q : Process}
    (h : Run (fun _ op => ¬ op.Wakes d) k k') (hk : Reachable config frames k)
    (hq : k.table.records[slot]? = some q) (hs : q.status = .dying) (hres : q.resident = some d) :
    k'.table.records[slot]? = some q := by
  induction h with
  | refl => exact hq
  | step hrun op hlegal hop ih =>
    exact op.record_dying (hrun.reachable hk).sound hlegal hop ih hs hres

/-- **A dying process is left alone** until its processor is woken, as long as the numbers of
address spaces have not come round. -/
lemma History.lingers {config : Config} {frames d slot : Nat} {k₀ k k' : Kernel}
    {es es' : List Transition} {q : Process} (h : History k es' k') (hk₀ : Booted config frames k₀)
    (hbefore : History k₀ es k) (hfew : spacesMade (es ++ es') < UInt32.size - 1)
    (hwakes : ∀ e ∈ es', ¬ e.op.Wakes d) (hq : k.table.records[slot]? = some q)
    (hs : q.status = .dying) (hres : q.resident = some d) : k.Keeps slot q k' := by
  induction h with
  | nil => exact .refl hq
  | @snoc es₁ k₁ hhist op hlegal ih =>
    rw [← List.append_assoc, spacesMade_concat] at hfew
    have hfew₁ := Nat.lt_of_le_of_lt (Nat.le_add_right ..) hfew
    obtain ⟨hasleep, hlast⟩ := List.forall_mem_append.1 hwakes
    have hkeeps := ih hfew₁ hasleep
    have hearly : Early config frames k₁ := ⟨k₀, _, hk₀, hbefore.append hhist, hfew₁⟩
    exact hkeeps.trans (op.lingers hearly.reachable.sound hearly.separate hlegal
      (hlast _ (List.mem_singleton_self _)) hkeeps.record hs hres)

/-- **Whoever is destroyed is torn down once, by the one processor that may.** A process that nobody
else has bound is gone for good when the operation that destroys it returns. One that another
processor has bound is left to that processor, which receives an interrupt. Until the next trap of
that processor, but for exceptions inside the kernel, and whatever the others do, the process
lingers. That trap, for whatever reason it is taken, does nothing else than to clear the process
away before the processor finds another one, and then it is gone for good. All of this holds as long
as the numbers of address spaces have not come round. -/
theorem teardown_deferred {config : Config} {frames : Nat} {k₀ k : Kernel} {es : List Transition}
    {op : Operation} {v : ProcessId} {p : Process} (hk₀ : Booted config frames k₀)
    (h : History k₀ es k) (hfew : spacesMade es < UInt32.size - 1) (hlegal : op.Legal k)
    (hp : k.live? v = some p) (hdestroyed : op.Destroys k v) :
    ∃ cpu s, op.performer = some cpu ∧ p.space = some s ∧ (op.apply k).live? v = none ∧
      (p.resident = none ∨ p.resident = some cpu → (op.apply k).Cleared v s) ∧
      ∀ d, p.resident = some d → d ≠ cpu →
        (op.apply k).machine.received d = k.machine.received d ++ [TrapNumber.reschedule] ∧
        ∀ es' k', History (op.apply k) es' k' → (∀ e ∈ es', ¬ e.op.Wakes d) →
          spacesMade (es ++ ⟨k, op⟩ :: es') < UInt32.size - 1 → k.Lingers v p d s k' ∧
          ∀ f, (Operation.trap d f).Wakes d →
            (∃ k₁, k'.Sweeps v p.doomed k₁ ∧ k'.trap d f = k₁.schedule d) ∧
            (k'.trap d f).2.Cleared v s := by
  have hearly : Early config frames k := ⟨k₀, es, hk₀, h, hfew⟩
  have hreach := hearly.reachable
  have hk := hreach.sound
  have hsep := hearly.separate
  have hgone := hdestroyed.gone hk hp
  obtain ⟨hrec, hid, hlive⟩ := Kernel.live?_eq_some_iff.1 hp
  obtain ⟨s, hs⟩ := Option.isSome_iff_exists.1
    ((hk.tables.sound _ p hrec).space_iff.2 (ProcessStatus.ne_free_of_isLive hlive))
  obtain ⟨cpu, hcpu, hfate⟩ := (op.fate hk hsep hreach.loaded hlegal hp).resolve_left
    fun ⟨q, hq⟩ => by
      rw [hgone] at hq
      cases hq
  refine ⟨cpu, s, hcpu, hs, hgone, fun hhere => ?_, fun d hres hd => ?_⟩
  · cases hfate with
    | cleared _ hq hfree =>
      have hmoves : Kernel.Moves (Kernel.Deed.Numbered k.machine.spaces.nextId) k
          (op.apply k) := by
        rcases op.moves hk hlegal with hmoves | ⟨_, _, rfl⟩ | ⟨_, _, _, rfl⟩
        · exact hmoves
        · cases hcpu
        · cases hcpu
      refine hmoves.cleared hk (fun caller number hnumber => ?_) hrec hs hq hfree
      -- the next number is free, and that of the process is not
      rintro rfl
      have hthere := hsep.housed.exist _ p _ hrec hs
      rw [show number = k.machine.spaces.nextId from hnumber, hsep.free rfl] at hthere
      cases hthere
    | doomed hres hne =>
      rw [hres] at hhere
      exact absurd (Option.some.inj (hhere.resolve_left nofun)) hne
  · cases hfate with
    | cleared hhere =>
      rw [hres] at hhere
      exact absurd (Option.some.inj (hhere.resolve_left nofun)) hd
    | @doomed holder hres' _ hkeeps hreceived =>
      rw [hres, Option.some.injEq] at hres'
      subst hres'
      refine ⟨hreceived, fun es' k' hafter hwakes hfew' => ?_⟩
      rw [List.append_cons] at hfew'
      have hafter₀ := (h.snoc op hlegal).append hafter
      have hearly' : Early config frames k' := ⟨k₀, _, hk₀, hafter₀, hfew'⟩
      have hkeeps' := hkeeps.trans
        (hafter.lingers hk₀ (h.snoc op hlegal) hfew' hwakes hkeeps.record rfl hres)
      have hreach' := hearly'.reachable
      refine ⟨hkeeps'.lingers hreach'.sound hearly'.separate hreach'.loaded hid hs hres,
        fun f hwakes => ?_⟩
      obtain ⟨k₁, hsweeps, heq⟩ := Kernel.trap_sweeps hreach'.sound hreach'.loaded hkeeps'.record
        hid rfl hres hwakes.2
      refine ⟨⟨k₁, hsweeps, heq⟩, ?_⟩
      have hmove : k'.Move (.clear v) k₁ := .clear hkeeps'.record hid nofun hsweeps.1
      obtain ⟨q, hq, hfree⟩ := hmove.cleared
      have hnone : k₁.current? d = none := by
        rw [hsweeps.1.current]
        exact if_pos hres
      have hlast : Kernel.Moves Kernel.Deed.Dispatch k₁ (k₁.schedule d).2 :=
        Kernel.schedule_moves hnone .quiet .bind
      have hall : Kernel.Moves (fun deed => ∀ caller number, deed ≠ .make caller number) k'
          (k₁.schedule d).2 :=
        .trans (.one (by rintro _ _ ⟨⟩) hmove) (hlast.mono fun _ hd => hd.not_make)
      rw [heq]
      exact hall.cleared hreach'.sound (fun _ _ hd => absurd rfl (hd _ _)) hkeeps'.record hs
        (hlast.free (hmove.sound hreach'.sound) (by rintro _ _ ⟨⟩) hq hfree) hfree

/-- A process that another processor destroys lingers while that processor goes on, and is cleared
away instead of being heard. -/
theorem teardown_deferred_elsewhere : ∃ (k k' : Kernel) (es' : List Transition) (f : TrapFrame),
    Early { maxProcesses := 2, cpus := 2 } 16 k ∧ k.live? (ProcessId.self.next 0) ≠ none ∧
    History ((Operation.destroy 1 (ProcessId.self.next 0)).apply k) es' k' ∧
    (∀ e ∈ es', ¬ e.op.Wakes 0) ∧
    Syscall.decode f.call = .ok .exofork ∧ k'.machine.activeSpace? 0 = some 1 ∧
    (k'.trap 0 f).2.Cleared (ProcessId.self.next 0) 1 := by
  have hboot : Booted { maxProcesses := 2, cpus := 2 } 16 _ := ⟨_, [0, 1], rfl, .refl _, rfl⟩
  have hhist := (hboot.history.snoc (.spawn ⟨⟨0⟩, []⟩) trivial).snoc (.schedule 0) rfl
  obtain ⟨cpu, s, hcpu, hs, -, -, hlater⟩ := teardown_deferred hboot hhist
    (Nat.lt_of_le_of_lt List.countP_le_length (by decide))
    (show (Operation.destroy 1 (ProcessId.self.next 0)).Legal _ from trivial) rfl (.host 1)
  obtain rfl : 1 = cpu := Option.some.inj hcpu
  obtain rfl : 1 = s := Option.some.inj hs
  obtain ⟨-, hdeferred⟩ := hlater 0 rfl (by decide)
  -- the destroyer spawns a process and runs it
  obtain ⟨hlingers, hcleared⟩ := hdeferred _ _
    (.snoc (.snoc .nil (.spawn ⟨⟨0⟩, []⟩) trivial) (.schedule 1) rfl)
    (List.forall_mem_cons.2 ⟨nofun, List.forall_mem_singleton.2 nofun⟩)
    (Nat.lt_of_le_of_lt List.countP_le_length (by decide))
  exact ⟨_, _, _, { (TrapFrame.initial 0).withCall Syscall.exofork.encode with
    trapno := TrapNumber.syscall }, hhist.early hboot (by decide), by decide,
    .snoc (.snoc .nil (.spawn ⟨⟨0⟩, []⟩) trivial) (.schedule 1) rfl,
    List.forall_mem_cons.2 ⟨nofun, List.forall_mem_singleton.2 nofun⟩, by decide, hlingers.active,
    (hcleared _ ⟨rfl, .inl rfl⟩).2⟩

end Exokernel
