/-
Processes that do not run.

* `Operation.Affects`, `Operation.affects`: what an operation makes of the record of a process that
  is bound nowhere;
* `Operation.unbound`: the process stays bound nowhere unless a processor is told to run it;
* `Operation.told`: and if so, it is told the registers in the record;
* `Pause`: a stretch of a run to where a process is next told to run;
* `Pause.induct`: **what holds of a process while it pauses**, by induction on the operations of the
  others.
-/
import Exokernel.Proofs.Histories
import Exokernel.Proofs.Kernel.Effects
import Exokernel.Proofs.Processors

namespace Exokernel

namespace Kernel

variable {k k' : Kernel} {id s t : ProcessId} {p p' p₁ : Process} {cpu : Nat} {f : TrapFrame}
  {c : Syscall}

/-! ### The others -/

/-- A process that a processor does not have bound has another slot than the one that it has. -/
lemma slot_ne_of_current (hk : k.Sound) (hcur : k.current? cpu = some s) (hp : k.live? t = some p)
    (hres : p.resident ≠ some cpu) : s.slot ≠ t.slot := by
  obtain ⟨q, hq, -, hbound⟩ := (hk.tables.claim_iff cpu s).1 hcur
  intro hslot
  rw [hslot, (live?_eq_some_iff.1 hp).1] at hq
  cases hq
  exact hres hbound

/-- A trap that makes no call spares all other slots. -/
lemma TrapDeed.spares {d : Deed} {slot : Nat} (h : k.TrapDeed s f d)
    (hnot : ∀ c, ¬ k.Calls s f c) (hne : s.slot ≠ slot) : d.Spares slot := by
  cases h with
  | own hd => exact hd.spares hne
  | call huser hlive hcause hsaved hc hd => exact absurd ⟨huser, hlive, hcause, hc⟩ (hnot _)
  | fault hcause hsaved hm => exact hne

/-- What is done to make a process is about slots that were free. -/
lemma SpawnDeed.spares {d : Deed} (h : k.SpawnDeed d) (hp : k.live? t = some p) :
    d.Spares t.slot := by
  obtain ⟨hrec, -, hlive⟩ := live?_eq_some_iff.1 hp
  have hne : ∀ {id : ProcessId} {q : Process}, k.table.records[id.slot]? = some q →
      q.status = .free → id.slot ≠ t.slot := fun hq hfree hslot => by
    rw [hslot, hrec] at hq
    cases hq
    exact ProcessStatus.ne_free_of_isLive hlive hfree
  cases h with
  | quiet | make => trivial
  | edit hq hs | work hq hs | clear hq hs => exact hne hq hs

/-- What a call makes of another process leaves it bound where it was. -/
lemma Affects.resident (h : k.Affects s t p c p₁) (hne : s ≠ t) : p₁.resident = p.resident := by
  cases h with
  | setStatus =>
    rw [withStatus]
    split
    · rfl
    · split <;> rfl
  | yield hself | receive hself => exact absurd hself.symm hne
  | _ => rfl

end Kernel

namespace Operation

open Kernel (Deed Moves dispatched)

variable {k : Kernel} {op : Operation} {t : ProcessId} {p p' p₁ : Process} {g : TrapFrame}

/-! ### One operation -/

/-- What an operation makes of the record `p` of process `t`, apart from its being dispatched. -/
inductive Affects (k : Kernel) (t : ProcessId) (p : Process) : Operation → Process → Prop where
  | spared {op : Operation} : Affects k t p op p
  | call {cpu : Nat} {s : ProcessId} {f : TrapFrame} {c : Syscall} {p₁ : Process}
      (hcur : k.current? cpu = some s) (hcalls : k.Calls s f c) (hne : s ≠ t)
      (h : k.Affects s t p c p₁) : Affects k t p (.trap cpu f) p₁

lemma Affects.resident (h : op.Affects k t p p₁) : p₁.resident = p.resident := by
  cases h with
  | spared => rfl
  | call hcur hcalls hne h => exact h.resident hne

/-- A record at the end of an operation: as the operation has made it, or dispatched by a processor
that is told to run the process. -/
def Proceeds (k : Kernel) (op : Operation) (t : ProcessId) (p₁ p' : Process) : Prop :=
  p' = p₁ ∨ ∃ cpu, op.outcome? k = some (.user t p₁.frame) ∧ p' = dispatched cpu p₁

lemma Proceeds.frame (h : op.Proceeds k t p₁ p') : p'.frame = p₁.frame := by
  rcases h with rfl | ⟨cpu, -, rfl⟩ <;> rfl

lemma Proceeds.mailbox (h : op.Proceeds k t p₁ p') : p'.mailbox = p₁.mailbox := by
  rcases h with rfl | ⟨cpu, -, rfl⟩ <;> rfl

/-- What a processor that goes on makes of the record of a process. -/
lemma proceeds_of_goes {cpu : Nat} {r : Resume × Kernel} (houtcome : op.outcome? k = some r.1)
    (hid : p₁.id = t) (h : Kernel.Goes cpu p₁ r p') : op.Proceeds k t p₁ p' := by
  rcases h with rfl | ⟨hres, rfl⟩
  · exact .inl rfl
  · exact .inr ⟨cpu, by rw [houtcome, hres, hid], rfl⟩

/-- A trap of a process makes a call or does not, and other processes proceed from what that makes
of them. -/
lemma trap_affects {cpu : Nat} {s : ProcessId} {f : TrapFrame} (hk : k.Sound)
    (hcur : k.current? cpu = some s) (hp : k.live? t = some p) (hidle : p.resident = none)
    (hp' : (k.trap cpu f).2.live? t = some p') : ∃ p₁,
      Affects k t p (.trap cpu f) p₁ ∧ Proceeds k (.trap cpu f) t p₁ p' := by
  have hslot : s.slot ≠ t.slot :=
    Kernel.slot_ne_of_current hk hcur hp (by rw [hidle]; nofun)
  obtain ⟨hrec', -, -⟩ := Kernel.live?_eq_some_iff.1 hp'
  -- the processor goes on, in a kernel in which the process has a record
  have hgo : ∀ {k₂ : Kernel} {p₁ : Process}, k₂.live? t = some p₁ →
      Kernel.GoesOn cpu s k₂ (k.trap cpu f) → Proceeds k (.trap cpu f) t p₁ p' :=
    fun hp₁ hgoes => by
      obtain ⟨hrec₁, hid, -⟩ := Kernel.live?_eq_some_iff.1 hp₁
      obtain ⟨⟨q', hq', hgo⟩, -⟩ := hgoes.keeps hrec₁
      rw [hrec'] at hq'
      cases hq'
      exact proceeds_of_goes rfl hid hgo
  by_cases hcall : ∃ c, k.Calls s f c
  · obtain ⟨c, hcalls⟩ := hcall
    obtain ⟨k₁, q, k₂, hsaved, hk₁, hq, -, hres, hrest, hgoes⟩ :=
      Kernel.call_stages hk hcur hcalls
    have hp₁ := (hsaved.live?_iff hslot).2 hp
    have hexec : (k₁.execute cpu s c).2.Sound :=
      (Kernel.execute_moves (c := c) hk₁ hq hres).1.sound hk₁
    cases hafter : (k₁.execute cpu s c).2.live? t with
    | none =>
      have hgone := hgoes.moves.gone (hrest.sound hexec) (fun _ => nofun)
        (hrest.gone hexec (fun _ => nofun) hafter)
      rw [hp'] at hgone
      cases hgone
    | some p₁ =>
      have haffects := hsaved.affects (Kernel.execute_affects hk₁ hq hres hp₁ hafter)
      refine ⟨p₁, .call hcur hcalls (fun heq => hslot (congrArg _ heq)) haffects, ?_⟩
      exact hgo (hrest.spared hexec (fun _ hd => hd.spares hslot) hafter) hgoes
  · obtain ⟨k₁, hdeeds, hend⟩ := Kernel.trap_cases (f := f) hk hcur
    have hp₁ : k₁.live? t = some p :=
      hdeeds.spared hk (fun _ hd => hd.spares (fun c hc => hcall ⟨c, hc⟩) hslot) hp
    refine ⟨p, .spared, ?_⟩
    rcases hend with hgoes | ⟨panic, heq⟩
    · exact hgo hp₁ hgoes
    · rw [heq] at hp'
      exact .inl (Option.some.inj (hp'.symm.trans hp₁))

/-- A processor that schedules proceeds from the records as they are. -/
lemma schedule_proceeds {cpu : Nat} {k₁ : Kernel} (hnone : k₁.current? cpu = none)
    (hp : k₁.live? t = some p) (houtcome : op.outcome? k = some (k₁.schedule cpu).1)
    (hp' : (k₁.schedule cpu).2.live? t = some p') : op.Proceeds k t p p' := by
  obtain ⟨hrec, hid, -⟩ := Kernel.live?_eq_some_iff.1 hp
  obtain ⟨⟨q', hq', hgo⟩, -⟩ := Kernel.schedule_keeps hnone hrec
  rw [(Kernel.live?_eq_some_iff.1 hp').1] at hq'
  cases hq'
  exact proceeds_of_goes houtcome hid hgo

lemma destroy_affects {cpu : Nat} {id : ProcessId} (hk : k.Sound) (hp : k.live? t = some p)
    (hp' : (apply k (.destroy cpu id)).live? t = some p') : p' = p := by
  cases hr : k.live? id with
  | none =>
    rw [apply, Kernel.destroy, hr] at hp'
    exact Option.some.inj (hp'.symm.trans hp)
  | some r =>
    rw [apply, Kernel.destroy, hr] at hp'
    exact Kernel.destroyOn_affects hk hr hp hp'

/-- **What an operation makes of a process that is bound nowhere** and lives on. -/
lemma affects (hk : k.Sound) (hlegal : op.Legal k) (hp : k.live? t = some p)
    (hidle : p.resident = none) (hp' : (op.apply k).live? t = some p') :
    ∃ p₁, op.Affects k t p p₁ ∧ op.Proceeds k t p₁ p' := by
  -- an operation that is not about the process
  have hspared : (op.apply k).live? t = some p →
      ∃ p₁, op.Affects k t p p₁ ∧ op.Proceeds k t p₁ p' :=
    fun h => ⟨p, .spared, .inl (Option.some.inj (hp'.symm.trans h))⟩
  cases op with
  | spawn image =>
    exact hspared ((Kernel.spawn_moves hk image).spared hk (fun _ hd => hd.spares hp) hp)
  | allocate parent =>
    have hmoves : Moves k.SpawnDeed k (apply k (.allocate parent)) :=
      allocate_moves .quiet .make parent
    exact hspared (hmoves.spared hk (fun _ hd => hd.spares hp) hp)
  | destroy cpu id => exact ⟨p, .spared, .inl (destroy_affects hk hp hp')⟩
  | trap cpu f =>
    cases hcur : k.current? cpu with
    | none =>
      refine ⟨p, .spared, ?_⟩
      rw [apply] at hp'
      rcases Kernel.trap_idle (f := f) hcur with ⟨k₁, hk₁, heq⟩ | ⟨k₁, panic, hk₁, heq⟩
      · rw [heq] at hp'
        exact schedule_proceeds ((hk₁.current cpu).trans hcur) ((hk₁.live? t).trans hp)
          (by rw [outcome?, heq]) hp'
      · rw [heq] at hp'
        exact .inl (Option.some.inj (hp'.symm.trans ((hk₁.live? t).trans hp)))
    | some s => exact trap_affects hk hcur hp hidle hp'
  | schedule cpu => exact ⟨p, .spared, schedule_proceeds hlegal hp rfl hp'⟩
  | latch cpu va => exact hspared hp
  | store s va data => exact hspared hp

/-- **A process that is bound nowhere** stays so, unless a processor is told to run it. -/
lemma unbound (hk : k.Sound) (hlegal : op.Legal k) (hp : k.live? t = some p)
    (hidle : p.resident = none) (hp' : (op.apply k).live? t = some p')
    (hnot : op.resumed? k ≠ some t) : p'.resident = none := by
  obtain ⟨p₁, haffects, rfl | ⟨cpu, houtcome, -⟩⟩ := affects hk hlegal hp hidle hp'
  · rw [haffects.resident, hidle]
  · rw [resumed?, houtcome] at hnot
    exact absurd rfl hnot

/-- **Who is told to run** runs, with the registers that the processor was told. -/
lemma told (hk : k.Sound) (hlegal : op.Legal k) (h : op.outcome? k = some (.user t g)) :
    ∃ p', (op.apply k).live? t = some p' ∧ p'.status = .running ∧ p'.frame = g := by
  cases op with
  | trap cpu f =>
    obtain ⟨p', hp', hrun, -, hframe⟩ := (Kernel.trap_tells hk).user t g (Option.some.inj h)
    exact ⟨p', hp', hrun, hframe⟩
  | schedule cpu =>
    obtain ⟨p', hp', hrun, -, hframe⟩ :=
      (Kernel.schedule_tells hk hlegal).user t g (Option.some.inj h)
    exact ⟨p', hp', hrun, hframe⟩
  | spawn | allocate | destroy | latch | store => cases h

end Operation

/-! ### Any run -/

/-- What holds after the first operation of a history, and is kept by the others, holds as soon as
the history has begun. -/
lemma History.begun {config : Config} {frames : Nat} {k k' : Kernel} {op : Operation}
    {es : List Transition} {Q : Transition → Prop} {P : List Transition → Kernel → Prop}
    (h : History k es k') (hk : Reachable config frames k) (hQ : ∀ e ∈ es, Q e)
    (hhead : ∀ e, es.head? = some e → e = ⟨k, op⟩)
    (hfirst : op.Legal k → Q ⟨k, op⟩ → P [⟨k, op⟩] (op.apply k))
    (hstep : ∀ es₁ k₁ op₁, Reachable config frames k₁ → op₁.Legal k₁ → Q ⟨k₁, op₁⟩ →
      P es₁ k₁ → P (es₁ ++ [⟨k₁, op₁⟩]) (op₁.apply k₁)) :
    es = [] ∧ k' = k ∨ P es k' := by
  refine h.invariant (P := fun es k' => (∀ e, es.head? = some e → e = ⟨k, op⟩) →
    es = [] ∧ k' = k ∨ P es k') hk hQ (fun _ => .inl ⟨rfl, rfl⟩) ?_ hhead
  intro es₁ k₁ op₁ hreach hlegal hlast ih hhead
  rcases ih fun e he => hhead e (by rw [List.head?_append, he]; rfl) with ⟨rfl, rfl⟩ | hheld
  · cases hhead _ rfl
    exact .inr (hfirst hlegal hlast)
  · exact .inr (hstep es₁ k₁ op₁ hreach hlegal hlast hheld)

/-- **A stretch of a run to where process `t` is next told to run**: it begins in state `k` with
operation `op`, the process lives on, and the last transition, but no other, tells a processor to
run the process, with registers `g`. A process that is destroyed has no pause: its id may come back,
but for another process. -/
structure Pause (k : Kernel) (op : Operation) (t : ProcessId) (es : List Transition)
    (g : TrapFrame) : Prop where
  history : ∃ k', History k es k'
  first : es.head? = some ⟨k, op⟩
  lives : ∀ e ∈ es, (e.after.live? t).isSome
  last : ∃ e, es.getLast? = some e ∧ e.outcome? = some (.user t g)
  waits : ∀ e ∈ es.dropLast, e.resumed? ≠ some t

namespace Pause

variable {config : Config} {frames : Nat} {k : Kernel} {op : Operation} {t : ProcessId}
  {es : List Transition} {g : TrapFrame}

/-- A transition of a pause that is not the last one: it leaves the process live, and tells nobody
to run it. -/
structure Inner (t : ProcessId) (es : List Transition) (e : Transition) : Prop where
  mem : e ∈ es
  lives : ∃ p, e.after.live? t = some p
  waits : e.resumed? ≠ some t

/-- **What holds of a process while it pauses**: the first operation brings it about, unless that
already tells a processor to run the process, and every other operation keeps it, up to the last
one. -/
lemma induct {P : List Transition → Kernel → Prop} (h : Pause k op t es g)
    (hk : Reachable config frames k)
    (hfirst : op.Legal k → Inner t es ⟨k, op⟩ → P [⟨k, op⟩] (op.apply k))
    (hstep : ∀ es₁ k₁ op₁, Reachable config frames k₁ → op₁.Legal k₁ → Inner t es ⟨k₁, op₁⟩ →
      P es₁ k₁ → P (es₁ ++ [⟨k₁, op₁⟩]) (op₁.apply k₁)) :
    op.Legal k ∧ op.outcome? k = some (.user t g) ∧ es = [⟨k, op⟩] ∨
    ∃ es₁ k₁ op₁, es = es₁ ++ [⟨k₁, op₁⟩] ∧ P es₁ k₁ ∧ Reachable config frames k₁ ∧
      op₁.Legal k₁ ∧ op₁.outcome? k₁ = some (.user t g) := by
  obtain ⟨k', hhist⟩ := h.history
  cases hhist with
  | nil => cases h.first
  | @snoc es₁ k₁ hhist op₁ hlegal =>
    obtain ⟨e, he, hres⟩ := h.last
    rw [List.getLast?_concat, Option.some.injEq] at he
    subst he
    have hinner : ∀ e ∈ es₁, Inner t (es₁ ++ [⟨k₁, op₁⟩]) e := fun e he =>
      have hmem := List.mem_append_left _ he
      ⟨hmem, Option.isSome_iff_exists.1 (h.lives e hmem),
        h.waits e (by rwa [List.dropLast_concat])⟩
    have hhead : ∀ e, es₁.head? = some e → e = ⟨k, op⟩ := fun e he => by
      have hfirst := h.first
      rw [List.head?_append, he] at hfirst
      exact Option.some.inj hfirst
    rcases hhist.begun hk hinner hhead hfirst hstep with ⟨rfl, rfl⟩ | hheld
    · cases h.first
      exact .inl ⟨hlegal, hres, rfl⟩
    · exact .inr ⟨es₁, k₁, op₁, rfl, hheld, hhist.reachable hk, hlegal, hres⟩

end Pause

end Exokernel
