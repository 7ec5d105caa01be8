/-
Nobody is passed over for long.

* `Operation.search?`, `Operation.dispatched?`: the state in which an operation asks the scheduler
  for a process, and the slot of the process that it gets;
* `schedule_of_dispatchable`: what the scheduler comes to while a slot is ready;
* `Nears`, `History.nears`: while a slot is ready, every dispatch brings the scheduler
  nearer to it;
* `bypass_bounded`: **every other slot is dispatched once at most** before a slot that is ready, and
  the idle slot not at all.
-/
import Exokernel.Proofs.Histories
import Exokernel.Proofs.Kernel.Bystanders
import Exokernel.Proofs.Schedule.Searches

namespace Exokernel

/-- The slot of the process that a processor runs next. -/
def Resume.slot? : Resume → Option Nat
  | .user id _ => some id.slot
  | .idle | .halt _ => none

namespace Operation

/-- The processor by which an operation asks the scheduler for a process, and the state in which it
does, if it does. -/
def search? (k : Kernel) : Operation → Option (Nat × Kernel)
  | .trap cpu f => (k.trapSearch? cpu f).map (cpu, ·)
  | .schedule cpu => if cpu < k.cpus.size then some (cpu, k) else none
  | .spawn _ | .allocate _ | .destroy _ _ | .latch _ _ | .store _ _ _ => none

/-- The slot that the scheduler dispatches in an operation, if it is asked and finds one. -/
def dispatched? (k : Kernel) (op : Operation) : Option Nat :=
  (op.search? k).bind fun r => (r.2.schedule r.1).1.slot?

end Operation

/-- The slots that are dispatched in a row of transitions, in their order. -/
def dispatches (es : List Transition) : List Nat :=
  es.filterMap fun e => e.op.dispatched? e.before

namespace Kernel

variable {k k₁ : Kernel} {cpu slot q : Nat} {p : Process}

/-! ### The scheduler -/

lemma place_eq (h : k.table.cursor < k.table.capacity) : k.place = k.table.cursor :=
  Nat.mod_eq_of_lt h

/-- A slot that is dispatched is not ready any more, and no other slot changes. -/
lemma records_dispatch (cpu : Nat) (hp : k.table.records[slot]? = some p) (q : Nat) :
    (k.dispatch cpu slot).2.table.records[q]? =
      if slot = q then some (dispatched cpu p) else k.table.records[q]? := by
  rw [dispatch_eq hp, (quiet_log _ _).records]
  change (k.table.modify slot (dispatched cpu)).records[q]? = _
  rw [ProcessTable.getElem?_modify]
  split
  · next heq =>
    rw [← heq, hp]
    rfl
  · rfl

/-- A slot that is ready after a dispatch was ready before. -/
lemma dispatchable_of_dispatch (hp : k.table.records[slot]? = some p)
    (h : (k.dispatch cpu slot).2.dispatchable q) : k.dispatchable q := by
  rw [dispatchable, records_dispatch cpu hp] at h
  split at h
  · simp [dispatched, Process.dispatchable] at h
  · exact h

/-- **A slot that is ready once a processor has scheduled** was ready when it did. -/
lemma dispatchable_of_schedule (h : (k.schedule cpu).2.dispatchable q) : k.dispatchable q := by
  rw [schedule] at h
  split at h
  · split at h
    · next slot hnext =>
      obtain ⟨p, hp, -⟩ := record_of_dispatchable (dispatchable_of_nextSlot? hnext)
      exact dispatchable_of_dispatch (k := { k with table := { k.table with cursor := slot } }) hp h
    · split at h
      · next hidle =>
        obtain ⟨p, hp, -⟩ := record_of_dispatchable hidle.2
        exact dispatchable_of_dispatch hp h
      · have hrecords : (k.log .trace s!"cpu {cpu}: nothing to run, halting").table.records =
            k.table.records := (quiet_log _ _).records
        change Option.any _ (k.log _ _).table.records[q]? = true at h
        rwa [hrecords] at h
  · exact h

/-- A lap that finds a slot leaves the scheduler there. -/
lemma schedule_eq (hcpu : cpu < k.cpus.size) (hnext : k.nextSlot? = some slot) :
    ∃ k₀ : Kernel, k₀.table.records = k.table.records ∧ k₀.table.cursor = slot ∧
      k.schedule cpu = k₀.dispatch cpu slot :=
  ⟨{ k with table := { k.table with cursor := slot } }, rfl, rfl, by
    rw [schedule, if_pos hcpu, hnext]⟩

/-- **What the scheduler comes to while slot `q` is ready**: it dispatches a slot, never the idle
one, and that is `q`, or the scheduler comes nearer to `q`. -/
lemma schedule_of_dispatchable (hcpu : cpu < k.cpus.size) (hq : k.dispatchable q)
    (hpos : q ≠ idleSlot) : ∃ (slot : Nat) (p : Process), slot ≠ idleSlot ∧
      (k.schedule cpu).1 = .user p.id p.frame ∧
      (k.schedule cpu).2.table.records[slot]? = some (dispatched cpu p) ∧
      (k.schedule cpu).2.table.capacity = k.table.capacity ∧ (k.schedule cpu).2.place = slot ∧
      (slot = q ∨ Lap.ahead k.table.capacity slot q < Lap.ahead k.table.capacity k.place q) := by
  obtain ⟨slot, hnext, hidle, hlt, hnear⟩ := nextSlot?_of_dispatchable hq hpos
  obtain ⟨p, hp, -⟩ := record_of_dispatchable (dispatchable_of_nextSlot? hnext)
  obtain ⟨k₀, hrecords, hcursor, hsched⟩ := schedule_eq hcpu hnext
  have hcapacity₀ : k₀.table.capacity = k.table.capacity := congrArg Array.size hrecords
  rw [← hrecords] at hp
  rw [hsched]
  have hsteady : k₀.Steady (k₀.dispatch cpu slot).2 := calm_dispatch.toSteady
  refine ⟨slot, p, hidle, by rw [dispatch_eq hp], ?_, hsteady.capacity.trans hcapacity₀, ?_, hnear⟩
  · rw [records_dispatch cpu hp, if_pos rfl]
  · have hat : k₀.place = k₀.table.cursor := place_eq (by rw [hcursor, hcapacity₀]; exact hlt)
    rw [hsteady.place, hat, hcursor]

end Kernel

namespace Operation

variable {k k₁ : Kernel} {op : Operation} {cpu q : Nat}

/-! ### One operation -/

/-- **An operation that asks the scheduler** comes to what the scheduler finds, and nobody has moved
the place of the scheduler before. -/
lemma search?_eq (h : op.search? k = some (cpu, k₁)) : k.Steady k₁ ∧ cpu < k₁.cpus.size ∧
    op.outcome? k = some (k₁.schedule cpu).1 ∧ op.apply k = (k₁.schedule cpu).2 ∧
      op.dispatched? k = (k₁.schedule cpu).1.slot? := by
  have hdispatched : op.dispatched? k = (k₁.schedule cpu).1.slot? := by rw [dispatched?, h]; rfl
  cases op with
  | trap c f =>
    have hfollows : k.FollowsSearch c (k.current? c) (k.trapSearch? c f) (k.trap c f) :=
      Kernel.trap_follows
    rw [search?, Option.map_eq_some_iff] at h
    obtain ⟨k₂, hsearch, heq⟩ := h
    cases heq
    rw [hsearch] at hfollows
    obtain ⟨hsteady, htrap⟩ := hfollows
    refine ⟨hsteady, ?_, ?_, ?_, hdispatched⟩
    · rw [hsteady.cpus]
      exact Kernel.lt_of_trapSearch? hsearch
    · rw [outcome?, htrap]
    · rw [apply, htrap]
  | schedule c =>
    rw [search?] at h
    split at h
    · next hcpu =>
      cases h
      exact ⟨.refl k, hcpu, rfl, rfl, hdispatched⟩
    · cases h
  | _ => cases h

/-- **An operation that does not ask the scheduler** leaves it alone. No processor halts, and one
that goes on does so with the process that it had. -/
lemma search?_none (h : op.search? k = none) :
    k.Steady (op.apply k) ∧ op.outcome? k ≠ some .idle ∧ op.dispatched? k = none ∧
      ∀ id g, op.outcome? k = some (.user id g) → ∃ cpu, k.current? cpu = some id := by
  have hdispatched : op.dispatched? k = none := by rw [dispatched?, h]; rfl
  cases op with
  | spawn image =>
    exact ⟨(Kernel.calm_spawn image).toSteady, by rintro ⟨⟩, hdispatched, by rintro _ _ ⟨⟩⟩
  | allocate parent =>
    refine ⟨?_, by rintro ⟨⟩, hdispatched, by rintro _ _ ⟨⟩⟩
    rw [apply]
    split
    · exact .refl k
    · next hmade => exact (Kernel.calm_allocate hmade).toSteady
  | destroy cpu id =>
    refine ⟨?_, by rintro ⟨⟩, hdispatched, by rintro _ _ ⟨⟩⟩
    rw [apply]
    split
    · exact .refl k
    · next hgone => exact (Kernel.calm_destroy hgone).toSteady
  | trap c f =>
    rw [search?, Option.map_eq_none_iff] at h
    have hfollows : k.FollowsSearch c (k.current? c) (k.trapSearch? c f) (k.trap c f) :=
      Kernel.trap_follows
    rw [h] at hfollows
    obtain ⟨hsteady, hrun, hown⟩ := hfollows
    exact ⟨hsteady, fun hidle => hrun (Option.some.inj hidle), hdispatched,
      fun id g hres => ⟨c, hown id g (Option.some.inj hres)⟩⟩
  | schedule c =>
    rw [search?] at h
    split at h
    · cases h
    · next hcpu =>
      have hsched : k.schedule c = (.halt (.unknownCpu c), k) := by
        rw [Kernel.schedule, if_neg hcpu]
      refine ⟨?_, ?_, hdispatched, ?_⟩
      · rw [apply, hsched]
        exact .refl k
      · rw [outcome?, hsched]
        rintro ⟨⟩
      · rw [outcome?, hsched]
        rintro _ _ ⟨⟩
  | latch cpu va => exact ⟨⟨rfl, rfl, rfl⟩, by rintro ⟨⟩, hdispatched, by rintro _ _ ⟨⟩⟩
  | store s va data => exact ⟨⟨rfl, rfl, rfl⟩, by rintro ⟨⟩, hdispatched, by rintro _ _ ⟨⟩⟩

/-- **While slot `q` is ready, the scheduler always dispatches**, and never the idle slot. It
dispatches `q`, or comes nearer to it. -/
lemma dispatched?_of_dispatchable (hk : (op.apply k).Sound) (h : op.search? k = some (cpu, k₁))
    (hq : k₁.dispatchable q) (hpos : q ≠ Kernel.idleSlot) : ∃ id f,
      op.outcome? k = some (.user id f) ∧ op.dispatched? k = some id.slot ∧
      id.slot ≠ Kernel.idleSlot ∧ (op.apply k).dispatchable id.slot = false ∧
      (op.apply k).table.capacity = k.table.capacity ∧ (op.apply k).place = id.slot ∧
      (id.slot = q ∨
        Lap.ahead k.table.capacity id.slot q < Lap.ahead k.table.capacity k.place q) := by
  obtain ⟨hsteady, hcpu, houtcome, happly, hdispatched⟩ := search?_eq h
  obtain ⟨slot, p, hidle, hres, hrec, hcapacity, hplace, hnear⟩ :=
    Kernel.schedule_of_dispatchable hcpu hq hpos
  rw [← happly] at hrec hcapacity hplace
  -- the process is in the slot that its identity names
  obtain rfl : p.id.slot = slot := (hk.tables.sound slot _ hrec).slot_eq nofun
  refine ⟨p.id, p.frame, by rw [houtcome, hres], by rw [hdispatched, hres]; rfl, hidle, ?_,
    hcapacity.trans hsteady.capacity, hplace, ?_⟩
  · rw [Kernel.dispatchable, hrec]
    rfl
  · rwa [hsteady.capacity, hsteady.place] at hnear

/-- A slot that is ready after an operation was ready when that asked the scheduler. -/
lemma dispatchable_of_search? (h : op.search? k = some (cpu, k₁))
    (hq : (op.apply k).dispatchable q) : k₁.dispatchable q := by
  obtain ⟨-, -, -, happly, -⟩ := search?_eq h
  rw [happly] at hq
  exact Kernel.dispatchable_of_schedule hq

/-- **A processor halts, or is given the idle process**, only if no other slot was ready when it
asked. -/
lemma not_dispatchable_of_idle (hk : (op.apply k).Sound)
    (hidle : op.outcome? k = some .idle ∨ op.dispatched? k = some Kernel.idleSlot) :
    ∃ cpu k₁, op.search? k = some (cpu, k₁) ∧
      ∀ q, q ≠ Kernel.idleSlot → k₁.dispatchable q = false := by
  cases hsearch : op.search? k with
  | none =>
    obtain ⟨-, hrun, hnone, -⟩ := search?_none hsearch
    rcases hidle with hhalt | hslot
    · exact absurd hhalt hrun
    · rw [hnone] at hslot
      cases hslot
  | some r =>
    obtain ⟨cpu, k₁⟩ := r
    refine ⟨cpu, k₁, rfl, fun q hpos => ?_⟩
    rw [Bool.eq_false_iff]
    intro hq
    obtain ⟨id, f, houtcome, hdispatched, hnot, -⟩ :=
      dispatched?_of_dispatchable hk hsearch hq hpos
    rcases hidle with hhalt | hslot
    · rw [houtcome] at hhalt
      cases hhalt
    · rw [hdispatched, Option.some.injEq] at hslot
      exact hnot hslot

end Operation

/-! ### Any run -/

/-- **What the scheduler has done while slot `q` was ready**: it has dispatched other slots, each of
them once, and came nearer to `q` with each. -/
structure Nears (q : Nat) (k : Kernel) (es : List Transition) (k' : Kernel) : Prop where
  capacity : k'.table.capacity = k.table.capacity
  ready : k'.dispatchable q
  nodup : (dispatches es).Nodup
  others : ∀ s ∈ dispatches es, s ≠ Kernel.idleSlot ∧ s ≠ q
  /-- What was dispatched, the scheduler has left behind. -/
  behind : ∀ s ∈ dispatches es,
    Lap.ahead k.table.capacity k'.place q ≤ Lap.ahead k.table.capacity s q
  spent : (dispatches es).length + Lap.ahead k.table.capacity k'.place q ≤
    Lap.ahead k.table.capacity k.place q

namespace Nears

variable {q : Nat} {k k' k₁ : Kernel} {es : List Transition} {op : Operation} {cpu : Nat}

lemma dispatches_snoc (es : List Transition) (k : Kernel) (op : Operation) :
    dispatches (es ++ [⟨k, op⟩]) = dispatches es ++ (op.dispatched? k).toList := by
  rw [dispatches, dispatches, List.filterMap_append]
  cases hd : op.dispatched? k <;> simp [hd]

lemma refl (hq : k.dispatchable q) : Nears q k [] k where
  capacity := rfl
  ready := hq
  nodup := List.nodup_nil
  others := nofun
  behind := nofun
  spent := by simp [dispatches]

/-- **The next dispatch** is of `q`, or of a slot that was not dispatched yet and is nearer to it.
-/
lemma next (h : Nears q k es k') (hk : (op.apply k').Sound) (hpos : q ≠ Kernel.idleSlot)
    (hsearch : op.search? k' = some (cpu, k₁)) (hq : k₁.dispatchable q) : ∃ id f,
      op.outcome? k' = some (.user id f) ∧ op.dispatched? k' = some id.slot ∧
      id.slot ≠ Kernel.idleSlot ∧ id.slot ∉ dispatches es ∧
      (id.slot = q ∨
        Lap.ahead k.table.capacity id.slot q < Lap.ahead k.table.capacity k'.place q) := by
  obtain ⟨id, f, houtcome, hdispatched, hidle, -, -, -, hnear⟩ :=
    Operation.dispatched?_of_dispatchable hk hsearch hq hpos
  rw [h.capacity] at hnear
  refine ⟨id, f, houtcome, hdispatched, hidle, fun hmem => ?_, hnear⟩
  rcases hnear with rfl | hlt
  · exact (h.others _ hmem).2 rfl
  · exact absurd (h.behind _ hmem) (by omega)

/-- An operation that does not ask the scheduler changes nothing about that. -/
lemma stay (h : Nears q k es k') (hsteady : k'.Steady (op.apply k'))
    (hnone : op.dispatched? k' = none) (hready : (op.apply k').dispatchable q) :
    Nears q k (es ++ [⟨k', op⟩]) (op.apply k') := by
  have hsame : dispatches (es ++ [⟨k', op⟩]) = dispatches es := by
    rw [dispatches_snoc, hnone, Option.toList_none, List.append_nil]
  refine ⟨hsteady.capacity.trans h.capacity, hready, ?_, ?_, ?_, ?_⟩
  · rw [hsame]
    exact h.nodup
  · rw [hsame]
    exact h.others
  · rw [hsame, hsteady.place]
    exact h.behind
  · rw [hsame, hsteady.place]
    exact h.spent

/-- The dispatch of a slot that was not dispatched yet, and is nearer to `q`. -/
lemma dispatch {s : Nat} (h : Nears q k es k') (hready : (op.apply k').dispatchable q)
    (hdispatched : op.dispatched? k' = some s) (hidle : s ≠ Kernel.idleSlot) (hother : s ≠ q)
    (hnew : s ∉ dispatches es) (hplace : (op.apply k').place = s)
    (hcapacity : (op.apply k').table.capacity = k'.table.capacity)
    (hlt : Lap.ahead k.table.capacity s q < Lap.ahead k.table.capacity k'.place q) :
    Nears q k (es ++ [⟨k', op⟩]) (op.apply k') := by
  have hlist : dispatches (es ++ [⟨k', op⟩]) = dispatches es ++ [s] := by
    rw [dispatches_snoc, hdispatched, Option.toList_some]
  refine ⟨hcapacity.trans h.capacity, hready, ?_, ?_, ?_, ?_⟩
  · rw [hlist]
    refine List.nodup_append.2 ⟨h.nodup, by simp, fun s₁ hs₁ s₂ hs₂ heq => ?_⟩
    exact hnew (List.mem_singleton.1 hs₂ ▸ heq ▸ hs₁)
  · intro s₁ hs₁
    rw [hlist, List.mem_append, List.mem_singleton] at hs₁
    rcases hs₁ with hs₁ | rfl
    · exact h.others s₁ hs₁
    · exact ⟨hidle, hother⟩
  · intro s₁ hs₁
    rw [hlist, List.mem_append, List.mem_singleton] at hs₁
    rw [hplace]
    rcases hs₁ with hs₁ | rfl
    · exact Nat.le_trans (Nat.le_of_lt hlt) (h.behind s₁ hs₁)
    · exact Nat.le_refl _
  · have hspent := h.spent
    rw [hlist, hplace, List.length_append, List.length_singleton]
    omega

/-- **One more operation** after which the slot is ready still. -/
lemma step (h : Nears q k es k') (hk : (op.apply k').Sound) (hpos : q ≠ Kernel.idleSlot)
    (hready : (op.apply k').dispatchable q) : Nears q k (es ++ [⟨k', op⟩]) (op.apply k') := by
  cases hsearch : op.search? k' with
  | none =>
    obtain ⟨hsteady, -, hnone, -⟩ := Operation.search?_none hsearch
    exact h.stay hsteady hnone hready
  | some r =>
    obtain ⟨cpu, k₁⟩ := r
    have hq := Operation.dispatchable_of_search? hsearch hready
    obtain ⟨id, f, -, hdispatched, hidle, hnew, hnear⟩ := h.next hk hpos hsearch hq
    obtain ⟨id', f', -, hdispatched', -, hbusy, hcapacity, hplace, -⟩ :=
      Operation.dispatched?_of_dispatchable hk hsearch hq hpos
    obtain hsame : id'.slot = id.slot := Option.some.inj (hdispatched'.symm.trans hdispatched)
    rw [hsame] at hbusy hplace
    -- the slot that was dispatched is not ready any more, and `q` is
    have hother : id.slot ≠ q := by
      rintro rfl
      rw [hready] at hbusy
      cases hbusy
    exact h.dispatch hready hdispatched hidle hother hnew hplace hcapacity
      (hnear.resolve_left hother)

end Nears

/-- **A stretch of a run** in which slot `q` is ready in every state. -/
lemma History.nears {config : Config} {frames q : Nat} {k k' : Kernel} {es : List Transition}
    (h : History k es k') (hk : Reachable config frames k) (hpos : q ≠ Kernel.idleSlot)
    (hq : k.dispatchable q) (hready : ∀ e ∈ es, e.after.dispatchable q) : Nears q k es k' :=
  h.invariant hk hready (.refl hq) fun _ _ op hreach hlegal hlast hbefore =>
    hbefore.step (hreach.step op hlegal).sound hpos hlast

/-- **Round-robin with bounded bypass.** Over any stretch of a run in which slot `q`, which is not
the idle one, is ready in every state, whoever asks the scheduler gets a process, and never the idle
one; whoever does not ask has no other process to run than before. No slot is dispatched twice in
the stretch, and `q` is not, so that there are at most as many dispatches as there are other slots.
What is dispatched next, once somebody asks while `q` is ready, is `q`, or again a slot that was not
dispatched yet. And a processor halts, or is given the idle process, only if no other slot was ready
when it asked. -/
theorem bypass_bounded {config : Config} {frames : Nat} {k : Kernel}
    (h : Reachable config frames k) :
    (∀ q es k', q ≠ Kernel.idleSlot → k.dispatchable q → History k es k' →
      (∀ e ∈ es, e.after.dispatchable q) →
      (∀ e ∈ es, (e.op.search? e.before).isSome → ∃ id f, e.outcome? = some (.user id f) ∧
        e.op.dispatched? e.before = some id.slot ∧ id.slot ≠ Kernel.idleSlot) ∧
      (∀ e ∈ es, e.op.search? e.before = none → ∀ id f, e.outcome? = some (.user id f) →
        ∃ cpu, e.before.current? cpu = some id) ∧
      (dispatches es).Nodup ∧ q ∉ dispatches es ∧
      (dispatches es).length ≤ k.table.capacity - 2 ∧
      ∀ (op : Operation) (cpu : Nat) (k₁ : Kernel), op.Legal k' →
        op.search? k' = some (cpu, k₁) → k₁.dispatchable q → ∃ id f,
          op.outcome? k' = some (.user id f) ∧ op.dispatched? k' = some id.slot ∧
          id.slot ≠ Kernel.idleSlot ∧ id.slot ∉ dispatches es ∧
          (id.slot = q ∨ (dispatches es).length < k.table.capacity - 2)) ∧
    ∀ op : Operation, op.Legal k →
      op.outcome? k = some .idle ∨ op.dispatched? k = some Kernel.idleSlot →
      ∃ cpu k₁, op.search? k = some (cpu, k₁) ∧
        ∀ q, q ≠ Kernel.idleSlot → k₁.dispatchable q = false := by
  refine ⟨fun q es k' hpos hq hhist hready => ?_,
    fun op hlegal => Operation.not_dispatchable_of_idle (h.step op hlegal).sound⟩
  have hlt := Kernel.lt_capacity_of_dispatchable hq
  have hfar : Lap.ahead k.table.capacity k.place q < k.table.capacity - 1 :=
    Lap.ahead_lt hlt hpos
  have hnears := hhist.nears h hpos hq hready
  have hspent := hnears.spent
  refine ⟨fun e he hsearch => ?_, fun e he hsearch => ?_, hnears.nodup,
    fun hmem => (hnears.others q hmem).2 rfl, by omega, fun op cpu k₁ hlegal hsearch hq₁ => ?_⟩
  · obtain ⟨⟨cpu, k₁⟩, hsearch⟩ := Option.isSome_iff_exists.1 hsearch
    obtain ⟨id, f, houtcome, hdispatched, hidle, -⟩ :=
      Operation.dispatched?_of_dispatchable (hhist.sound_after h he) hsearch
        (Operation.dispatchable_of_search? hsearch (hready e he)) hpos
    exact ⟨id, f, houtcome, hdispatched, hidle⟩
  · exact (Operation.search?_none hsearch).2.2.2
  · obtain ⟨id, f, houtcome, hdispatched, hidle, hnew, hnear⟩ :=
      hnears.next ((hhist.reachable h).step op hlegal).sound hpos hsearch hq₁
    exact ⟨id, f, houtcome, hdispatched, hidle, hnew, hnear.imp_right fun hlt => by omega⟩

/-- On two processors, the process in the last of four slots is ready while two others are
dispatched, and no more than two. So it is the next, when a processor takes a timer interrupt. -/
theorem bypass_bounded_four : ∃ (k k' : Kernel) (es : List Transition) (id : ProcessId)
    (f g : TrapFrame), Reachable { maxProcesses := 4, cpus := 2 } 32 k ∧ k.dispatchable 3 ∧
    History k es k' ∧ (∀ e ∈ es, e.after.dispatchable 3) ∧ dispatches es = [1, 2] ∧
    k.table.capacity = 4 ∧ (k'.trap 0 f).1 = .user id g ∧ id.slot = 3 := by
  have hboot : Reachable { maxProcesses := 4, cpus := 2 } 32 _ := .boot rfl (.refl _) rfl
  have hready := (((hboot.step (.spawn ⟨⟨0⟩, []⟩) trivial).step (.spawn ⟨⟨0⟩, []⟩) trivial).step
    (.spawn ⟨⟨0⟩, []⟩) trivial).step (.spawn ⟨⟨0⟩, []⟩) trivial
  have hbegin : ∀ {k : Kernel}, Reachable { maxProcesses := 4, cpus := 2 } 32 k →
      History k [] k := fun _ => .nil
  have hhist := ((hbegin hready).snoc (.schedule 0) rfl).snoc (.schedule 1) rfl
  obtain ⟨hstretch, -⟩ := bypass_bounded hready
  obtain ⟨-, -, -, -, -, hnext⟩ :=
    hstretch 3 _ _ (by decide) (by decide +kernel) hhist (by decide +kernel)
  -- the interrupt, and the state in which the processor asks
  let timer : TrapFrame := { TrapFrame.initial 0 with trapno := Irq.offset + Irq.timer }
  have hasks : ∀ {k k' : Kernel} {es : List Transition}, History k es k' →
      ((Operation.trap 0 timer).search? k').any (fun r => r.2.dispatchable 3) →
      ∃ r, (Operation.trap 0 timer).search? k' = some r ∧ r.2.dispatchable 3 :=
    fun _ h => (Option.any_eq_true ..).1 h
  obtain ⟨⟨cpu, k₁⟩, hsearch, hq⟩ := hasks hhist (by decide +kernel)
  obtain ⟨id, g, houtcome, -, -, -, hslot | hmore⟩ :=
    hnext (.trap 0 timer) cpu k₁ trivial hsearch hq
  · exact ⟨_, _, _, id, timer, g, hready, by decide +kernel, hhist, by decide +kernel,
      by decide +kernel, by decide +kernel, Option.some.inj houtcome, hslot⟩
  · exact absurd hmore (by decide +kernel)

end Exokernel
