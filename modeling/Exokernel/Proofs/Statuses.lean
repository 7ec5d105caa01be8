/-
The life of a process, as the status of its record.

* `Operation.Sets`: somebody asks that a process be let run, or held;
* `Operation.Edge`: the edges that a status changes along, each with who takes it and when;
* `Operation.Step`: a record is kept, begins, or moves along an edge;
* `Alters.steps`: **operations take no other steps**;
* `History.asleep`: who is held stays held until it is woken;
* `status_edges`: **the statuses of processes**, over any run.
-/
import Exokernel.Proofs.Identities
import Exokernel.Proofs.Receiving

namespace Exokernel

namespace Operation

open Kernel (withStatus)

/-! ### Edges -/

/-- By an operation, process `s` asks for a status of process `t`, and may do so. -/
inductive Sets (k : Kernel) (s t : ProcessId) (status : ProcessStatus) : Operation → Prop where
  | trap {cpu : Nat} {target : ProcessId} {f : TrapFrame} (hcur : k.current? cpu = some s)
      (hcalls : k.Calls s f (.setStatus target status))
      (ht : k.resolve s target true = .ok t) : Sets k s t status (.trap cpu f)

/-- By an operation, process `t` yields. -/
inductive Yields (k : Kernel) (t : ProcessId) : Operation → Prop where
  | trap {cpu : Nat} {f : TrapFrame} (hcur : k.current? cpu = some t)
      (hcalls : k.Calls t f .yield) : Yields k t (.trap cpu f)

/-- By an operation, a processor is taken from process `t`. -/
inductive Pauses (k : Kernel) (cpu : Nat) (t : ProcessId) : Operation → Prop where
  | trap {f : TrapFrame} (hcause : Preempts f) (hcur : k.current? cpu = some t) :
      Pauses k cpu t (.trap cpu f)

/-- **The edges** along which an operation takes the record `p` of a process in a slot to another
status. -/
inductive Edge (k : Kernel) (op : Operation) (slot : Nat) (p : Process) : ProcessStatus → Prop where
  /-- A processor is told to run the process, which is bound nowhere. -/
  | dispatched (hs : p.status = .runnable) (hidle : p.resident = none)
      (houtcome : op.outcome? k = some (.user p.id p.frame)) : Edge k op slot p .running
  | preempted {cpu : Nat} (hs : p.status = .running) (hres : p.resident = some cpu)
      (hpauses : op.Pauses k cpu p.id) : Edge k op slot p .runnable
  | yielded (hs : p.status = .running) (hyields : op.Yields k p.id) : Edge k op slot p .runnable
  /-- The process waits for a message. -/
  | blocked (hs : p.status = .runnable ∨ p.status = .running) (hawaits : op.Awaits k p.id) :
      Edge k op slot p .notRunnable
  | held {s : ProcessId} (hs : p.status = .runnable ∨ p.status = .running)
      (hfamily : s = p.id ∨ s = p.parent)
      (hsets : op.Sets k s p.id .notRunnable) : Edge k op slot p .notRunnable
  /-- The process is sent the message that it waits for. -/
  | told (hs : p.status = .notRunnable) (hopen : p.mailbox.receiving)
      (hdelivers : op.Delivers k p.id) : Edge k op slot p .runnable
  | released {s : ProcessId} (hs : p.status = .notRunnable) (hfamily : s = p.id ∨ s = p.parent)
      (hsets : op.Sets k s p.id .runnable) : Edge k op slot p .runnable
  /-- The process has been made by the same operation, and its program is loaded. -/
  | loaded {image : Image} (hs : p.status = .notRunnable) (hop : op = .spawn image)
      (hok : (k.spawn image).1 = .ok p.id) (hissue : op.issue? k = some (slot, p.id)) :
      Edge k op slot p .runnable
  | doomed (hlive : p.status.isLive) : Edge k op slot p .dying
  | freed (hs : p.status = .dying) : Edge k op slot p .free

/-- A step of a record keeps the status, begins with a process that has a new identity, or goes
along an edge. Nobody is bound but by a dispatch, and nobody opens a mailbox but its owner. -/
inductive Step (k : Kernel) (op : Operation) (slot : Nat) (p p' : Process) : Prop where
  | kept (hid : p'.id = p.id) (hparent : p'.parent = p.parent) (hs : p'.status = p.status)
      (hres : p'.resident = p.resident ∨ p'.resident = none)
      (hopen : p'.mailbox.receiving → p.mailbox.receiving ∨ op.Awaits k p.id)
  | begun (hs : p.status = .free) (hs' : p'.status = .runnable ∨ p'.status = .notRunnable)
      (hid : p'.id ≠ p.id) (hissue : op.issue? k = some (slot, p'.id))
  | moved (hid : p'.id = p.id) (hparent : p'.parent = p.parent)
      (hedge : op.Edge k slot p p'.status)
      (hres : p'.resident = p.resident ∨ p'.resident = none ∨ p'.status = .running)
      (hopen : p'.mailbox.receiving → p.mailbox.receiving ∨ op.Awaits k p.id)

variable {k k₁ : Kernel} {op : Operation} {s t : ProcessId} {p p' : Process} {cpu slot : Nat}
  {status : ProcessStatus} {f : TrapFrame} {c : Syscall}

lemma Sets.rouses (h : op.Sets k s t .runnable) : op.Rouses k t := by
  cases h with
  | trap hcur hcalls ht => exact .trap hcur hcalls ht

/-! ### Steps -/

/-- A step that leaves all alone that statuses depend on. -/
lemma Step.same (hid : p'.id = p.id) (hparent : p'.parent = p.parent) (hs : p'.status = p.status)
    (hres : p'.resident = p.resident) (hmail : p'.mailbox = p.mailbox) :
    op.Step k slot p p' :=
  .kept hid hparent hs (.inl hres) fun hopen => .inl (hmail ▸ hopen)

/-- Somebody lets a process run, or holds it. -/
lemma step_withStatus (hlive : p.status.isLive) (hs : status = .runnable ∨ status = .notRunnable)
    (hfamily : s = p.id ∨ s = p.parent) (hsets : op.Sets k s p.id status) :
    op.Step k slot p (withStatus p status) := by
  rw [withStatus]
  split
  · exact .same rfl rfl rfl rfl rfl
  · next hnot =>
    split
    · next hrun =>
      subst hrun
      cases hp : p.status with
      | runnable => exact .kept rfl rfl hp.symm (.inl rfl) (by rintro ⟨⟩)
      | running => exact absurd ⟨hp, rfl⟩ hnot
      | notRunnable => exact .moved rfl rfl (.released hp hfamily hsets) (.inl rfl) (by rintro ⟨⟩)
      | free | dying => rw [hp] at hlive; cases hlive
    · next hrun =>
      obtain rfl := hs.resolve_left hrun
      cases hp : p.status with
      | runnable => exact .moved rfl rfl (.held (.inl hp) hfamily hsets) (.inl rfl) .inl
      | running => exact .moved rfl rfl (.held (.inr hp) hfamily hsets) (.inl rfl) .inl
      | notRunnable => exact .same rfl rfl hp.symm rfl rfl
      | free | dying => rw [hp] at hlive; cases hlive

/-- **What a call does to a process** is a step of its record. -/
lemma step_called (hk : k.Sound) (hcur : k.current? cpu = some s) (hcalls : k.Calls s f c)
    (hsaved : k.Saved s f k₁) (hp : k₁.live? p.id = some p) (h : k₁.Affects s p.id p c p') :
    Step k (.trap cpu f) slot p p' := by
  obtain ⟨hrec, -, hlive⟩ := Kernel.live?_eq_some_iff.1 hp
  obtain ⟨p₀, hp₀⟩ := Option.isSome_iff_exists.1 hcalls.2.1
  have hcaller := hsaved.live? hp₀
  cases h with
  | spared => exact .same rfl rfl rfl rfl rfl
  | setStatus hs ht =>
    refine step_withStatus hlive hs ?_ (.trap hcur hcalls (hsaved.resolve .. ▸ ht))
    rcases Kernel.owns_of_resolve hcaller ht p hrec with hfree | hself | hchild
    · exact absurd hfree (ProcessStatus.ne_free_of_isLive hlive)
    · exact .inl hself.symm
    · exact .inr hchild.symm
  | setFrame | setFaultHandler => exact .same rfl rfl rfl rfl rfl
  | told ht hv hopen =>
    -- whoever waits is blocked
    have hblocked := ((hsaved.sound hk hp₀).tables.sound _ p hrec).blocked hopen
    exact .moved rfl rfl (.told hblocked hopen
      ⟨_, _, _, _, _, .trap hcur hcalls (hsaved.resolve .. ▸ ht) (hsaved.trySend.symm.trans hv)⟩)
      (.inl rfl) nofun
  | yield hself =>
    by_cases hrun : p.status = .running
    · rw [if_pos hrun]
      exact .moved rfl rfl (.yielded hrun (hself ▸ .trap hcur hcalls)) (.inr (.inl rfl)) .inl
    · rw [if_neg hrun]
      exact .kept rfl rfl rfl (.inr rfl) .inl
  | receive hself hva =>
    have hawaits : Awaits k p.id (.trap cpu f) := hself ▸ .trap hcur hcalls hva
    cases hs : p.status with
    | runnable =>
      exact .moved rfl rfl (.blocked (.inl hs) hawaits) (.inr (.inl rfl)) fun _ => .inr hawaits
    | running =>
      exact .moved rfl rfl (.blocked (.inr hs) hawaits) (.inr (.inl rfl)) fun _ => .inr hawaits
    | notRunnable => exact .kept rfl rfl hs.symm (.inr rfl) fun _ => .inr hawaits
    | free | dying => rw [hs] at hlive; cases hlive

/-- **An operation takes such steps only.** -/
lemma Alters.step (h : op.Alters k slot p p') (hk : k.Sound) : op.Step k slot p p' := by
  cases h with
  | saved | answered | redirected | inherits => exact .same rfl rfl rfl rfl rfl
  | called hcur hcalls hsaved hp h => exact step_called hk hcur hcalls hsaved hp h
  | paused hcause hcur hrun hres =>
    exact .moved rfl rfl (.preempted hrun hres (.trap hcause hcur)) (.inl rfl) .inl
  | givenUp hres hrun => exact .kept rfl rfl rfl (.inr rfl) .inl
  | dispatched hready houtcome =>
    simp only [Process.dispatchable, Bool.and_eq_true, decide_eq_true_eq] at hready
    exact .moved rfl rfl (.dispatched hready.1 hready.2 houtcome) (.inr (.inr rfl)) .inl
  | doomed hlive => exact .moved rfl rfl (.doomed hlive) (.inl rfl) (by rintro ⟨⟩)
  | cleared hdying => exact .moved rfl rfl (.freed hdying) (.inr (.inl rfl)) (by rintro ⟨⟩)
  | made hfree hp hissue hs =>
    refine .begun hfree hs ?_ hissue
    rw [(issue?_next hissue).1, Kernel.lastId_eq hp]
    exact ProcessId.next_ne p.id slot
  | loaded hheld hok hissue => exact .moved rfl rfl (.loaded hheld rfl hok hissue) (.inl rfl) .inl

lemma steps (hk : k.Sound) (op : Operation) : Kernel.Course (op.Step k) k (op.apply k) :=
  (op.course hk).mono fun _ _ _ h => h.step hk

/-- **Who is held stays held** by an operation that does not wake it. -/
lemma Step.asleep (h : op.Step k slot p p') (hdelivers : ¬ op.Delivers k t)
    (hrouses : ¬ op.Rouses k t) (hissue : op.issue? k ≠ some (slot, t))
    (hp : p.id = t → p.status.isLive → p.status = .notRunnable) (hid : p'.id = t)
    (hlive : p'.status.isLive) : p'.status = .notRunnable := by
  cases h with
  | kept hsame hparent hs hres hopen =>
    rw [hs] at hlive ⊢
    exact hp (hsame.symm.trans hid) hlive
  | begun hs hs' hne hmade => exact absurd (hid ▸ hmade) hissue
  | moved hsame hparent hedge hres hopen =>
    have hpid := hsame.symm.trans hid
    -- the edges that begin at a process that is ready or runs are not taken
    have hheld : p.status.isLive → p.status = .notRunnable := hp hpid
    generalize p'.status = status at hedge hlive
    cases hedge with
    | dispatched hs => rw [hs] at hheld; cases hheld rfl
    | preempted hs => rw [hs] at hheld; cases hheld rfl
    | yielded hs => rw [hs] at hheld; cases hheld rfl
    | blocked | held => rfl
    | told hs hopen h => exact absurd (hpid ▸ h) hdelivers
    | released hs hfamily hsets => exact absurd (hpid ▸ hsets).rouses hrouses
    | loaded hs hop hok hmade => exact absurd (hpid ▸ hmade) hissue
    | doomed | freed => cases hlive

/-- So it is not resumed, as long as its name is not given to another process. -/
lemma asleep (hk : k.Sound) (hlegal : op.Legal k)
    (hheld : ∀ p, k.live? t = some p → p.status = .notRunnable)
    (hissue : op.issue? k ≠ some (t.slot, t)) (hdelivers : ¬ op.Delivers k t)
    (hrouses : ¬ op.Rouses k t) : op.resumed? k ≠ some t ∧
      ∀ p', (op.apply k).live? t = some p' → p'.status = .notRunnable := by
  have hafter : ∀ p', (op.apply k).live? t = some p' → p'.status = .notRunnable := fun p' hp' => by
    obtain ⟨hrec', hid', hlive'⟩ := Kernel.live?_eq_some_iff.1 hp'
    exact (op.steps hk).induct
      (P := fun q => q.id = t → q.status.isLive → q.status = .notRunnable) hrec'
      (fun q hq hid hlive => hheld _ (Kernel.live?_eq_some_iff.2 ⟨hq, hid, hlive⟩))
      (fun q q' hstep hq => hstep.asleep hdelivers hrouses hissue hq) hid' hlive'
  refine ⟨fun hresumed => ?_, hafter⟩
  obtain ⟨r, hr, hprocess⟩ := Option.bind_eq_some_iff.1 hresumed
  cases r with
  | user id g =>
    cases hprocess
    obtain ⟨p', hp', hrun, -⟩ := told hk hlegal hr
    rw [hafter p' hp'] at hrun
    cases hrun
  | idle | halt => cases hprocess

end Operation

/-! ### Any run -/

/-- **Who is held stays held**, as long as nobody wakes it. -/
lemma History.asleep {config : Config} {frames : Nat} {k k' : Kernel} {es : List Transition}
    {t : ProcessId} (h : History k es k') (hk : Reachable config frames k)
    (hheld : ∀ p, k.live? t = some p → p.status = .notRunnable)
    (hissue : ∀ e ∈ es, e.op.issue? e.before ≠ some (t.slot, t))
    (hwakes : ∀ e ∈ es, ¬ e.op.Delivers e.before t ∧ ¬ e.op.Rouses e.before t) :
    (∀ e ∈ es, e.resumed? ≠ some t) ∧ ∀ p', k'.live? t = some p' → p'.status = .notRunnable := by
  refine h.invariant (C := fun e => e.op.issue? e.before ≠ some (t.slot, t) ∧
      ¬ e.op.Delivers e.before t ∧ ¬ e.op.Rouses e.before t)
    (P := fun es k' => (∀ e ∈ es, e.resumed? ≠ some t) ∧
      ∀ p', k'.live? t = some p' → p'.status = .notRunnable)
    hk (fun e he => ⟨hissue e he, hwakes e he⟩) ⟨List.forall_mem_nil _, hheld⟩ ?_
  rintro es₁ k₁ op hreach hlegal ⟨hissue₁, hdelivers, hrouses⟩ ⟨hbefore, hheld₁⟩
  obtain ⟨hnot, hafter⟩ := op.asleep hreach.sound hlegal hheld₁ hissue₁ hdelivers hrouses
  exact ⟨List.forall_mem_append.2 ⟨hbefore, List.forall_mem_singleton.2 hnot⟩, hafter⟩

/-- **The statuses of processes.** Whatever an operation does, each record goes through steps that
keep its status, begin with a process that has a new identity, or take an edge. So a process that is
held is not resumed, and stays held, until it is sent a message that it waits for or somebody who
may do so lets it run, as long as its name is not given to another process; and who lives in a slot
that held nobody has been given its name since. -/
theorem status_edges {config : Config} {frames : Nat} {k : Kernel}
    (hk : Reachable config frames k) :
    (∀ (op : Operation) (slot : Nat) (p : Process), k.table.records[slot]? = some p →
      ∃ p', (op.apply k).table.records[slot]? = some p' ∧
        Relation.ReflTransGen (op.Step k slot) p p') ∧
    (∀ es k' t p, History k es k' → k.live? t = some p → p.status = .notRunnable →
      (∀ e ∈ es, e.op.issue? e.before ≠ some (t.slot, t)) →
      (∀ e ∈ es, ¬ e.op.Delivers e.before t ∧ ¬ e.op.Rouses e.before t) →
      (∀ e ∈ es, e.resumed? ≠ some t) ∧
        ∀ p', k'.live? t = some p' → p'.status = .notRunnable) ∧
    (∀ (es : List Transition) (k' : Kernel) (slot : Nat) (p p' : Process), History k es k' →
      k.table.records[slot]? = some p → ¬ p.status.isLive →
      k'.table.records[slot]? = some p' → p'.status.isLive →
      ∃ e ∈ es, e.op.issue? e.before = some (slot, p'.id)) := by
  refine ⟨fun op slot p hp => (op.steps hk.sound).steps slot p hp,
    fun es k' t p h hp hheld hissue hwakes => ?_,
    fun es k' slot p p' h hp hdead hp' hlive => h.revived hk hp hdead hp' hlive⟩
  refine h.asleep hk (fun q hq => ?_) hissue hwakes
  rw [hp] at hq
  cases hq
  exact hheld

/-- A process makes a child and yields, twice over. The child is held meanwhile, although there is
nobody else to run. -/
theorem status_edges_child : ∃ (k k' : Kernel) (es : List Transition) (p : Process),
    Reachable { maxProcesses := 2 } 16 k ∧ History k es k' ∧ es.length = 2 ∧
    k.live? (ProcessId.self.next 1) = some p ∧ p.status = .notRunnable ∧
    (∀ e ∈ es, e.resumed? ≠ some (ProcessId.self.next 1)) ∧
    ∀ p', k'.live? (ProcessId.self.next 1) = some p' → p'.status = .notRunnable := by
  have hboot : Reachable { maxProcesses := 2 } 16 _ := .boot rfl (.refl _) rfl
  let call (c : Syscall) : Operation := .trap 0 (Kernel.callFrame (.initial 7) c)
  have hforked := ((hboot.step (.spawn ⟨⟨0⟩, []⟩) trivial).step (.schedule 0) rfl).step
    (call .exofork) trivial
  have hbegin : ∀ {k : Kernel}, Reachable { maxProcesses := 2 } 16 k → History k [] k :=
    fun _ => .nil
  have hhist := ((hbegin hforked).snoc (call .yield) trivial).snoc (call .yield) trivial
  have hchild : ∀ {k : Kernel}, Reachable { maxProcesses := 2 } 16 k →
      (k.live? (ProcessId.self.next 1)).any (·.status = .notRunnable) →
      ∃ p, k.live? (ProcessId.self.next 1) = some p ∧ decide (p.status = .notRunnable) :=
    fun _ h => (Option.any_eq_true ..).1 h
  obtain ⟨p, hp, hheld⟩ := hchild hforked (by decide +kernel)
  -- a process that yields wakes nobody
  have hnever : ∀ k : Kernel, ¬ (call .yield).Delivers k (ProcessId.self.next 1) ∧
      ¬ (call .yield).Rouses k (ProcessId.self.next 1) := fun k => by
    have hdecode : Syscall.decode (Kernel.callFrame (.initial 7) .yield).call = .ok .yield := by
      decide
    refine ⟨fun hdelivers => ?_, fun hrouses => ?_⟩
    · obtain ⟨_, _, _, _, hc⟩ := hdelivers.decode
      cases hdecode.symm.trans hc
    · generalize hop : call .yield = op at hrouses
      obtain ⟨-, ⟨-, -, -, hc⟩, -⟩ := hrouses
      cases hop
      cases hdecode.symm.trans hc
  obtain ⟨-, hasleep, -⟩ := status_edges hforked
  obtain ⟨hnot, hafter⟩ := hasleep _ _ _ p hhist hp (of_decide_eq_true hheld) (by decide +kernel)
    fun e he => by
      simp only [List.nil_append, List.cons_append, List.mem_cons, List.not_mem_nil, or_false] at he
      rcases he with rfl | rfl
      · exact hnever _
      · exact hnever _
  exact ⟨_, _, _, p, hforked, hhist, rfl, hp, of_decide_eq_true hheld, hnot, hafter⟩

end Exokernel
