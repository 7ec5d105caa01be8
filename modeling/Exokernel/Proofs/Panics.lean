/-
When processors stop for good: never, as long as they take their traps as hardware does.

* `Kernel.schedule_ne_halt`, `Kernel.trap_ne_halt`: a processor that has a process bound does not
  stop, whatever it traps for, and neither does one that is interrupted;
* `Transition.DestroysOwn`, `InUser`: whether a processor runs user code, as far as it was told;
* `InUser.claims`: **a processor that runs user code has a process bound**, whatever others do;
* `Faithful`, `never_halts`: **no processor ever stops** in a run of such hardware.
-/
import Exokernel.Proofs.Privileges
import Exokernel.Proofs.Schedule.Searches

namespace Exokernel

namespace Kernel

variable {k k' : Kernel} {id : ProcessId} {cpu : Nat} {f : TrapFrame} {panic : KernelPanic}

/-! ### Traps -/

/-- A processor that there is does not stop by asking for something to run. -/
lemma schedule_ne_halt (hcpu : cpu < k.cpus.size) : (k.schedule cpu).1 ≠ .halt panic := by
  have hdispatch : ∀ (k : Kernel) (slot : Nat), (k.dispatch cpu slot).1 ≠ .halt panic :=
    fun k slot => by
      rw [dispatch]
      split <;> rintro ⟨⟩
  rw [schedule, if_pos hcpu]
  split
  · exact hdispatch _ _
  · split
    · exact hdispatch _ _
    · rintro ⟨⟩

lemma GoesOn.ne_halt {r : Resume × Kernel} (h : GoesOn cpu id k r) (hcpu : cpu < k.cpus.size) :
    r.1 ≠ .halt panic := by
  cases h with
  | resume hp hrun hres heq =>
    rw [heq]
    nofun
  | schedule hnone heq =>
    rw [heq]
    exact schedule_ne_halt hcpu

/-- Moves make and remove no processors. -/
lemma Moves.cpus {A : Deed → Prop} (h : Moves A k k') : k'.cpus.size = k.cpus.size :=
  h.induct (P := fun k₁ => k₁.cpus.size = k.cpus.size) rfl
    fun _ _ _ hk₁ _ hmove => hmove.sizes.1.trans hk₁

/-- An interrupt that a processor takes inside the kernel does not stop it, whether it has a process
bound or not. -/
lemma kernelTrap_ne_halt {current : Option ProcessId} (hcpu : cpu < k.cpus.size)
    (hint : (TrapCause.ofNumber f.trapno).isInterrupt) :
    (k.kernelTrap cpu current f).1 ≠ .halt panic := by
  rw [kernelTrap]
  dsimp only
  rw [if_pos hint]
  refine schedule_ne_halt ?_
  have hack : k.Steady (k.acknowledgeInterrupt cpu (TrapCause.ofNumber f.trapno)) :=
    (serviced_acknowledgeInterrupt hint).toSteady
  cases current with
  | none => exact hack.cpus ▸ hcpu
  | some id => exact (hack.trans calm_preempt.toSteady).cpus ▸ hcpu

/-- **A processor does not stop by a trap** out of the code of a process that it has bound, whatever
the trap is, and whether the process is still live or not; nor by an interrupt inside the kernel. -/
lemma trap_ne_halt (hk : k.Sound) (hcpu : cpu < k.cpus.size)
    (h : if f.isUser then (k.current? cpu).isSome
      else (TrapCause.ofNumber f.trapno).isInterrupt) : (k.trap cpu f).1 ≠ .halt panic := by
  split at h
  · next huser =>
    obtain ⟨id, hcur⟩ := Option.isSome_iff_exists.1 h
    obtain ⟨k₁, hmoves, hgoes⟩ := trap_user_cases hk hcur huser
    exact hgoes.ne_halt (hmoves.cpus ▸ hcpu)
  · next huser =>
    rw [trap, Array.getElem?_eq_getElem hcpu]
    dsimp only
    rw [if_neg huser]
    refine kernelTrap_ne_halt ?_ h
    exact Nat.lt_of_lt_of_eq hcpu Array.size_modify.symm

/-! ### Destruction -/

/-- A processor that is not told to schedule keeps what it has bound, whomever it destroys. -/
lemma current?_destroyOn (hstay : (k.destroyOn cpu id).1 ≠ .switch) (c : Nat) :
    (k.destroyOn cpu id).2.current? c = k.current? c := by
  have hlog : ∀ (k : Kernel) level message, (k.log level message).current? c = k.current? c :=
    fun _ _ _ => (quiet_log _ _).current c
  have hreap : ∀ k : Kernel, (k.reap id none).current? c = k.current? c := fun k => by
    rw [reap]
    split
    · rfl
    · next space table _ =>
      rw [hlog]
      cases space <;> rfl
  rw [destroyOn] at hstay ⊢
  split at hstay
  · rfl
  · exact hreap _
  · split at hstay
    · exact absurd rfl hstay
    · next hne =>
      dsimp only
      rw [if_neg hne]
      exact hlog _ _ _

end Kernel

/-! ### What processors know of themselves -/

/-- The processor of a transition destroys what it runs, and is told so. -/
def Transition.DestroysOwn (cpu : Nat) (e : Transition) : Prop :=
  ∃ id k, e.op = .destroy cpu id ∧ e.before.destroy cpu id = .ok (true, k)

/-- **A processor runs user code** after these transitions: when it was last told what to do, that
was to run a process, and it did not destroy the process since. -/
def InUser (cpu : Nat) (es : List Transition) : Prop :=
  ∃ es₁ e es₂, es = es₁ ++ e :: es₂ ∧ e.op.performer = some cpu ∧ e.resumed?.isSome ∧
    ∀ e' ∈ es₂, (e'.op.performer = some cpu → e'.outcome? = none) ∧ ¬ e'.DestroysOwn cpu

/-- **Transitions of hardware.** A trap out of user code comes from a processor that runs user code,
and a trap that comes from inside the kernel is an interrupt. -/
def Faithful (es : List Transition) : Prop :=
  ∀ es₁ e es₂ cpu f, es = es₁ ++ e :: es₂ → e.op = .trap cpu f →
    if f.isUser then InUser cpu es₁ else (TrapCause.ofNumber f.trapno).isInterrupt

lemma faithful_nil : Faithful [] := fun _ _ _ _ _ h _ => by cases List.nil_eq_append_iff.1 h |>.2

/-- Whether one more transition is one of hardware, depends on the processor that makes it. -/
lemma Faithful.concat {es : List Transition} {e : Transition} (h : Faithful es)
    (he : ∀ cpu f, e.op = .trap cpu f →
      if f.isUser then InUser cpu es else (TrapCause.ofNumber f.trapno).isInterrupt) :
    Faithful (es ++ [e]) := by
  intro es₁ e' es₂ cpu f hsplit hop
  cases es₂ using List.reverseRecOn with
  | nil =>
    obtain ⟨rfl, hlast⟩ := List.append_inj' hsplit rfl
    cases hlast
    exact he cpu f hop
  | append_singleton es₂ last =>
    rw [← List.cons_append, ← List.append_assoc] at hsplit
    obtain ⟨rfl, -⟩ := List.append_inj' hsplit rfl
    exact h es₁ e' es₂ cpu f rfl hop

namespace Operation

variable {k : Kernel} {op : Operation} {cpu : Nat} {id : ProcessId} {f : TrapFrame}

/-- A processor that is told to run a process has that bound. -/
lemma claims (hk : k.Sound) (hlegal : op.Legal k) (hop : op.performer = some cpu)
    (houtcome : op.outcome? k = some (.user id f)) : (op.apply k).current? cpu = some id := by
  have htells : ∀ {r : Resume × Kernel}, Kernel.Tells cpu r → r.2.Sound → r.1 = .user id f →
      r.2.current? cpu = some id := fun ht hs hr => (ht.user _ _ hr).current? hs
  have hsound := op.sound hk hlegal
  cases op with
  | trap c f' =>
    cases hop
    exact htells (Kernel.trap_tells hk) hsound (Option.some.inj houtcome)
  | schedule c =>
    cases hop
    exact htells (Kernel.schedule_tells hk hlegal) hsound (Option.some.inj houtcome)
  | spawn | allocate | destroy | latch | store => cases houtcome

/-- **A processor that is told nothing new** keeps what it has bound, whatever it or others do,
unless it destroys that itself. -/
lemma claims_kept (hk : k.Sound) (hl : k.Loaded) (hlegal : op.Legal k)
    (htold : op.performer = some cpu → op.outcome? k = none)
    (hown : ¬ Transition.DestroysOwn cpu ⟨k, op⟩) : (op.apply k).current? cpu = k.current? cpu := by
  by_cases hop : op.performer = some cpu
  · cases op with
    | destroy c id =>
      cases hop
      cases hdestroy : k.destroy cpu id with
      | error e => rw [apply, hdestroy]
      | ok r =>
        obtain ⟨switch, k'⟩ := r
        have hstay : switch ≠ true := fun h => hown ⟨id, k', rfl, h ▸ hdestroy⟩
        rw [apply, hdestroy]
        rw [Kernel.destroy] at hdestroy
        split at hdestroy
        · cases hdestroy
        · cases hdestroy
          exact Kernel.current?_destroyOn (fun h => hstay (decide_eq_true h)) cpu
    | trap | schedule => cases htold hop
    | spawn | allocate | latch | store => cases hop
  · exact (op.undisturbed hk hl hlegal hop).1

end Operation

/-! ### Any run -/

section Run

variable {config : Config} {frames cpu : Nat} {k k' : Kernel} {es es' : List Transition}

/-- What a processor has bound stays with it as long as it is told nothing new. -/
lemma History.claims_kept (h : History k (es ++ es') k') (hk : Reachable config frames k)
    (hes : ∀ e ∈ es', (e.op.performer = some cpu → e.outcome? = none) ∧ ¬ e.DestroysOwn cpu) :
    ∃ k₁, History k es k₁ ∧ k'.current? cpu = k₁.current? cpu := by
  induction es' using List.reverseRecOn generalizing k' with
  | nil => exact ⟨k', by rwa [List.append_nil] at h, rfl⟩
  | append_singleton es' e ih =>
    rw [← List.append_assoc] at h
    obtain ⟨hbefore, hlegal, rfl⟩ := concat_iff.1 h
    obtain ⟨k₁, hstart, hsame⟩ := ih hbefore fun e' he' => hes e' (List.mem_append_left _ he')
    have hreach := hbefore.reachable hk
    obtain ⟨htold, hown⟩ := hes e (List.mem_append_right _ (List.mem_singleton.2 rfl))
    exact ⟨k₁, hstart, (e.op.claims_kept hreach.sound hreach.loaded hlegal htold hown).trans hsame⟩

/-- **A processor that runs user code has a process bound**, whatever others do: even a process that
another processor destroyed stays with it. -/
lemma InUser.claims (hu : InUser cpu es) (h : History k es k') (hk : Reachable config frames k) :
    (k'.current? cpu).isSome := by
  obtain ⟨es₁, e, es₂, rfl, hop, hresumed, hrest⟩ := hu
  rw [← List.singleton_append, ← List.append_assoc] at h
  obtain ⟨k₁, hstart, hsame⟩ := h.claims_kept hk hrest
  obtain ⟨hbefore, hlegal, rfl⟩ := History.concat_iff.1 hstart
  obtain ⟨id, hid⟩ := Option.isSome_iff_exists.1 hresumed
  obtain ⟨resume, houtcome, hprocess⟩ := Option.bind_eq_some_iff.1 hid
  cases resume with
  | user id' f =>
    have hcur := e.op.claims (hbefore.reachable hk).sound hlegal hop houtcome
    rw [hsame, Transition.after, hcur]
    rfl
  | idle => cases hprocess
  | halt panic => cases hprocess

/-- There are as many processors as were configured. -/
lemma Reachable.cpus (h : Reachable config frames k) : k.cpus.size = config.cpus := by
  induction h with
  | boot hcreate _ hboot =>
    rw [(Kernel.quiet_start hcreate hboot).same.cpus]
    rw [Kernel.create] at hcreate
    split at hcreate
    · cases hcreate
    · cases hcreate
      exact Array.size_replicate
  | @step k hreach op hlegal ih =>
    exact op.induct (P := fun k₁ => k₁.cpus.size = config.cpus) hreach.sound hlegal ih
      (fun _ _ _ _ _ hk₁ hmove => hmove.sizes.1.trans hk₁) (fun _ _ => ih) fun _ _ _ => ih

/-- **No processor ever stops**, in any run whose traps are those of hardware: where a processor
traps out of user code only while it runs user code, and inside the kernel for nothing but
interrupts, every trap of a processor that there is, and every time that it asks for something to
run, ends with a process to run or with waiting. That is so whatever processes do and fault at, and
whatever other processors do, such as to destroy what the processor runs. -/
theorem never_halts (hk : Booted config frames k) (h : History k es k')
    (hfaithful : Faithful es) : ∀ e ∈ es, ∀ cpu < config.cpus, e.op.performer = some cpu →
      ∀ panic, e.outcome? ≠ some (.halt panic) := by
  intro e he cpu hcpu hop panic houtcome
  obtain ⟨es₁, es₂, rfl⟩ := List.append_of_mem he
  obtain ⟨hbefore, hlegal, -⟩ := h.split
  have hreach := hbefore.reachable hk.reachable
  have hthere : cpu < e.before.cpus.size := hreach.cpus ▸ hcpu
  obtain ⟨before, op⟩ := e
  cases op with
  | trap c f =>
    cases hop
    refine Kernel.trap_ne_halt hreach.sound hthere ?_ (Option.some.inj houtcome)
    have hf := hfaithful es₁ _ es₂ cpu f rfl rfl
    split at hf
    · next huser =>
      rw [if_pos huser]
      exact hf.claims hbefore hk.reachable
    · next huser => rwa [if_neg huser]
  | schedule c =>
    cases hop
    exact Kernel.schedule_ne_halt hthere (Option.some.inj houtcome)
  | spawn | allocate | destroy | latch | store => cases houtcome

/-- A processor runs a process, and another destroys it. The process traps on, with a system call:
its processor clears it away and waits. -/
theorem never_halts_doomed : ∃ (k k' : Kernel) (es : List Transition) (e : Transition),
    Booted { maxProcesses := 2, cpus := 2 } 16 k ∧ History k (es ++ [e]) k' ∧
    Faithful (es ++ [e]) ∧ e.before.live? (ProcessId.self.next 0) = none ∧
    e.op = .trap 0 (Kernel.callFrame (.initial 0) .getId) ∧
    ∀ panic, e.outcome? ≠ some (.halt panic) := by
  have hboot : Booted { maxProcesses := 2, cpus := 2 } 16 _ := ⟨_, [0, 1], rfl, .refl _, rfl⟩
  have hbegin : ∀ {k : Kernel}, Booted { maxProcesses := 2, cpus := 2 } 16 k → History k [] k :=
    fun _ => .nil
  have hdestroyed := (((hbegin hboot).snoc (.spawn ⟨⟨0⟩, []⟩) trivial).snoc (.schedule 0) rfl).snoc
    (.destroy 1 (ProcessId.self.next 0)) trivial
  have hhist := hdestroyed.snoc (.trap 0 (Kernel.callFrame (.initial 0) .getId)) trivial
  have hfaithful : ∀ {k₁ k₂ k₃ : Kernel}, Transition.resumed? ⟨k₂, .schedule 0⟩ =
      some (ProcessId.self.next 0) → ∀ {k₄ : Kernel},
      Faithful ((([] ++ [⟨k₁, .spawn ⟨⟨0⟩, []⟩⟩]) ++ [⟨k₂, .schedule 0⟩]) ++
        [⟨k₃, .destroy 1 (ProcessId.self.next 0)⟩] ++
        [⟨k₄, .trap 0 (Kernel.callFrame (.initial 0) .getId)⟩]) := by
    intro k₁ k₂ k₃ hresumed k₄
    have hfirst := faithful_nil.concat (e := ⟨k₁, .spawn ⟨⟨0⟩, []⟩⟩) fun _ _ hop => by cases hop
    have hsecond := hfirst.concat (e := ⟨k₂, .schedule 0⟩) fun _ _ hop => by cases hop
    have hthird := hsecond.concat (e := ⟨k₃, .destroy 1 (ProcessId.self.next 0)⟩)
      fun _ _ hop => by cases hop
    refine hthird.concat fun cpu f hop => ?_
    cases hop
    refine (if_pos rfl).mpr ⟨[] ++ [⟨k₁, .spawn ⟨⟨0⟩, []⟩⟩], ⟨k₂, .schedule 0⟩,
      [⟨k₃, .destroy 1 (ProcessId.self.next 0)⟩], rfl, rfl, by rw [hresumed]; rfl, fun e he => ?_⟩
    rw [List.mem_singleton.1 he]
    refine ⟨nofun, ?_⟩
    rintro ⟨id, k, hop, -⟩
    cases hop
  refine ⟨_, _, _, _, hboot, hhist, ?hall, by decide +kernel, rfl, never_halts hboot hhist ?hall _
    (List.mem_append_right _ (List.mem_singleton.2 rfl)) 0 (by decide) rfl⟩
  exact hfaithful (by decide +kernel)

end Run

end Exokernel
