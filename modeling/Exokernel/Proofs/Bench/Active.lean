/-
Calls of a process that runs, and all that comes of them.

* `Kernel.Persists`: a call after which its caller runs on;
* `Kernel.Served`: **a call that was carried out and answered**. Nothing but the registers of the
  caller differs before it and after it;
* `Persists.trap`: a trap that makes such a call comes to nothing else, and the caller goes on at
  once;
* `Kernel.Renews`: the processes are as they were, but for the registers of one of them;
* `UserContext.Active`, `Active.trap`: **a process that runs** on the bench, and its calls.
-/
import Exokernel.Proofs.Bench.Requests
import Exokernel.Proofs.Kernel.Effects
import Exokernel.Proofs.Refusals

namespace Exokernel

namespace Kernel

variable {k k' k'' k₁ k₂ : Kernel} {id target other : ProcessId} {p : Process} {cpu : Nat}
  {f : TrapFrame} {c : Syscall} {result : Except KernelError UInt32}

/-! ### Calls after which the caller runs on -/

/-- A call that is answered at once, and whose caller runs on if it ran. -/
def Persists (cpu : Nat) (id : ProcessId) (c : Syscall) : Prop :=
  ∀ (k : Kernel) (p : Process), k.Sound → k.live? id = some p → p.status = .running →
    ∃ result k₂ p₂, k.execute cpu id c = (.answer result, k₂) ∧ k₂.live? id = some p₂ ∧
      p₂.status = .running ∧ p₂.frame = p.frame ∧ p₂.resident = p.resident ∧ p₂.space = p.space

lemma LeavesTable.persists (h : LeavesTable cpu id c) : Persists cpu id c := fun k p _ hp hrun => by
  obtain ⟨result, k₂, hexec, htable⟩ := h k
  exact ⟨result, k₂, p, hexec, by rwa [live?, htable], hrun, rfl, rfl, rfl⟩

lemma persists_setFaultHandler {entry : VirtAddr} :
    Persists cpu id (.setFaultHandler target entry) := by
  intro k p _ hp hrun
  rw [execute]
  cases hset : k.setFaultHandler id target entry with
  | error e => exact ⟨_, k, p, rfl, hp, hrun, rfl, rfl, rfl⟩
  | ok k₁ =>
    obtain ⟨other, r, -, -, rfl⟩ := setFaultHandler_cases hset
    obtain ⟨p₂, hp₂, hcases⟩ := live?_modify_cases
      (g := fun p => { p with faultHandler := some entry }) hp rfl (live?_eq_some_iff.1 hp).2.2
    refine ⟨_, _, p₂, rfl, hp₂, ?_⟩
    rcases hcases with rfl | rfl <;> exact ⟨hrun, rfl, rfl, rfl⟩

/-- A process that sets the status of another one runs on. -/
lemma persists_setStatus {status : ProcessStatus} (hne : named id target ≠ id) :
    Persists cpu id (.setStatus target status) := by
  intro k p _ hp hrun
  rw [execute]
  cases hset : k.setStatus id target status with
  | error e => exact ⟨_, k, p, rfl, hp, hrun, rfl, rfl, rfl⟩
  | ok k₁ =>
    obtain ⟨other, r, -, hres, hr, rfl⟩ := setStatus_cases hset
    obtain rfl := eq_named_of_resolve hres
    obtain ⟨hrec, hid, hlive⟩ := live?_eq_some_iff.1 hp
    refine ⟨_, _, p, rfl, live?_eq_some_iff.2 ⟨?_, hid, hlive⟩, hrun, rfl, rfl, rfl⟩
    rw [modify, ProcessTable.getElem?_modify, if_neg (slot_ne_of_live? hr hp hne), hrec]

lemma persists_exofork : Persists cpu id .exofork := by
  intro k p hk hp hrun
  obtain ⟨result, k₂, p₂, hexec, hp₂, -⟩ := (answers_exofork : Answers cpu id .exofork) k p hk hp
  suffices hsame : k₂.live? id = some p from ⟨result, k₂, p, hexec, hsame, hrun, rfl, rfl, rfl⟩
  rw [execute] at hexec
  cases hfork : k.exofork id with
  | error e =>
    rw [hfork] at hexec
    cases hexec
    exact hp
  | ok r =>
    rw [hfork] at hexec
    cases hexec
    cases exofork_affects hk hfork hp hp₂
    exact hp₂

/-! ### Traps that make such calls -/

/-- The registers of a process whose call was answered. -/
def answeredFrame (f : TrapFrame) (c : Syscall) (result : Except KernelError UInt32) : TrapFrame :=
  (callFrame f c).withResult (encodeResult result).toUInt32

/-- A call takes nothing over from the call before. -/
@[simp] lemma callFrame_answeredFrame (c' : Syscall) :
    callFrame (answeredFrame f c result) c' = callFrame f c' := rfl

/-- **A call that was carried out** by kernel `k₁`, with kernel `k₂` as its outcome, and answered.
Before it and after it nothing but the registers of its caller differs. -/
structure Served (k : Kernel) (cpu : Nat) (id : ProcessId) (f : TrapFrame) (c : Syscall)
    (k₁ : Kernel) (result : Except KernelError UInt32) (k₂ k' : Kernel) : Prop where
  saved : k.Saved id (callFrame f c) k₁
  sound : k₁.Sound
  executed : k₁.execute cpu id c = (.answer result, k₂)
  answered : k₂.Saved id (answeredFrame f c result) k'

/-- A trap of a running process that makes such a call. -/
lemma Persists.trap (h : Persists cpu id c) (hk : k.Sound) {g : TrapFrame}
    (hruns : k.RunsOn cpu id g) (hcalls : k.Calls id (callFrame f c) c) :
    ∃ k₁ result k₂ k' s,
      k.Served cpu id f c k₁ result k₂ k' ∧
      k.trap cpu (callFrame f c) = (.user id (answeredFrame f c result), k') ∧
      k.spaceOf? id = some s ∧ k'.spaceOf? id = some s := by
  obtain ⟨p, hp, hrun, hres, -⟩ := hruns
  obtain ⟨huser, -, hcause, hc⟩ := hcalls
  obtain ⟨request, hhandle⟩ := handle_performed cpu hp hcause
  obtain ⟨k₁, hsaved, hperformed⟩ := performed_ok k id cpu hc
  have hk₁ := hsaved.sound hk hp
  obtain ⟨result, k₂, p₂, hexec, hp₂, hrun₂, hframe₂, hres₂, hspace₂⟩ :=
    h k₁ _ hk₁ (hsaved.live? hp) hrun
  have hhere : p₂.resident = some cpu := hres₂.trans hres
  rw [hperformed, hexec, conclude] at hhandle
  -- the answer goes to the registers that were saved
  have hanswer : k₂.setAnswer cpu id (encodeResult result) =
      k₂.modify id fun p => { p with frame := answeredFrame f c result } := by
    have hsame : ∀ q, k₂.table.records[id.slot]? = some q →
        { q with frame := q.frame.withResult (encodeResult result).toUInt32 } =
          { q with frame := answeredFrame f c result } := fun q hq => by
      rw [(live?_eq_some_iff.1 hp₂).1] at hq
      cases hq
      rw [hframe₂, answeredFrame]
    rw [setAnswer_eq _ hp₂ hhere]
    refine congrArg (fun table => { k₂ with table }) (congrArg (fun records =>
      { k₂.table with records }) (Array.ext_getElem? fun i => ?_))
    rw [Array.getElem?_modify, Array.getElem?_modify]
    split
    · next hslot =>
      cases hq : k₂.table.records[i]? with
      | none => rfl
      | some q => exact congrArg some (hsame q (hslot ▸ hq))
    · rfl
  rw [hanswer] at hhandle
  have hanswered : k₂.Saved id (answeredFrame f c result) _ :=
    ⟨k₂, .refl k₂, quiet_audit (k := k₂.modify id fun p => { p with
      frame := answeredFrame f c result }) id (.response request (some (encodeResult result)))⟩
  obtain ⟨s, hs⟩ := spaceOf?_of_live? hk hp
  have hs₂ : k₂.spaceOf? id = some s := by
    obtain ⟨q, hq, hqs⟩ := spaceOf?_eq_some_iff.1 hs
    rw [hp] at hq
    cases hq
    exact spaceOf?_eq_some_iff.2 ⟨p₂, hp₂, hspace₂.trans hqs⟩
  refine ⟨k₁, result, k₂, _, s, ⟨hsaved, hk₁, hexec, hanswered⟩, ?_, hs, hanswered.spaceOf?_eq hs₂⟩
  rw [trap_entered (hk.current?_iff hp |>.2 hres) hp hres huser, hhandle]
  exact leave_running (hanswered.live? hp₂) hrun₂ hhere

/-! ### Processes that are as they were -/

lemma live?_congr (h : k'.table.records[other.slot]? = k.table.records[other.slot]?) :
    k'.live? other = k.live? other := by
  rw [live?, live?, ProcessTable.find?, ProcessTable.find?, h]

/-- A slot that holds one process does not hold another. -/
lemma live?_eq_none_of_id (hrec : k.table.records[other.slot]? = some p) (hne : p.id ≠ other) :
    k.live? other = none := by
  rw [Option.eq_none_iff_forall_ne_some]
  intro q hq
  obtain ⟨hrec', hid, -⟩ := live?_eq_some_iff.1 hq
  rw [hrec] at hrec'
  cases hrec'
  exact hne hid

/-- A record that is changed is nobody else's. -/
lemma live?_modify_of_ne {g : Process → Process} (hq : k.live? target = some p)
    (hg : (g p).id = p.id) (hne : other ≠ target) :
    (k.modify target g).live? other = k.live? other := by
  obtain ⟨hrec, hid, -⟩ := live?_eq_some_iff.1 hq
  by_cases hslot : target.slot = other.slot
  · have hrec' : (k.modify target g).table.records[other.slot]? = some (g p) := by
      rw [modify, ProcessTable.getElem?_modify, if_pos hslot, ← hslot, hrec]
      rfl
    exact (live?_eq_none_of_id hrec' (hg.trans hid ▸ hne.symm)).trans
      (live?_eq_none_of_id (hslot ▸ hrec) (hid ▸ hne.symm)).symm
  · exact live?_congr (by rw [modify, ProcessTable.getElem?_modify, if_neg hslot])

/-- The records of processes are as they were, but for the registers of process `id`. -/
structure Renews (id : ProcessId) (k k' : Kernel) : Prop where
  others : ∀ slot, slot ≠ id.slot → k'.table.records[slot]? = k.table.records[slot]?
  own : ∀ p, k.table.records[id.slot]? = some p →
    ∃ f, k'.table.records[id.slot]? = some { p with frame := f }

namespace Renews

lemma of_records (h : k'.table.records = k.table.records) : Renews id k k' :=
  ⟨fun _ _ => by rw [h], fun p hp => ⟨p.frame, by rw [h, hp]⟩⟩

lemma of_table (h : k'.table = k.table) : Renews id k k' := .of_records (by rw [h])

/-- Other registers for the process. -/
lemma of_modify (g : Process → TrapFrame) :
    Renews id k (k.modify id fun p => { p with frame := g p }) := by
  refine ⟨fun slot hslot => ?_, fun p hp => ⟨g p, ?_⟩⟩
  · rw [modify, ProcessTable.getElem?_modify, if_neg hslot.symm]
  · rw [modify, ProcessTable.getElem?_modify, if_pos rfl, hp]
    rfl

lemma trans (h : Renews id k k') (h' : Renews id k' k'') : Renews id k k'' := by
  refine ⟨fun slot hslot => (h'.others slot hslot).trans (h.others slot hslot), fun p hp => ?_⟩
  obtain ⟨f, hf⟩ := h.own p hp
  obtain ⟨f', hf'⟩ := h'.own _ hf
  exact ⟨f', hf'⟩

lemma of_saved (h : k.Saved id f k') : Renews id k k' :=
  ⟨fun slot hslot => by rw [h.record, if_neg (Ne.symm hslot)],
    fun p hp => ⟨f, by rw [h.record, if_pos rfl, hp]; rfl⟩⟩

/-- Another process is as it was. -/
lemma live? (h : Renews id k k') (hp : k.live? id = some p) (hne : other ≠ id) :
    k'.live? other = k.live? other := by
  obtain ⟨hrec, hid, -⟩ := live?_eq_some_iff.1 hp
  obtain ⟨f, hf⟩ := h.own p hrec
  by_cases hslot : other.slot = id.slot
  · exact (live?_eq_none_of_id (hslot ▸ hf) (hid ▸ hne.symm)).trans
      (live?_eq_none_of_id (hslot ▸ hrec) (hid ▸ hne.symm)).symm
  · exact live?_congr (h.others _ hslot)

/-- The process itself has other registers. -/
lemma live?_self (h : Renews id k k') (hp : k.live? id = some p) :
    ∃ f, k'.live? id = some { p with frame := f } := by
  obtain ⟨hrec, hid, hlive⟩ := live?_eq_some_iff.1 hp
  obtain ⟨f, hf⟩ := h.own p hrec
  exact ⟨f, live?_eq_some_iff.2 ⟨hf, hid, hlive⟩⟩

/-- Every process has the address space that it had. -/
lemma spaceOf? (h : Renews id k k') (hp : k.live? id = some p) (other : ProcessId) :
    k'.spaceOf? other = k.spaceOf? other := by
  by_cases hne : other = id
  · subst hne
    obtain ⟨f, hf⟩ := h.live?_self hp
    rw [Kernel.spaceOf?, Kernel.spaceOf?, hp, hf]
    rfl
  · rw [Kernel.spaceOf?, Kernel.spaceOf?, h.live? hp hne]

end Renews

/-- A call that leaves the process table alone leaves the processes as they were. -/
lemma Served.renews (h : k.Served cpu id f c k₁ result k₂ k') (htable : LeavesTable cpu id c) :
    Renews id k k' := by
  obtain ⟨result', k₃, hexec, hsame⟩ := htable k₁
  rw [h.executed] at hexec
  cases hexec
  exact ((Renews.of_saved h.saved).trans (.of_table hsame)).trans (.of_saved h.answered)

/-- A call makes no address space unless it makes a child. -/
lemma Served.makesNoSpace (h : k.Served cpu id f c k₁ result k₂ k') (hp : k.live? id = some p)
    (hres : p.resident = some cpu) (hne : c ≠ .exofork) : k.MakesNoSpace k' := by
  have hmoves := (execute_moves (c := c) h.sound (h.saved.live? hp) hres).1
  rw [h.executed] at hmoves
  refine (MakesNoSpace.of_spaces h.saved.memory.2.1).trans ((hmoves.makesNoSpace ?_).trans
    (.of_spaces h.answered.memory.2.1))
  intro caller number hd
  cases hd with
  | own hd => cases hd
  | make => exact hne rfl

end Kernel

/-- **A process that runs on a processor**, with its registers there. -/
structure Bench.Running (t : Bench) (cpu : Nat) (id : ProcessId) (f : TrapFrame) : Prop where
  occupant : t.occupant? cpu = some ⟨id, f⟩
  runs : ∃ g, t.kernel.RunsOn cpu id g

instance {t : Bench} {cpu : Nat} {id : ProcessId} {f : TrapFrame} :
    Decidable (t.Running cpu id f) :=
  decidable_of_iff (t.occupant? cpu = some ⟨id, f⟩ ∧
    ∃ p, p ∈ t.kernel.live? id ∧ (p.status = .running ∧ p.resident = some cpu))
    ⟨fun ⟨hocc, p, hp, hrun, hres⟩ => ⟨hocc, p.frame, p, hp, hrun, hres, rfl⟩,
      fun ⟨hocc, _, p, hp, hrun, hres, _⟩ => ⟨hocc, p, hp, hrun, hres⟩⟩

/-- Whom the scheduler picks runs. -/
lemma Bench.Reachable.running_schedule {config : Config} {frames cpu : Nat} {t : Bench}
    {id : ProcessId} (h : t.Reachable config frames) (hnone : t.kernel.current? cpu = none)
    (hnow : (t.enter cpu (t.kernel.schedule cpu)).2.current? cpu = some id) :
    ∃ f, (t.enter cpu (t.kernel.schedule cpu)).2.Running cpu id f := by
  obtain ⟨⟨id, f⟩, ho, rfl⟩ := Option.map_eq_some_iff.1 hnow
  refine ⟨f, ho, f, ?_⟩
  rw [Bench.kernel_enter]
  exact (Kernel.schedule_tells h.sound hnone).user _ _ (Bench.occupant?_enter_self ho)

namespace UserContext

open Bench Kernel

variable {config : Config} {frames cpu s : Nat} {id : ProcessId} {u u' : UserContext}
  {c : Syscall} {f : TrapFrame}

/-- A process that runs user code on its processor, with its registers and its address space, on a
bench in a reachable state. -/
structure Active (config : Config) (frames cpu : Nat) (id : ProcessId) (s : Nat) (f : TrapFrame)
    (u : UserContext) : Prop where
  reachable : u.bed.Reachable config frames
  cpu_eq : u.cpu = cpu
  process_eq : u.process = id
  running : u.bed.Running cpu id f
  user : f.isUser = true
  space : u.bed.kernel.spaceOf? id = some s

namespace Active

lemma sound (h : u.Active config frames cpu id s f) : u.bed.kernel.Sound := h.reachable.sound

lemma placed (h : u.Active config frames cpu id s f) : u.Placed config frames cpu id s :=
  ⟨h.reachable, h.cpu_eq, h.process_eq, ⟨f, h.running.occupant⟩, h.space⟩

lemma live (h : u.Active config frames cpu id s f) : ∃ p, u.bed.kernel.live? id = some p := by
  obtain ⟨g, p, hp, -⟩ := h.running.runs
  exact ⟨p, hp⟩

/-- **A call of a process that runs** comes to the call and its answer. -/
lemma trap (h : u.Active config frames cpu id s f) (hc : Syscall.decode c.encode = .ok c)
    (hpersists : Persists cpu id c) : ∃ k₁ result k₂ u',
      u.bed.kernel.Served cpu id f c k₁ result k₂ u'.bed.kernel ∧
      u.trap c = (encodeResult result, u') ∧
      u'.Active config frames cpu id s (answeredFrame f c result) := by
  obtain ⟨hreach, rfl, rfl, ⟨hocc, g, hruns⟩, huser, hs⟩ := h
  have hcalls : u.bed.kernel.Calls u.process (callFrame f c) c := by
    obtain ⟨p, hp, -⟩ := hruns
    exact ⟨huser, by rw [hp]; rfl, rfl, hc⟩
  obtain ⟨k₁, result, k₂, k', s', hserved, htrap, hspace, hspace'⟩ :=
    hpersists.trap hreach.sound hruns hcalls
  obtain rfl : s' = s := Option.some.inj (hspace.symm.trans hs)
  have hres : (u.bed.kernel.trap u.cpu (callFrame f c)).1 =
      .user u.process (answeredFrame f c result) := congrArg Prod.fst htrap
  have hkernel : (u.bed.enter u.cpu (u.bed.kernel.trap u.cpu (callFrame f c))).2.kernel = k' :=
    kernel_enter.trans (congrArg Prod.snd htrap)
  obtain ⟨hnow, hocc'⟩ := occupant?_enter_user (lt_size_of_occupant? hocc) hres
  have hcall : u.bed.call u.cpu c = (.returned (encodeResult result),
      (u.bed.enter u.cpu (u.bed.kernel.trap u.cpu (callFrame f c))).2) := by
    have hanswer : (encodeResult result).toUInt32.toInt32 = encodeResult result :=
      Int32.toInt32_toUInt32 _
    rw [call_of_occupant? hocc, ← Prod.eta (u.bed.enter u.cpu _), hnow]
    dsimp only
    rw [if_pos rfl, frame?, hocc']
    simp only [Option.map_some, answeredFrame, TrapFrame.withResult, hanswer]
  have heq : u.trap c = (encodeResult result, { u with
      bed := (u.bed.enter u.cpu (u.bed.kernel.trap u.cpu (callFrame f c))).2 }) := by
    rw [UserContext.trap, hcall]
  refine ⟨k₁, result, k₂, _, ?_, heq, ⟨?_, rfl, rfl, ⟨hocc', answeredFrame f c result, ?_⟩,
    huser, ?_⟩⟩
  · rwa [hkernel]
  · have huser := hreach.userTrap c
    rwa [heq] at huser
  · rw [kernel_enter]
    exact (trap_tells hreach.sound).user _ _ hres
  · rwa [hkernel]

/-- **A request of a process that runs** comes to the call, and succeeds if the call does. -/
lemma request (h : u.Active config frames cpu id s f) (hc : Syscall.decode c.encode = .ok c)
    (hpersists : Persists cpu id c) : ∃ k₁ result k₂ u',
      u.bed.kernel.Served cpu id f c k₁ result k₂ u'.bed.kernel ∧
      u'.Active config frames cpu id s (answeredFrame f c result) ∧
      (Program.request c).exec u =
        ((decodeResult (encodeResult result)).mapError LibError.kernel |>.map fun _ => (), u') := by
  obtain ⟨k₁, result, k₂, u', hserved, htrap, hactive⟩ := h.trap hc hpersists
  have hhost : (Host.trap c u : Int32 × UserContext) = (encodeResult result, u') := htrap
  refine ⟨k₁, result, k₂, u', hserved, hactive, ?_⟩
  rw [Program.exec_request, hhost]
  dsimp only
  cases decodeResult (encodeResult result) <;> rfl

/-- A request that succeeds was answered with a success. -/
lemma request_ok (h : u.Active config frames cpu id s f) (hc : Syscall.decode c.encode = .ok c)
    (hpersists : Persists cpu id c) (hexec : (Program.request c).exec u = (.ok (), u')) :
    ∃ k₁ v k₂, u.bed.kernel.Served cpu id f c k₁ (.ok v) k₂ u'.bed.kernel ∧
      u'.Active config frames cpu id s (answeredFrame f c (.ok v)) := by
  obtain ⟨k₁, result, k₂, u₁, hserved, hactive, heq⟩ := h.request hc hpersists
  rw [heq, Prod.mk.injEq] at hexec
  obtain ⟨hok, rfl⟩ := hexec
  cases hdecode : decodeResult (encodeResult result) with
  | error e =>
    rw [hdecode] at hok
    cases hok
  | ok v =>
    obtain rfl := ok_of_decodeResult hdecode
    exact ⟨k₁, v, k₂, hserved, hactive⟩

/-- A request makes no address space unless it is for a child. -/
lemma request_makesNoSpace (h : u.Active config frames cpu id s f)
    (hc : Syscall.decode c.encode = .ok c) (hpersists : Persists cpu id c) (hne : c ≠ .exofork)
    {r : Except LibError Unit} (hexec : (Program.request c).exec u = (r, u')) :
    u.bed.kernel.MakesNoSpace u'.bed.kernel := by
  obtain ⟨k₁, result, k₂, u₁, hserved, -, heq⟩ := h.request hc hpersists
  rw [heq, Prod.mk.injEq] at hexec
  obtain ⟨-, rfl⟩ := hexec
  obtain ⟨g, p, hp, -, hres, -⟩ := h.running.runs
  exact hserved.makesNoSpace hp hres hne

end Active

end UserContext

end Exokernel
