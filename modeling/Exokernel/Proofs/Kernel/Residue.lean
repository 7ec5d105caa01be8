/-
Kernels that differ in what is left in frames.

* `Kernel.Alike`: kernels that are the same but for the contents of frames that nobody can look at;
* `Alike.execute`, `Alike.systemCall`, `Alike.trap` and their like: **whatever the kernel does comes
  to the same on both**, and leaves both alike.
-/
import Exokernel.Proofs.Kernel.Calls
import Exokernel.Proofs.Memory.Residue

namespace Exokernel.Kernel

variable {k k' : Kernel} {id caller target : ProcessId} {cpu : Nat} {f : TrapFrame}
  {va : VirtAddr} {perm : Perm}

/-- Kernels that agree in what their machines show, and are the same but for the contents of
frames. -/
inductive Alike (k : Kernel) : Kernel → Prop where
  | mk {m : Machine} (h : k.machine.Alike m) : Alike k { k with machine := m }

namespace Alike

/-! ### What is the same in both -/

lemma machine (h : k.Alike k') : k.machine.Alike k'.machine := by
  obtain ⟨h⟩ := h
  exact h

lemma config_eq (h : k.Alike k') : k'.config = k.config := by
  obtain ⟨h⟩ := h
  rfl

lemma table_eq (h : k.Alike k') : k'.table = k.table := by
  obtain ⟨h⟩ := h
  rfl

lemma cpus_eq (h : k.Alike k') : k'.cpus = k.cpus := by
  obtain ⟨h⟩ := h
  rfl

lemma auditLog_eq (h : k.Alike k') : k'.auditLog = k.auditLog := by
  obtain ⟨h⟩ := h
  rfl

lemma live?_eq (h : k.Alike k') (id : ProcessId) : k'.live? id = k.live? id := by
  rw [live?, live?, h.table_eq]

lemma spaceOf?_eq (h : k.Alike k') (id : ProcessId) : k'.spaceOf? id = k.spaceOf? id := by
  rw [spaceOf?, spaceOf?, h.live?_eq]

lemma spaceOf_eq (h : k.Alike k') (id : ProcessId) : k'.spaceOf id = k.spaceOf id := by
  rw [spaceOf, spaceOf, h.spaceOf?_eq]

lemma resolve_eq (h : k.Alike k') (caller id : ProcessId) (related : Bool) :
    k'.resolve caller id related = k.resolve caller id related := by
  rw [resolve, resolve, h.table_eq]

lemma checkUser_eq (h : k.Alike k') (s : Nat) (va : VirtAddr) (len : Nat) (perm : Perm) :
    k'.machine.checkUser s va len perm = k.machine.checkUser s va len perm := by
  obtain ⟨⟨h⟩⟩ := h
  rfl

lemma millis_eq (h : k.Alike k') : k'.machine.millis = k.machine.millis := by
  obtain ⟨⟨h⟩⟩ := h
  rfl

lemma faultAddress_eq (h : k.Alike k') (cpu : Nat) :
    k'.machine.faultAddress cpu = k.machine.faultAddress cpu := by
  obtain ⟨⟨h⟩⟩ := h
  rfl

/-! ### Small changes -/

lemma modify (h : k.Alike k') (id : ProcessId) (g : Process → Process) :
    (k.modify id g).Alike (k'.modify id g) := by
  obtain ⟨h⟩ := h
  exact ⟨h⟩

lemma withTable (h : k.Alike k') (table : ProcessTable) :
    Alike { k with table } { k' with table } := by
  obtain ⟨h⟩ := h
  exact ⟨h⟩

lemma modifyCpu (h : k.Alike k') (cpu : Nat) (g : CpuRecord → CpuRecord) :
    (k.modifyCpu cpu g).Alike (k'.modifyCpu cpu g) := by
  obtain ⟨h⟩ := h
  exact ⟨h⟩

lemma withMemory (h : k.Alike k') {m m' : Machine} (hm : m.Alike m') :
    Alike { k with machine := m } { k' with machine := m' } := by
  obtain ⟨h⟩ := h
  exact ⟨hm⟩

/-- What is kept for processors shows no frames. -/
lemma modifyProcessor (h : k.Alike k') (cpu : Nat) (g : Processor → Processor) :
    Alike { k with machine := k.machine.modifyProcessor cpu g }
      { k' with machine := k'.machine.modifyProcessor cpu g } := by
  obtain ⟨⟨h⟩⟩ := h
  exact ⟨⟨h⟩⟩

lemma audit (h : k.Alike k') (id : ProcessId) (kind : EventKind) :
    (k.audit id kind).Alike (k'.audit id kind) := by
  obtain ⟨⟨h⟩⟩ := h
  exact ⟨⟨h⟩⟩

lemma print (h : k.Alike k') (text : String) : (k.print text).Alike (k'.print text) := by
  obtain ⟨⟨h⟩⟩ := h
  exact ⟨⟨h⟩⟩

lemma log (h : k.Alike k') (level : LogLevel) (message : String) :
    (k.log level message).Alike (k'.log level message) := by
  rw [Kernel.log, Kernel.log, h.config_eq]
  split
  · exact h.print _
  · exact h

lemma activate (h : k.Alike k') (cpu : Nat) (s : Option Nat) :
    (k.activate cpu s).Alike (k'.activate cpu s) :=
  h.modifyProcessor cpu _

lemma unbind (h : k.Alike k') (cpu : Nat) (id : ProcessId) :
    (k.unbind cpu id).Alike (k'.unbind cpu id) := by
  rw [Kernel.unbind, Kernel.unbind, h.table_eq]
  split
  · exact ((h.modify id _).activate cpu none).modifyCpu cpu _
  · exact h.modifyCpu cpu _

lemma withMachine (h : k.Alike k') {r r' : Except MachineError Machine}
    (hr : Agree Machine.Alike r r') : Agree Alike (k.withMachine r) (k'.withMachine r') := by
  cases hr with
  | error e => exact .error _
  | ok hm => exact .ok (h.withMemory hm)

/-! ### The end of a process -/

lemma reap (h : k.Alike k') (id : ProcessId) (holder : Option Nat) :
    (k.reap id holder).Alike (k'.reap id holder) := by
  rw [Kernel.reap, Kernel.reap, h.table_eq]
  cases k.table.takeDying? id holder with
  | none => exact h
  | some r =>
    obtain ⟨space, table⟩ := r
    refine log ?_ _ _
    cases holder with
    | none =>
      cases space
      · exact (h.withTable table).withTable _
      · exact ((h.withTable table).withMemory (h.machine.dismantle _)).withTable _
    | some cpu =>
      have hunloaded := (h.withTable table).activate cpu none
      cases space
      · exact hunloaded.withTable _
      · exact (hunloaded.withMemory (hunloaded.machine.dismantle _)).withTable _

lemma clearStale (h : k.Alike k') (cpu : Nat) (id : ProcessId) :
    (k.clearStale cpu id).Alike (k'.clearStale cpu id) :=
  (h.modifyCpu cpu _).reap id (some cpu)

lemma free (h : k.Alike k') (id : ProcessId) : (k.free id).Alike (k'.free id) := by
  rw [Kernel.free, Kernel.free, h.table_eq]
  cases k.table.beginFree? id with
  | none => exact h
  | some r => exact (h.withTable r.2).reap id none

lemma destroyOn (h : k.Alike k') (cpu : Nat) (id : ProcessId) :
    Beside Alike (k.destroyOn cpu id) (k'.destroyOn cpu id) := by
  rw [Kernel.destroyOn, Kernel.destroyOn, h.table_eq]
  cases k.table.beginFree? id with
  | none => exact .mk _ h
  | some r =>
    obtain ⟨holder, table⟩ := r
    have hdoomed := h.withTable table
    cases holder with
    | none => exact .mk _ (hdoomed.reap id none)
    | some holder =>
      dsimp only
      split
      · exact .mk _ (hdoomed.clearStale cpu id)
      · exact .mk _ ((hdoomed.log _ _).modifyProcessor holder _)

lemma destroy (h : k.Alike k') (cpu : Nat) (id : ProcessId) :
    Agree (Beside Alike) (k.destroy cpu id) (k'.destroy cpu id) := by
  rw [Kernel.destroy, Kernel.destroy, h.live?_eq]
  cases k.live? id with
  | none => exact .error _
  | some _ =>
    dsimp only
    exact (h.destroyOn cpu id).elim fun flow _ _ hgone => .ok (.mk _ hgone)

/-! ### The beginning of a process -/

lemma allocateAs (h : k.Alike k') (parent : ProcessId) (status : ProcessStatus) :
    Agree (Beside Alike) (k.allocateAs parent status) (k'.allocateAs parent status) := by
  rw [Kernel.allocateAs, Kernel.allocateAs, h.table_eq]
  split
  · exact .error _
  · refine h.machine.createSpace.elim (fun e => .error _) fun _ _ hmade => ?_
    obtain ⟨s, hmade⟩ := hmade
    dsimp only
    cases k.table.allocate? parent status s with
    | none => exact .error _
    | some r => exact .ok (.mk _ ((h.withMemory hmade).withTable r.2))

lemma allocate (h : k.Alike k') (parent : ProcessId) :
    Agree (Beside Alike) (k.allocate parent) (k'.allocate parent) := by
  rw [Kernel.allocate, Kernel.allocate]
  refine (h.allocateAs parent .runnable).elim (fun e => .error e) fun _ _ hmade => ?_
  obtain ⟨id, hmade⟩ := hmade
  exact .ok (.mk _ (hmade.log _ _))

lemma load (h : k.Alike k') (id : ProcessId) (image : Image) :
    Beside Alike (k.load id image) (k'.load id image) := by
  rw [Kernel.load, Kernel.load, h.spaceOf?_eq]
  cases k.spaceOf? id with
  | none => exact .mk _ h
  | some s =>
    dsimp only
    refine (h.machine.load s image).elim fun result _ _ hloaded => ?_
    cases result with
    | error e => exact .mk _ (h.withMemory hloaded)
    | ok _ => exact .mk _ ((h.withMemory hloaded).modify id _)

/-- A process that a program is loaded into is the same in both. -/
lemma spawn (h : k.Alike k') (image : Image) :
    Beside Alike (k.spawn image) (k'.spawn image) := by
  rw [Kernel.spawn, Kernel.spawn]
  split
  · refine (h.allocateAs .self .notRunnable).elim (fun e => .mk _ h) fun _ _ hmade => ?_
    obtain ⟨id, hmade⟩ := hmade
    dsimp only
    refine (hmade.load id image).elim fun result _ _ hloaded => ?_
    cases result with
    | error e => exact .mk _ (hloaded.free id)
    | ok _ => exact .mk _ ((hloaded.modify id _).log _ _)
  · exact .mk _ h

/-! ### System calls on processes -/

lemma exofork (h : k.Alike k') (caller : ProcessId) :
    Agree (Beside Alike) (k.exofork caller) (k'.exofork caller) := by
  rw [Kernel.exofork, Kernel.exofork, h.table_eq]
  refine .bind_self _ fun parent _ => (h.allocateAs caller .notRunnable).bind fun _ _ hmade => ?_
  obtain ⟨child, hmade⟩ := hmade
  exact .ok (.mk _ ((hmade.modify child _).log _ _))

lemma setStatus (h : k.Alike k') (caller target : ProcessId) (status : ProcessStatus) :
    Agree Alike (k.setStatus caller target status) (k'.setStatus caller target status) := by
  rw [Kernel.setStatus, Kernel.setStatus, h.resolve_eq, h.table_eq]
  split
  · exact .bind_self _ fun target _ => .bind_self _ fun _ _ => .ok (h.modify target _)
  · exact .error _

lemma setFaultHandler (h : k.Alike k') (caller target : ProcessId) (entry : VirtAddr) :
    Agree Alike (k.setFaultHandler caller target entry)
      (k'.setFaultHandler caller target entry) := by
  rw [Kernel.setFaultHandler, Kernel.setFaultHandler, h.resolve_eq, h.table_eq]
  exact .bind_self _ fun target _ => .bind_self _ fun _ _ => .ok (h.modify target _)

/-- **A buffer of the caller** reads the same in both. -/
lemma readCaller_eq (h : k.Alike k') (caller : ProcessId) (va : VirtAddr) (len : Nat) :
    k'.readCaller caller va len = k.readCaller caller va len := by
  rw [readCaller, readCaller, h.spaceOf?_eq]
  cases k.spaceOf? caller with
  | none => rfl
  | some s =>
    dsimp only
    rw [h.checkUser_eq, h.machine.copyIn_eq]

lemma setFrame (h : k.Alike k') (caller target : ProcessId) (frameVa : VirtAddr) :
    Agree Alike (k.setFrame caller target frameVa) (k'.setFrame caller target frameVa) := by
  rw [Kernel.setFrame, Kernel.setFrame, h.resolve_eq, h.readCaller_eq]
  cases k.resolve caller target true with
  | error e => exact .error _
  | ok target =>
    dsimp only
    cases k.readCaller caller frameVa TrapFrame.size with
    | error e => exact .error _
    | ok bytes =>
      dsimp only
      rw [h.live?_eq]
      cases k.live? target with
      | none => exact .error _
      | some _ => exact .ok (h.modify target _)

lemma putString (h : k.Alike k') (caller : ProcessId) (va : VirtAddr) (len : UInt32) :
    Agree Alike (k.putString caller va len) (k'.putString caller va len) := by
  rw [Kernel.putString, Kernel.putString, h.readCaller_eq]
  cases k.readCaller caller va len.toNat with
  | error e => exact .error _
  | ok bytes => exact .ok (h.print _)

/-! ### System calls on pages -/

lemma pageAlloc (h : k.Alike k') (caller target : ProcessId) (va : VirtAddr) (perm : Perm) :
    Beside Alike (k.pageAlloc caller target va perm) (k'.pageAlloc caller target va perm) := by
  have hspace : k'.allocSpace caller target va perm = k.allocSpace caller target va perm := by
    obtain ⟨⟨h⟩⟩ := h
    rfl
  rw [Kernel.pageAlloc, Kernel.pageAlloc, hspace]
  cases k.allocSpace caller target va perm with
  | error e => exact .mk _ h
  | ok s =>
    dsimp only
    exact (h.machine.mapZeroed s va perm).elim fun result _ _ hfilled =>
      .mk _ (h.withMemory hfilled)

lemma sharable_eq (h : k.Alike k') (owner : ProcessId) (va : VirtAddr) (perm : Perm) :
    k'.sharable owner va perm = k.sharable owner va perm := by
  obtain ⟨⟨h⟩⟩ := h
  rfl

lemma retain (h : k.Alike k') (frame : Nat) :
    Alike { k with machine := k.machine.retain frame }
      { k' with machine := k'.machine.retain frame } :=
  h.withMemory (Machine.Like.retain h.machine frame)

lemma holding {α : Type} {frame : Nat} {act : Kernel → Except KernelError α × Kernel}
    (hact : Beside Alike (act { k with machine := k.machine.retain frame })
      (act { k' with machine := k'.machine.retain frame })) :
    Beside Alike (k.holding frame act) (k'.holding frame act) := by
  rw [Kernel.holding, Kernel.holding]
  refine hact.elim fun result k₁ k₁' hdone => ?_
  exact .mk _ (hdone.withMemory (Machine.Like.release hdone.machine frame))

lemma mapKept (h : k.Alike k') {frame : Nat} (hshow : k.machine.Shows frame) (dst : ProcessId)
    (va : VirtAddr) (perm : Perm) :
    Agree Alike (k.mapKept dst frame va perm) (k'.mapKept dst frame va perm) := by
  rw [Kernel.mapKept, Kernel.mapKept, h.spaceOf_eq]
  exact .bind_self _ fun s _ => h.withMachine (h.machine.map hshow s va perm)

lemma pageMap (h : k.Alike k') (caller src : ProcessId) (srcVa : VirtAddr) (dst : ProcessId)
    (dstVa : VirtAddr) (perm : Perm) :
    Beside Alike (k.pageMap caller src srcVa dst dstVa perm)
      (k'.pageMap caller src srcVa dst dstVa perm) := by
  have hsame : k'.mapArguments caller src srcVa dst dstVa perm =
      k.mapArguments caller src srcVa dst dstVa perm := by
    obtain ⟨⟨h⟩⟩ := h
    rfl
  rw [Kernel.pageMap, Kernel.pageMap, hsame]
  cases hargs : k.mapArguments caller src srcVa dst dstVa perm with
  | error e => exact .mk _ h
  | ok r =>
    obtain ⟨frame, dst⟩ := r
    dsimp only
    have hshow : k.machine.Shows frame := (offers_of_mapArguments hargs).shows
    refine holding (((h.retain frame).mapKept hshow dst dstVa perm).elim (fun e => ?_)
      fun _ _ hmapped => .mk _ hmapped)
    exact .mk _ (h.retain frame)

lemma pageUnmap (h : k.Alike k') (caller target : ProcessId) (va : VirtAddr) :
    Agree Alike (k.pageUnmap caller target va) (k'.pageUnmap caller target va) := by
  rw [Kernel.pageUnmap, Kernel.pageUnmap, h.resolve_eq]
  refine .bind_self _ fun _ _ => .bind_self _ fun target _ => ?_
  rw [h.spaceOf_eq]
  exact .bind_self _ fun s _ => .ok (h.withMemory (h.machine.unmap s va))

/-! ### Messages -/

lemma deliver (h : k.Alike k') (page : Option Nat)
    (hshow : ∀ frame, page = some frame → k.machine.Shows frame) (caller target : ProcessId)
    (value : UInt32) (perm : Perm) : Agree (Beside Alike) (k.deliver caller target value page perm)
      (k'.deliver caller target value page perm) := by
  have hdelivered : ∀ {k₁ k₁' : Kernel} (_ : k₁.Alike k₁') (shown : Perm),
      Agree (ε := KernelError) (Beside Alike)
        (.ok (shown, (k₁.modify target fun p =>
          { p with mailbox := deliveredMail caller value shown, status := .runnable }).log .trace
            s!"[{caller}] ipc {Text.hexCode value} -> {target}"))
        (.ok (shown, (k₁'.modify target fun p =>
          { p with mailbox := deliveredMail caller value shown, status := .runnable }).log .trace
            s!"[{caller}] ipc {Text.hexCode value} -> {target}")) := fun h₁ shown =>
    .ok (.mk _ ((h₁.modify target _).log _ _))
  rw [Kernel.deliver, Kernel.deliver, h.table_eq]
  refine .bind_self _ fun receiver _ => ?_
  split
  · dsimp only
    split
    · rw [h.spaceOf_eq]
      refine .bind_self _ fun s _ => ?_
      refine (h.withMachine (h.machine.map (hshow _ rfl) s _ perm)).bind fun _ _ hmapped => ?_
      exact hdelivered hmapped perm
    · exact hdelivered h .none
  · exact .error _

lemma deliverTelling (h : k.Alike k') (page : Option Nat)
    (hshow : ∀ frame, page = some frame → k.machine.Shows frame) (caller target : ProcessId)
    (value : UInt32) (perm : Perm) : Beside Alike (k.deliverTelling caller target value page perm)
      (k'.deliverTelling caller target value page perm) := by
  rw [Kernel.deliverTelling, Kernel.deliverTelling]
  refine (h.deliver page hshow caller target value perm).elim (fun e => .mk _ h) fun _ _ hsent => ?_
  obtain ⟨shown, hsent⟩ := hsent
  exact .mk _ hsent

/-- **A message** comes to the same in both. -/
lemma trySend (h : k.Alike k') (caller target : ProcessId) (value : UInt32)
    (srcVa : Option VirtAddr) (perm : Perm) :
    Beside Alike (k.trySend caller target value srcVa perm)
      (k'.trySend caller target value srcVa perm) := by
  have hreceiver : k'.receiverOf caller target = k.receiverOf caller target := by
    rw [receiverOf, receiverOf, h.resolve_eq, h.table_eq]
  have hoffered : ∀ va, k'.offered caller va perm = k.offered caller va perm := fun va => by
    rw [offered, offered, h.sharable_eq]
  rw [Kernel.trySend, Kernel.trySend, hreceiver]
  cases k.receiverOf caller target with
  | error e => exact .mk _ h
  | ok target =>
    dsimp only
    cases srcVa with
    | none => exact h.deliverTelling none (by rintro _ ⟨⟩) caller target value perm
    | some va =>
      dsimp only
      rw [hoffered]
      cases hoffer : k.offered caller va perm with
      | error e => exact .mk _ h
      | ok frame =>
        have hshow : k.machine.Shows frame := (offers_of_offered hoffer).shows
        refine holding ((h.retain frame).deliverTelling (some frame) ?_ caller target value perm)
        rintro _ ⟨⟩
        exact hshow

lemma receive (h : k.Alike k') (cpu : Nat) (caller : ProcessId) (dstVa : Option VirtAddr) :
    Agree Alike (k.receive cpu caller dstVa) (k'.receive cpu caller dstVa) := by
  rw [Kernel.receive, Kernel.receive, h.table_eq]
  split
  · exact .bind_self _ fun _ _ => .ok ((h.modify caller _).unbind cpu caller)
  · exact .error _

/-! ### Any system call -/

lemma yield (h : k.Alike k') (cpu : Nat) (caller : ProcessId) :
    (k.yield cpu caller).Alike (k'.yield cpu caller) := by
  rw [Kernel.yield, Kernel.yield, h.live?_eq]
  cases k.live? caller with
  | none => exact h
  | some _ => exact (h.modify caller _).unbind cpu caller

lemma exit (h : k.Alike k') (cpu : Nat) (caller target : ProcessId) :
    Beside Alike (k.exit cpu caller target) (k'.exit cpu caller target) := by
  rw [Kernel.exit, Kernel.exit, h.resolve_eq]
  cases k.resolve caller target true with
  | error e => exact .mk _ h
  | ok target =>
    dsimp only
    -- without unfolding, or the two sides are compared down to the text that is printed
    with_reducible refine ((h.log .info _).destroyOn cpu target).elim fun flow _ _ hgone => ?_
    cases flow <;> exact .mk _ hgone

/-- An answer beside what is left of both. -/
lemma answer (h : k.Alike k') {r r' : Except KernelError (UInt32 × Kernel)}
    (hr : Agree (Beside Alike) r r') : Beside Alike (k.answer r) (k'.answer r') := by
  cases hr with
  | error e => exact .mk _ h
  | ok hdone =>
    obtain ⟨v, hdone⟩ := hdone
    exact .mk _ hdone

lemma tell {α : Type} (word : α → UInt32) {r r' : Except KernelError α × Kernel}
    (hr : Beside Alike r r') : Beside Alike (Kernel.tell word r) (Kernel.tell word r') := by
  obtain ⟨result, hdone⟩ := hr
  exact .mk _ hdone

lemma acknowledge (h : k.Alike k') {r r' : Except KernelError Kernel} (hr : Agree Alike r r') :
    Beside Alike (k.acknowledge r) (k'.acknowledge r') := by
  cases hr with
  | error e => exact .mk _ h
  | ok hdone => exact .mk _ hdone

lemma acknowledgeBuffer (h : k.Alike k') {r r' : Except BufferError Kernel}
    (hr : Agree Alike r r') : Beside Alike (k.acknowledgeBuffer r) (k'.acknowledgeBuffer r') := by
  cases hr with
  | error e => cases e <;> exact .mk _ h
  | ok hdone => exact .mk _ hdone

/-- **A system call** comes to the same in both. -/
lemma execute (h : k.Alike k') (cpu : Nat) (caller : ProcessId) (c : Syscall) :
    Beside Alike (k.execute cpu caller c) (k'.execute cpu caller c) := by
  cases c with
  | putString va len => exact h.acknowledgeBuffer (h.putString caller va len)
  | getId => exact .mk _ h
  | destroy target => exact h.exit cpu caller target
  | yield => exact .mk _ (h.yield cpu caller)
  | exofork => exact h.answer (h.exofork caller)
  | setStatus target status => exact h.acknowledge (h.setStatus caller target status)
  | setFrame target va => exact h.acknowledgeBuffer (h.setFrame caller target va)
  | setFaultHandler target entry => exact h.acknowledge (h.setFaultHandler caller target entry)
  | pageAlloc target va perm => exact tell _ (h.pageAlloc caller target va perm)
  | pageMap src srcVa dst dstVa perm => exact tell _ (h.pageMap caller src srcVa dst dstVa perm)
  | pageUnmap target va => exact h.acknowledge (h.pageUnmap caller target va)
  | trySend target value va perm => exact tell _ (h.trySend caller target value va perm)
  | receive dstVa =>
    rw [Kernel.execute, Kernel.execute]
    exact (h.receive cpu caller dstVa).elim (fun e => .mk _ h) fun _ _ hdone => .mk _ hdone
  | time =>
    rw [Kernel.execute, Kernel.execute, h.millis_eq]
    exact .mk _ h

lemma perform (h : k.Alike k') (cpu : Nat) (caller : ProcessId) (call : RawCall) :
    Beside Alike (k.perform cpu caller call) (k'.perform cpu caller call) := by
  rw [Kernel.perform, Kernel.perform]
  cases Syscall.decode call with
  | error e => exact .mk _ (h.log _ _)
  | ok c => exact (h.log _ _).execute cpu caller c

lemma setAnswer (h : k.Alike k') (cpu : Nat) (caller : ProcessId) (answer : Int32) :
    (k.setAnswer cpu caller answer).Alike (k'.setAnswer cpu caller answer) := by
  rw [Kernel.setAnswer, Kernel.setAnswer, h.live?_eq]
  cases k.live? caller with
  | none => exact h
  | some p =>
    dsimp only
    split
    · exact h.modify caller _
    · exact h

lemma conclude (h : k.Alike k') (cpu : Nat) (caller : ProcessId) (request : Nat)
    (outcome : Outcome) : Beside Alike (k.conclude cpu caller request outcome)
      (k'.conclude cpu caller request outcome) := by
  cases outcome with
  | answer result => exact .mk _ ((h.setAnswer cpu caller _).audit caller _)
  | giveUp => exact .mk _ (h.audit caller _)
  | badBuffer va =>
    exact (((h.log _ _).audit caller _).audit caller _).destroyOn cpu caller

lemma systemCall (h : k.Alike k') (cpu : Nat) (caller : ProcessId) :
    Beside Alike (k.systemCall cpu caller) (k'.systemCall cpu caller) := by
  rw [Kernel.systemCall, Kernel.systemCall, h.live?_eq, h.auditLog_eq]
  cases k.live? caller with
  | none => exact .mk _ h
  | some p =>
    have hasked := h.audit caller (.request p.frame.call.number p.frame.call.args)
    dsimp only
    refine (hasked.perform cpu caller p.frame.call).elim fun outcome _ _ hdone => ?_
    exact hdone.conclude cpu caller k.auditLog.nextId outcome

/-! ### Page faults -/

lemma planUpcall_eq (h : k.Alike k') (s : Nat) (entry : VirtAddr) (f : TrapFrame) :
    planUpcall k'.machine s entry f = planUpcall k.machine s entry f := by
  rw [planUpcall, planUpcall, h.checkUser_eq, h.checkUser_eq]

lemma reflectFault (h : k.Alike k') (id : ProcessId) (f : TrapFrame) (faultVa : VirtAddr) :
    Beside Alike (k.reflectFault id f faultVa) (k'.reflectFault id f faultVa) := by
  rw [Kernel.reflectFault, Kernel.reflectFault, h.live?_eq]
  cases k.live? id with
  | none => exact .mk _ h
  | some p =>
    dsimp only
    cases p.faultHandler with
    | none => exact .mk _ h
    | some entry =>
      cases p.space with
      | none => exact .mk _ h
      | some s =>
        dsimp only
        rw [h.planUpcall_eq]
        cases planUpcall k.machine s entry f with
        | error e => exact .mk _ h
        | ok plan =>
          dsimp only
          refine (h.machine.copyOut s plan.frameVa _).elim fun result _ _ hwritten => ?_
          cases result with
          | error e => exact .mk _ (h.withMemory hwritten)
          | ok _ => exact .mk _ ((h.withMemory hwritten).modify id _)

lemma pageFault (h : k.Alike k') (cpu : Nat) (id : ProcessId) (f : TrapFrame) :
    Beside Alike (k.pageFault cpu id f) (k'.pageFault cpu id f) := by
  rw [Kernel.pageFault, Kernel.pageFault, h.faultAddress_eq]
  dsimp only
  refine (h.reflectFault id f (k.machine.faultAddress cpu)).elim fun result _ _ hdone => ?_
  cases result with
  | ok frameVa => exact .mk _ (hdone.log _ _)
  | error e => exact ((hdone.log _ _).audit id _).destroyOn cpu id

/-! ### The scheduler -/

lemma dispatch (h : k.Alike k') (cpu slot : Nat) :
    Beside Alike (k.dispatch cpu slot) (k'.dispatch cpu slot) := by
  rw [Kernel.dispatch, Kernel.dispatch, h.table_eq]
  cases k.table.records[slot]? with
  | none => exact .mk _ h
  | some p => exact .mk _ ((((h.withTable _).activate cpu p.space).modifyCpu cpu _).log _ _)

lemma schedule (h : k.Alike k') (cpu : Nat) :
    Beside Alike (k.schedule cpu) (k'.schedule cpu) := by
  cases h with
  | @mk m hm =>
    have hnext : nextSlot? { k with machine := m } = k.nextSlot? := rfl
    have hidle : dispatchable { k with machine := m } idleSlot = k.dispatchable idleSlot := rfl
    rw [Kernel.schedule, Kernel.schedule, hnext, hidle]
    dsimp only
    split
    · cases k.nextSlot? with
      | some slot =>
        have hmoved : Alike { k with table := { k.table with cursor := slot } }
            { k with machine := m, table := { k.table with cursor := slot } } := ⟨hm⟩
        exact hmoved.dispatch cpu slot
      | none =>
        dsimp only
        split
        · exact dispatch ⟨hm⟩ cpu idleSlot
        · exact .mk _ ((log ⟨hm⟩ _ _).activate cpu none)
    · exact .mk _ ⟨hm⟩

/-! ### Traps -/

lemma serviceInterrupt (h : k.Alike k') (cpu : Nat) (cause : TrapCause) :
    (k.serviceInterrupt cpu cause).Alike (k'.serviceInterrupt cpu cause) := by
  cases cause with
  | timer =>
    rw [Kernel.serviceInterrupt, Kernel.serviceInterrupt]
    split
    · obtain ⟨⟨h⟩⟩ := h
      exact ⟨⟨h⟩⟩
    · exact h
  | spurious => exact h.log _ _
  | device line =>
    rw [Kernel.serviceInterrupt, Kernel.serviceInterrupt]
    exact (h.machine.service line).elim (fun e => h.log _ _) fun _ _ hdone => h.withMemory hdone
  | _ => exact h

lemma acknowledgeInterrupt (h : k.Alike k') (cpu : Nat) (cause : TrapCause) :
    (k.acknowledgeInterrupt cpu cause).Alike (k'.acknowledgeInterrupt cpu cause) :=
  (h.serviceInterrupt cpu cause).modifyProcessor cpu _

lemma preempt (h : k.Alike k') (cpu : Nat) (id : ProcessId) :
    (k.preempt cpu id).Alike (k'.preempt cpu id) := by
  rw [Kernel.preempt, Kernel.preempt, h.live?_eq]
  cases k.live? id with
  | none => exact h.clearStale cpu id
  | some _ => exact (h.modify id _).unbind cpu id

lemma handle (h : k.Alike k') (cpu : Nat) (id : ProcessId) (f : TrapFrame) :
    Beside Alike (k.handle cpu id f) (k'.handle cpu id f) := by
  rw [Kernel.handle, Kernel.handle]
  split
  · exact h.pageFault cpu id f
  · exact h.systemCall cpu id
  · exact .mk _ ((h.acknowledgeInterrupt cpu .timer).preempt cpu id)
  · exact ((h.log _ _).audit id _).destroyOn cpu id
  · exact .mk _ (h.acknowledgeInterrupt cpu _)

lemma leave (h : k.Alike k') (cpu : Nat) (id : ProcessId) (flow : Flow) :
    Beside Alike (k.leave cpu id flow) (k'.leave cpu id flow) := by
  cases flow with
  | switch => exact (h.clearStale cpu id).schedule cpu
  | stay =>
    rw [Kernel.leave, Kernel.leave, h.live?_eq]
    cases k.live? id with
    | none => exact (h.clearStale cpu id).schedule cpu
    | some p =>
      dsimp only
      split
      · exact .mk _ h
      · exact (h.unbind cpu id).schedule cpu

lemma userTrap (h : k.Alike k') (cpu : Nat) (current : Option ProcessId) (f : TrapFrame) :
    Beside Alike (k.userTrap cpu current f) (k'.userTrap cpu current f) := by
  cases current with
  | none => exact .mk _ (h.log _ _)
  | some id =>
    have hbound : k'.isBound cpu id = k.isBound cpu id := by
      rw [isBound, isBound, h.live?_eq]
    rw [Kernel.userTrap, Kernel.userTrap, hbound]
    dsimp only
    split
    · with_reducible refine ((h.modify id _).handle cpu id f).elim fun flow _ _ hdone => ?_
      exact hdone.leave cpu id flow
    · have hcleared := (h.log .debug s!"cpu {cpu}: {id} is gone").clearStale cpu id
      split
      · exact (hcleared.acknowledgeInterrupt cpu _).schedule cpu
      · exact hcleared.schedule cpu

lemma kernelTrap (h : k.Alike k') (cpu : Nat) (current : Option ProcessId) (f : TrapFrame) :
    Beside Alike (k.kernelTrap cpu current f) (k'.kernelTrap cpu current f) := by
  have hpanic : k'.kernelPanic cpu f = k.kernelPanic cpu f := by
    rw [kernelPanic, kernelPanic, h.faultAddress_eq]
  rw [Kernel.kernelTrap, Kernel.kernelTrap, hpanic]
  dsimp only
  split
  · have hacknowledged := h.acknowledgeInterrupt cpu (TrapCause.ofNumber f.trapno)
    cases current with
    | none => exact hacknowledged.schedule cpu
    | some id => exact (hacknowledged.preempt cpu id).schedule cpu
  · exact .mk _ (h.log _ _)

/-- **Any trap** comes to the same in both. -/
lemma trap (h : k.Alike k') (cpu : Nat) (f : TrapFrame) :
    Beside Alike (k.trap cpu f) (k'.trap cpu f) := by
  rw [Kernel.trap, Kernel.trap, h.cpus_eq]
  cases k.cpus[cpu]? with
  | none => exact .mk _ h
  | some c =>
    dsimp only
    split
    · exact (h.modifyCpu cpu _).userTrap cpu c.current f
    · exact (h.modifyCpu cpu _).kernelTrap cpu c.current f

end Alike

end Exokernel.Kernel
