/-
The moves of the kernel: everything that its operations are made of.

* `Kernel.Quiet`: nothing changes that the moves are about, as when something is printed;
* `Deed`, `Kernel.Move`: a process is edited, waits, is bound, given up, doomed or cleared away, one
  is made, or somebody's memory is worked on. Each move has the guards under which the kernel makes
  it;
* `Deed.Numbered`: a deed that makes no address space but one with a certain number;
* `Kernel.Moves`: a row of moves with restricted deeds;
* `Kernel.Change`, `Move.change`: what becomes of a record by one move;
* `Kernel.Sound`: tables and accounts are in order;
* `Move.numbers`: which numbers of address spaces a move gives out;
* `Move.accounted`: what a move keeps of the accounts;
* `Move.sound`, `Moves.sound`: **moves keep them in order**.
-/
import Exokernel.Kernel.Lifecycle
import Exokernel.Kernel.Schedule
import Exokernel.Proofs.Kernel.Tables
import Exokernel.Proofs.Memory.Work

namespace Exokernel

/-! ### Edits of records -/

/-- The last message in a mailbox: who sent it, its value, and the permissions of its page. -/
def Mailbox.mail (b : Mailbox) : ProcessId × UInt32 × Perm := (b.sender, b.value, b.perm)

/-- An edit of a live process. It keeps its identity, its family, its address space, its processor
and its last message; it does not begin to run by it, and it is blocked while it receives. -/
structure Process.Edit (p p' : Process) : Prop where
  id : p'.id = p.id
  parent : p'.parent = p.parent
  space : p'.space = p.space
  resident : p'.resident = p.resident
  live : p'.status.isLive
  running : p'.status = .running → p.status = .running
  blocked : (p.mailbox.receiving → p.status = .notRunnable) →
    p'.mailbox.receiving → p'.status = .notRunnable
  /-- The last message stays in the mailbox. -/
  mail : p'.mailbox.mail = p.mailbox.mail

/-- The record of a process that is to be cleared away by the processor that has it bound. -/
def Process.doomed (p : Process) : Process :=
  { p with status := .dying, mailbox := { p.mailbox with receiving := false } }

lemma ProcessStatus.ne_free_of_isLive {s : ProcessStatus} (h : s.isLive) : s ≠ .free := by
  rintro rfl
  cases h

lemma ProcessStatus.ne_dying_of_isLive {s : ProcessStatus} (h : s.isLive) : s ≠ .dying := by
  rintro rfl
  cases h

namespace Process

variable {p p' : Process} {slot : Nat}

lemma Edit.sound (h : p.Edit p') (hlive : p.status.isLive) (hp : p.Sound slot) :
    p'.Sound slot where
  slot_eq _ := h.id ▸ hp.slot_eq (ProcessStatus.ne_free_of_isLive hlive)
  id_ne _ := h.id ▸ hp.id_ne (ProcessStatus.ne_free_of_isLive hlive)
  space_iff := by
    rw [h.space]
    exact ⟨fun _ => ProcessStatus.ne_free_of_isLive h.live,
      fun _ => hp.space_iff.2 (ProcessStatus.ne_free_of_isLive hlive)⟩
  idle hfree := absurd hfree (ProcessStatus.ne_free_of_isLive h.live)
  bound hb := by
    rw [h.resident]
    rcases hb with hrun | hdie
    · exact hp.bound (.inl (h.running hrun))
    · exact absurd hdie (ProcessStatus.ne_dying_of_isLive h.live)
  blocked := h.blocked hp.blocked

lemma sound_doomed (hlive : p.status.isLive) (hp : p.Sound slot) (hres : p.resident.isSome) :
    p.doomed.Sound slot where
  slot_eq _ := hp.slot_eq (ProcessStatus.ne_free_of_isLive hlive)
  id_ne _ := hp.id_ne (ProcessStatus.ne_free_of_isLive hlive)
  space_iff := ⟨fun _ hfree => (nomatch hfree),
    fun _ => hp.space_iff.2 (ProcessStatus.ne_free_of_isLive hlive)⟩
  idle hfree := (nomatch hfree)
  bound _ := hres
  blocked hrec := (nomatch hrec)

end Process

namespace Kernel

/-! ### Quiet changes -/

/-- The same processors, with the interrupts that they were sent. -/
structure SameProcessors (k k' : Kernel) : Prop where
  cpus : k'.cpus.size = k.cpus.size
  processors : k'.machine.processors.size = k.machine.processors.size
  received : ∀ cpu, k'.machine.received cpu = k.machine.received cpu

/-- Nothing changes but messages, events, clocks and the like. A processor may unload an address
space if it claims nothing. -/
structure Quiet (k k' : Kernel) : Prop where
  records : k'.table.records = k.table.records
  free : k'.table.free = k.table.free
  current : ∀ cpu, k'.current? cpu = k.current? cpu
  frames : k'.machine.frames = k.machine.frames
  spaces : k'.machine.spaces = k.machine.spaces
  windows : k'.machine.windows = k.machine.windows
  same : k.SameProcessors k'
  active : ∀ cpu, k'.machine.activeSpace? cpu = k.machine.activeSpace? cpu ∨
    k.current? cpu = none ∧ k'.machine.activeSpace? cpu = none

variable {k k' k'' : Kernel} {id : ProcessId} {p : Process}

namespace SameProcessors

lemma refl (k : Kernel) : k.SameProcessors k := ⟨rfl, rfl, fun _ => rfl⟩

lemma trans (h : k.SameProcessors k') (h' : k'.SameProcessors k'') : k.SameProcessors k'' :=
  ⟨h'.cpus.trans h.cpus, h'.processors.trans h.processors,
    fun cpu => (h'.received cpu).trans (h.received cpu)⟩

lemma of_eq (hcpus : k'.cpus.size = k.cpus.size)
    (hprocessors : k'.machine.processors = k.machine.processors) : k.SameProcessors k' := by
  refine ⟨hcpus, by rw [hprocessors], fun cpu => ?_⟩
  rw [Machine.received, Machine.received, hprocessors]

end SameProcessors

lemma activeSpace?_of_eq {m m' : Machine} (h : m'.processors = m.processors) (cpu : Nat) :
    m'.activeSpace? cpu = m.activeSpace? cpu := by
  rw [Machine.activeSpace?, Machine.activeSpace?, h]

namespace Quiet

/-- Whatever leaves the processors of the machine alone. -/
lemma of_processors (hr : k'.table.records = k.table.records) (hf : k'.table.free = k.table.free)
    (hc : ∀ cpu, k'.current? cpu = k.current? cpu) (hframes : k'.machine.frames = k.machine.frames)
    (hspaces : k'.machine.spaces = k.machine.spaces)
    (hwindows : k'.machine.windows = k.machine.windows) (hcpus : k'.cpus.size = k.cpus.size)
    (hprocessors : k'.machine.processors = k.machine.processors) : k.Quiet k' :=
  ⟨hr, hf, hc, hframes, hspaces, hwindows, .of_eq hcpus hprocessors,
    fun cpu => .inl (activeSpace?_of_eq hprocessors cpu)⟩

lemma refl (k : Kernel) : k.Quiet k :=
  .of_processors rfl rfl (fun _ => rfl) rfl rfl rfl rfl rfl

lemma trans (h : k.Quiet k') (h' : k'.Quiet k'') : k.Quiet k'' where
  records := h'.records.trans h.records
  free := h'.free.trans h.free
  current cpu := (h'.current cpu).trans (h.current cpu)
  frames := h'.frames.trans h.frames
  spaces := h'.spaces.trans h.spaces
  windows := h'.windows.trans h.windows
  same := h.same.trans h'.same
  active cpu := by
    rcases h'.active cpu with hsame | ⟨hnone, hunloaded⟩
    · rw [hsame]
      exact h.active cpu
    · exact .inr ⟨(h.current cpu).symm.trans hnone, hunloaded⟩

lemma live? (h : k.Quiet k') (id : ProcessId) : k'.live? id = k.live? id := by
  rw [Kernel.live?, Kernel.live?, ProcessTable.find?, ProcessTable.find?, h.records]

lemma space? (h : k.Quiet k') (s : Nat) : k'.machine.space? s = k.machine.space? s := by
  rw [Machine.space?, Machine.space?, h.spaces]

lemma mapping? (h : k.Quiet k') (s page : Nat) :
    k'.machine.mapping? s page = k.machine.mapping? s page := by
  rw [Machine.mapping?, Machine.mapping?, h.space?]

end Quiet

lemma quiet_print (text : String) : k.Quiet (k.print text) :=
  .of_processors rfl rfl (fun _ => rfl) rfl rfl rfl rfl rfl

lemma quiet_log (level : LogLevel) (message : String) : k.Quiet (k.log level message) := by
  rw [log]
  split
  · exact quiet_print _
  · exact .refl k

lemma quiet_audit (id : ProcessId) (kind : EventKind) : k.Quiet (k.audit id kind) :=
  .of_processors rfl rfl (fun _ => rfl) rfl rfl rfl rfl rfl

/-! ### Processors -/

/-- A processor that is changed keeps the interrupts that it was sent. -/
lemma received_modifyProcessor {m : Machine} {cpu : Nat} {f : Processor → Processor}
    (hf : ∀ p, (f p).received = p.received) (c : Nat) :
    (m.modifyProcessor cpu f).received c = m.received c := by
  rw [Machine.received, Machine.received, Machine.modifyProcessor, Array.getElem?_modify]
  split
  · cases m.processors[c]? with
    | none => rfl
    | some p => exact hf p
  · rfl

lemma activeSpace?_modifyProcessor {m : Machine} {cpu : Nat} {f : Processor → Processor}
    (hf : ∀ p, (f p).active = p.active) (c : Nat) :
    (m.modifyProcessor cpu f).activeSpace? c = m.activeSpace? c := by
  rw [Machine.activeSpace?, Machine.activeSpace?, Machine.modifyProcessor, Array.getElem?_modify]
  split
  · cases m.processors[c]? with
    | none => rfl
    | some p => exact hf p
  · rfl

/-- What the processors have loaded after one of them loaded an address space, or none. -/
lemma activeSpace?_activate {m : Machine} {cpu : Nat} {s : Option Nat} (c : Nat) :
    (m.activate cpu s).activeSpace? c =
      if cpu = c then if c < m.processors.size then s else none else m.activeSpace? c := by
  rw [Machine.activeSpace?, Machine.activeSpace?, Machine.activate, Machine.modifyProcessor,
    Array.getElem?_modify]
  split
  · by_cases hlt : c < m.processors.size
    · rw [if_pos hlt, Array.getElem?_eq_getElem hlt]
      rfl
    · rw [if_neg hlt, Array.getElem?_eq_none (Nat.not_lt.1 hlt)]
      rfl
  · rfl

lemma activeSpace?_unload {m : Machine} {cpu : Nat} (c : Nat) :
    (m.activate cpu none).activeSpace? c = if cpu = c then none else m.activeSpace? c := by
  rw [activeSpace?_activate, ite_self]

lemma same_activate (cpu : Nat) (s : Option Nat) : k.SameProcessors (k.activate cpu s) :=
  ⟨rfl, Array.size_modify, received_modifyProcessor fun _ => rfl⟩

/-- A processor that claims nothing unloads what it had loaded. -/
lemma quiet_unload {cpu : Nat} (hnone : k.current? cpu = none) :
    k.Quiet (k.activate cpu none) := by
  refine ⟨rfl, rfl, fun _ => rfl, rfl, rfl, rfl, same_activate cpu none, fun c => ?_⟩
  change (k.machine.activate cpu none).activeSpace? c = _ ∨ _ ∧
    (k.machine.activate cpu none).activeSpace? c = _
  rw [activeSpace?_unload]
  split
  · next hc => exact .inr ⟨hc ▸ hnone, rfl⟩
  · exact .inl rfl

/-! ### Claims -/

/-- A processor that claims somebody is there. -/
lemma lt_size_of_current? {cpu : Nat} {id : ProcessId} (h : k.current? cpu = some id) :
    cpu < k.cpus.size := by
  obtain ⟨c, hc, -⟩ := Option.bind_eq_some_iff.1 h
  exact (Array.getElem?_eq_some_iff.1 hc).1

lemma current?_modifyCpu (cpu : Nat) (f : CpuRecord → CpuRecord) (c : Nat) :
    (k.modifyCpu cpu f).current? c =
      if cpu = c then k.cpus[c]?.bind fun r => (f r).current else k.current? c := by
  simp only [current?, modifyCpu, Array.getElem?_modify]
  split
  · cases k.cpus[c]? <;> rfl
  · rfl

/-- What the processors claim after one of them dropped a claim. -/
lemma current?_dropClaim (cpu : Nat) (id : ProcessId) (c : Nat) :
    (k.dropClaim cpu id).current? c =
      if cpu = c ∧ k.current? c = some id then none else k.current? c := by
  rw [dropClaim, current?_modifyCpu]
  by_cases hc : cpu = c
  · rw [if_pos hc, current?]
    cases hr : k.cpus[c]? with
    | none => simp
    | some r =>
      simp only [Option.bind_some, hc, true_and]
      split
      · rfl
      · rfl
  · rw [if_neg hc, if_neg fun h => hc h.1]

/-- A claim that is not made is dropped without notice. -/
lemma quiet_dropClaim {cpu : Nat} (h : k.current? cpu ≠ some id) :
    k.Quiet (k.dropClaim cpu id) := by
  refine .of_processors rfl rfl (fun c => ?_) rfl rfl rfl Array.size_modify rfl
  rw [current?_dropClaim]
  split
  · next hc => exact absurd (hc.1 ▸ hc.2) h
  · rfl

/-! ### Live processes -/

lemma live?_eq_some_iff : k.live? id = some p ↔
    k.table.records[id.slot]? = some p ∧ p.id = id ∧ p.status.isLive := by
  rw [live?, ProcessTable.find?, Option.filter_eq_some_iff, Process.holds]
  simp only [Bool.and_eq_true, decide_eq_true_eq]

/-- Whose record is not that of a live process, is not live. -/
lemma live?_eq_none (hp : k.table.records[id.slot]? = some p) (hnot : ¬ p.status.isLive) :
    k.live? id = none := by
  rw [Option.eq_none_iff_forall_ne_some]
  intro q hq
  obtain ⟨hrec, -, hlive⟩ := live?_eq_some_iff.1 hq
  rw [hp] at hrec
  cases hrec
  exact hnot hlive

lemma live?_modify {f : Process → Process} (hp : k.live? id = some p) (hid : (f p).id = p.id)
    (hlive : (f p).status.isLive) : (k.modify id f).live? id = some (f p) := by
  obtain ⟨hrec, hpid, -⟩ := live?_eq_some_iff.1 hp
  refine live?_eq_some_iff.2 ⟨?_, hid.trans hpid, hlive⟩
  rw [modify, ProcessTable.getElem?_modify, if_pos rfl, hrec]
  rfl

lemma spaceOf?_eq_some_iff {s : Nat} :
    k.spaceOf? id = some s ↔ ∃ p, k.live? id = some p ∧ p.space = some s := by
  rw [spaceOf?, Option.bind_eq_some_iff]

/-! ### The moves -/

/-- The machine without an address space, if there was one. -/
def vacated (m : Machine) : Option Nat → Machine
  | none => m
  | some s => m.dismantle s

lemma space?_vacated (m : Machine) (space : Option Nat) (s : Nat) :
    ((vacated m space).space? s).isSome =
      if space = some s then false else (m.space? s).isSome := by
  cases space with
  | none => rfl
  | some s' => simp only [vacated, Machine.space?_dismantle, Option.some.injEq]

lemma windows_vacated (m : Machine) (space : Option Nat) :
    (vacated m space).windows = m.windows := by
  cases space with
  | none => rfl
  | some s => exact Machine.windows_dismantle

lemma nextId_vacated (m : Machine) (space : Option Nat) :
    (vacated m space).spaces.nextId = m.spaces.nextId := by
  cases space with
  | none => rfl
  | some s => exact Machine.nextId_dismantle

lemma size_vacated (m : Machine) (space : Option Nat) :
    (vacated m space).frames.slots.size = m.frames.slots.size := by
  cases space with
  | none => rfl
  | some s => exact Machine.size_dismantle

lemma accounted_vacated {m : Machine} {kept : List Nat} (space : Option Nat)
    (h : m.Accounted kept []) : (vacated m space).Accounted kept [] := by
  cases space with
  | none => exact h
  | some s => exact h.dismantle

/-- The process with record `p` in the slot of `id` is gone: its slot is free, its address space is
dismantled, and who had it bound claims nothing and has nothing loaded. -/
structure Clears (k : Kernel) (id : ProcessId) (p : Process) (k' : Kernel) : Prop where
  records : k'.table.records = (k.table.modify id.slot Process.cleared).records
  free : k'.table.free = id.slot :: k.table.free
  current : ∀ c, k'.current? c = if p.resident = some c then none else k.current? c
  frames : k'.machine.frames = (vacated k.machine p.space).frames
  spaces : k'.machine.spaces = (vacated k.machine p.space).spaces
  windows : k'.machine.windows = k.machine.windows
  same : k.SameProcessors k'
  active : ∀ c, k'.machine.activeSpace? c =
    if p.resident = some c then none else k.machine.activeSpace? c

/-- What comes of a page that goes with a message: nothing, or the receiver is shown it. -/
inductive Shows (s : Option Nat) (dst : Option VirtAddr) (m : Machine) : Machine → Prop where
  | nothing : Shows s dst m m
  /-- The receiver takes no page. -/
  | kept {frame : Nat} (hf : frame ∈ m.shownFrames) : Shows s dst m ((m.retain frame).release frame)
  | page {m' : Machine} {space frame : Nat} {va : VirtAddr} {perm : Perm} (hs : s = some space)
      (hva : dst = some va) (hf : m.Offers frame perm)
      (h : (m.retain frame).map space frame va perm = .ok m') : Shows s dst m (m'.release frame)

namespace Shows

variable {s : Option Nat} {dst : Option VirtAddr} {m m' : Machine}

lemma sameShape (h : Shows s dst m m') : m.SameShape m' := by
  cases h with
  | nothing => exact .refl m
  | kept hf => exact (Machine.Remap.kept (s := 0) hf).sameShape
  | page hs hva hf h => exact (Machine.Remap.mapKept hf h).sameShape

lemma accounted {kept : List Nat} (h : Shows s dst m m') (ha : m.Accounted kept []) :
    m'.Accounted kept [] := by
  cases h with
  | nothing => exact ha
  | kept hf => exact (Machine.Remap.kept (s := 0) hf).accounted ha
  | page hs hva hf h => exact (Machine.Remap.mapKept hf h).accounted ha

end Shows

/-- The process with record `p` in a slot is bound to a processor. -/
def bound (k : Kernel) (cpu slot : Nat) (p : Process) : Kernel :=
  (({ k with table := k.table.modify slot fun p =>
    { p with status := .running, resident := some cpu, runs := p.runs + 1 } }).activate cpu
    p.space).modifyCpu cpu fun c => { c with current := some p.id }

/-- What a move is about. -/
inductive Deed where
  | quiet
  /-- The record of a live process is edited. -/
  | edit (id : ProcessId)
  /-- A process opens its mailbox and gives up its processor. -/
  | await (id : ProcessId)
  /-- A processor gives up a process. -/
  | unbind (id : ProcessId)
  /-- A processor is given the process in a slot. -/
  | bind (slot : Nat)
  /-- A process is left to its processor to be cleared away, which is interrupted. -/
  | doom (id : ProcessId)
  /-- A process is cleared away. -/
  | clear (id : ProcessId)
  /-- A process is made, on behalf of a live process or of nobody. Its address space gets a
  number. -/
  | make (caller : Option ProcessId) (number : UInt32)
  /-- Pages of a process come to show something else. -/
  | remap (id : ProcessId)
  /-- The memory of a process is worked on, and the machine changes so. -/
  | work (id : ProcessId) (before after : Machine)
  /-- A process is sent a message that it waits for. -/
  | deliver (id : ProcessId)

/-- A deed that makes no address space but one with number `n`. -/
def Deed.Numbered (n : UInt32) : Deed → Prop
  | .make _ number => number = n
  | _ => True

/-- What becomes of the record of a slot by a move. -/
inductive Change (slot : Nat) (p : Process) : Deed → Process → Prop where
  | same {d : Deed} : Change slot p d p
  | edit {p' : Process} (hslot : p.id.slot = slot) (hlive : p.status.isLive) (hf : p.Edit p')
      (hopen : p'.mailbox.receiving → p.mailbox.receiving) : Change slot p (.edit p.id) p'
  | await {p' : Process} {cpu : Nat} (hslot : p.id.slot = slot) (hlive : p.status.isLive)
      (hf : p.Edit p') (hres : p.resident = some cpu) (hrun : p'.status ≠ .running) :
      Change slot p (.await p.id) { p' with resident := none }
  | unbind {cpu : Nat} (hslot : p.id.slot = slot) (hlive : p.status.isLive)
      (hres : p.resident = some cpu) (hrun : p.status ≠ .running) :
      Change slot p (.unbind p.id) { p with resident := none }
  | bind {cpu : Nat} (hready : p.dispatchable) :
      Change slot p (.bind slot)
        { p with status := .running, resident := some cpu, runs := p.runs + 1 }
  | doom {holder : Nat} (hslot : p.id.slot = slot) (hlive : p.status.isLive)
      (hres : p.resident = some holder) : Change slot p (.doom p.id) p.doomed
  | clear (hslot : p.id.slot = slot) (hs : p.status ≠ .free) :
      Change slot p (.clear p.id) p.cleared
  | make {caller : Option ProcessId} {number : UInt32} {p' : Process} (hfree : p.status = .free)
      (hres : p'.resident = none) (hmail : p'.mailbox = {}) : Change slot p (.make caller number) p'
  | deliver {mail : Mailbox} (hslot : p.id.slot = slot) (hlive : p.status.isLive)
      (hopen : p.mailbox.receiving) (hmail : mail.receiving = false) :
      Change slot p (.deliver p.id) { p with mailbox := mail, status := .runnable }

/-- One move of the kernel. -/
inductive Move (k : Kernel) : Deed → Kernel → Prop where
  | quiet {k' : Kernel} (h : k.Quiet k') : Move k .quiet k'
  | edit {id : ProcessId} {p : Process} {f : Process → Process} (hp : k.live? id = some p)
      (hf : p.Edit (f p)) (hopen : (f p).mailbox.receiving → p.mailbox.receiving) :
      Move k (.edit id) (k.modify id f)
  | await {cpu : Nat} {id : ProcessId} {p : Process} {f : Process → Process}
      (hp : k.live? id = some p) (hf : p.Edit (f p)) (hres : p.resident = some cpu)
      (hrun : (f p).status ≠ .running) : Move k (.await id) ((k.modify id f).unbind cpu id)
  | unbind {cpu : Nat} {id : ProcessId} {p : Process} (hp : k.live? id = some p)
      (hres : p.resident = some cpu) (hrun : p.status ≠ .running) :
      Move k (.unbind id) (k.unbind cpu id)
  | bind {cpu slot : Nat} {p : Process} (hp : k.table.records[slot]? = some p)
      (hready : p.dispatchable) (hcpu : cpu < k.cpus.size) (hnone : k.current? cpu = none) :
      Move k (.bind slot) (k.bound cpu slot p)
  | doom {id : ProcessId} {p : Process} {holder : Nat} (hp : k.live? id = some p)
      (hres : p.resident = some holder) : Move k (.doom id) { k with
        table := k.table.modify id.slot Process.doomed
        machine := k.machine.interrupt holder TrapNumber.reschedule }
  | clear {k' : Kernel} {id : ProcessId} {p : Process} (hp : k.table.records[id.slot]? = some p)
      (hid : p.id = id) (hs : p.status ≠ .free) (h : k.Clears id p k') : Move k (.clear id) k'
  | make {k' : Kernel} {caller : Option ProcessId} {parent id : ProcessId} {status : ProcessStatus}
      (hcaller : ∀ id, caller = some id → (k.live? id).isSome)
      (hs : status = .runnable ∨ status = .notRunnable)
      (h : k.allocateAs parent status = .ok (id, k')) :
      Move k (.make caller k.machine.spaces.nextId) k'
  | remap {id : ProcessId} {s : Nat} {m' : Machine} (hs : k.spaceOf? id = some s)
      (h : Machine.Remap s k.machine m') : Move k (.remap id) { k with machine := m' }
  | work {id : ProcessId} {s : Nat} {m' : Machine} (hs : k.spaceOf? id = some s)
      (h : Machine.Works s k.machine m') : Move k (.work id k.machine m') { k with machine := m' }
  | deliver {id : ProcessId} {p : Process} {m' : Machine} {mail : Mailbox}
      (hp : k.live? id = some p) (hopen : p.mailbox.receiving) (hmail : mail.receiving = false)
      (h : Shows p.space p.mailbox.dstVa k.machine m') :
      Move k (.deliver id)
        ({ k with machine := m' }.modify id fun p =>
          { p with mailbox := mail, status := .runnable })

/-- Work on memory changes the machine of the kernel that it is done in. -/
lemma Move.work_inv {before after : Machine} (h : k.Move (.work id before after) k') :
    before = k.machine ∧ ∃ s, k.spaceOf? id = some s ∧ k' = { k with machine := after } := by
  generalize hd : Deed.work id before after = d at h
  cases h with
  | work hs hworks =>
    cases hd
    exact ⟨rfl, _, hs, rfl⟩
  | _ => cases hd

/-- An edit of what the moves do not look at. -/
lemma Move.edit_of_same {f : Process → Process} (hp : k.live? id = some p) (hid : (f p).id = p.id)
    (hparent : (f p).parent = p.parent) (hspace : (f p).space = p.space)
    (hresident : (f p).resident = p.resident) (hstatus : (f p).status = p.status)
    (hmailbox : (f p).mailbox = p.mailbox) : k.Move (.edit id) (k.modify id f) := by
  have hlive := (live?_eq_some_iff.1 hp).2.2
  refine .edit hp ⟨hid, hparent, hspace, hresident, hstatus ▸ hlive, fun h => hstatus ▸ h,
    fun hblocked hrec => hstatus.trans (hblocked (hmailbox ▸ hrec)), congrArg Mailbox.mail hmailbox⟩
    fun hrec => hmailbox ▸ hrec

/-- A row of moves, with deeds of which `A` holds. -/
def Moves (A : Deed → Prop) : Kernel → Kernel → Prop :=
  Relation.ReflTransGen fun k k' => ∃ d, A d ∧ k.Move d k'

namespace Moves

variable {A B : Deed → Prop}

lemma refl : Moves A k k := Relation.ReflTransGen.refl

lemma one {d : Deed} (hd : A d) (h : k.Move d k') : Moves A k k' := .single ⟨d, hd, h⟩

lemma trans (h : Moves A k k') (h' : Moves A k' k'') : Moves A k k'' :=
  Relation.ReflTransGen.trans h h'

lemma mono (h : Moves A k k') (hAB : ∀ d, A d → B d) : Moves B k k' :=
  Relation.ReflTransGen.mono (fun _ _ ⟨d, hd, hmove⟩ => ⟨d, hAB d hd, hmove⟩) _ _ h

lemma quiet (hA : A .quiet) (h : k.Quiet k') : Moves A k k' := one hA (.quiet h)

/-- What every move keeps is kept by a row of moves. -/
lemma induct {P : Kernel → Prop} (h : Moves A k k') (hk : P k)
    (hstep : ∀ k₁ d k₂, P k₁ → A d → k₁.Move d k₂ → P k₂) : P k' := by
  induction h with
  | refl => exact hk
  | tail _ hlast ih =>
    obtain ⟨d, hd, hmove⟩ := hlast
    exact hstep _ d _ ih hd hmove

end Moves

/-! ### What moves keep in order -/

/-- **A kernel is sound** if its tables agree and the accounts of its machine are in order. -/
structure Sound (k : Kernel) : Prop where
  tables : k.table.Consistent k.current?
  accounted : k.machine.Accounted k.machine.lost []

/-- **A processor claims a live process** if and only if that is bound to it. -/
lemma Sound.current?_iff {cpu : Nat} (hk : k.Sound) (hp : k.live? id = some p) :
    k.current? cpu = some id ↔ p.resident = some cpu := by
  obtain ⟨hrec, hid, -⟩ := live?_eq_some_iff.1 hp
  rw [hk.tables.claim_iff_of_slot hrec]
  exact and_iff_right hid

/-- Giving up a process that is bound. -/
lemma unbind_eq {cpu : Nat} (hp : k.live? id = some p) (hres : p.resident = some cpu) :
    k.unbind cpu id =
      ((k.modify id fun p => { p with resident := none }).activate cpu none).dropClaim cpu id := by
  rw [unbind, (live?_eq_some_iff.1 hp).1, Option.bind_some, if_pos hres]

/-- Giving a processor a process. -/
lemma dispatch_eq {cpu slot : Nat} (hp : k.table.records[slot]? = some p) :
    k.dispatch cpu slot =
      (.user p.id p.frame, (k.bound cpu slot p).log .trace s!"cpu {cpu}: run {p.id}") := by
  rw [dispatch, hp]
  rfl

/-- Making a process. -/
lemma allocateAs_cases {parent : ProcessId} {status : ProcessStatus}
    (h : k.allocateAs parent status = .ok (id, k')) :
    ∃ slot rest s machine, k.table.free = slot :: rest ∧
      k.machine.createSpace = .ok (s, machine) ∧ id = (k.table.lastId slot).next slot ∧
      k' = { k with machine, table := { (k.table.modify slot fun _ =>
        { id, parent, status, space := some s,
          frame := .initial (UInt32.ofNat Layout.stackTop) }) with free := rest } } := by
  rw [allocateAs] at h
  split at h
  · cases h
  · cases hcreate : k.machine.createSpace with
    | error e =>
      rw [hcreate] at h
      cases h
    | ok r =>
      obtain ⟨s, machine⟩ := r
      rw [hcreate] at h
      dsimp only at h
      cases hfree : k.table.free with
      | nil =>
        rw [ProcessTable.allocate?, hfree] at h
        cases h
      | cons slot rest =>
        rw [ProcessTable.allocate?, hfree] at h
        cases h
        exact ⟨slot, rest, s, machine, rfl, rfl, rfl, rfl⟩

/-- An identity that is issued is not the one that stands for whoever is asking. -/
lemma next_ne_self (previous : ProcessId) (slot : Nat) : previous.next slot ≠ .self := by
  intro h
  have hgen := congrArg ProcessId.generation h
  rw [ProcessId.next, ProcessId.generation_ofParts] at hgen
  have hzero : ProcessId.self.generation = 0 := rfl
  rw [hzero] at hgen
  split at hgen
  · exact absurd hgen (by decide)
  · next hne =>
    rw [Nat.mod_mod] at hgen
    exact hne hgen

/-- An edit leaves tables and claims in agreement. -/
lemma tables_modify {f : Process → Process} (ht : k.table.Consistent k.current?)
    (hp : k.live? id = some p) (hf : p.Edit (f p)) :
    (k.modify id f).table.Consistent (k.modify id f).current? := by
  obtain ⟨hrec, -, hlive⟩ := live?_eq_some_iff.1 hp
  exact ht.edit hrec (ProcessStatus.ne_free_of_isLive hlive)
    (hf.sound hlive (ht.sound _ p hrec)) hf.id hf.resident
    (ProcessStatus.ne_free_of_isLive hf.live)

/-- So does a processor that gives up a process that does not run. -/
lemma tables_unbind {cpu : Nat} (ht : k.table.Consistent k.current?) (hp : k.live? id = some p)
    (hres : p.resident = some cpu) (hrun : p.status ≠ .running) :
    (k.unbind cpu id).table.Consistent (k.unbind cpu id).current? := by
  obtain ⟨hrec, hid, hlive⟩ := live?_eq_some_iff.1 hp
  rw [unbind_eq hp hres]
  refine ht.unbind hrec hlive hrun hres fun c => ?_
  rw [current?_dropClaim]
  change (if cpu = c ∧ k.current? c = some id then none else k.current? c) = _
  by_cases hc : c = cpu
  · rw [if_pos hc, hc, if_pos ⟨rfl, hid ▸ ht.claim_eq hrec hres⟩]
  · rw [if_neg hc, if_neg fun h => hc h.1.symm]

/-- So does a process that is doomed. -/
lemma tables_doomed {cpu : Nat} (ht : k.table.Consistent k.current?) (hp : k.live? id = some p)
    (hres : p.resident = some cpu) :
    (k.table.modify id.slot Process.doomed).Consistent k.current? := by
  obtain ⟨hrec, -, hlive⟩ := live?_eq_some_iff.1 hp
  exact ht.edit hrec (ProcessStatus.ne_free_of_isLive hlive)
    (Process.sound_doomed hlive (ht.sound _ p hrec) (by rw [hres]; rfl)) rfl rfl nofun

/-- **What an edit that is followed by giving up the processor comes to.** -/
lemma modify_unbind_eq {cpu : Nat} {f : Process → Process} (hp : k.live? id = some p)
    (hf : p.Edit (f p)) (hres : p.resident = some cpu) : (k.modify id f).unbind cpu id =
      (((k.modify id f).modify id fun p => { p with resident := none }).activate cpu
        none).dropClaim cpu id :=
  unbind_eq (live?_modify hp hf.id hf.live) (hf.resident.trans hres)

namespace Move

variable {d : Deed}

/-- **A move keeps tables and claims in agreement.** -/
lemma tables (h : k.Move d k') (hk : k.Sound) : k'.table.Consistent k'.current? := by
  have ht := hk.tables
  cases h with
  | quiet h => exact ht.congr h.records h.free h.current
  | edit hp hf hopen => exact tables_modify ht hp hf
  | await hp hf hres hrun =>
    exact tables_unbind (tables_modify ht hp hf) (live?_modify hp hf.id hf.live)
      (hf.resident.trans hres) hrun
  | unbind hp hres hrun => exact tables_unbind ht hp hres hrun
  | @bind cpu slot p hp hready hcpu hnone =>
    refine ht.bind hp hready hnone fun c => ?_
    rw [bound, current?_modifyCpu]
    change (if cpu = c then k.cpus[c]?.bind fun _ => some p.id else k.current? c) = _
    by_cases hc : c = cpu
    · rw [if_pos hc, if_pos hc.symm, hc, Array.getElem?_eq_getElem hcpu]
      rfl
    · rw [if_neg hc, if_neg (Ne.symm hc)]
  | doom hp hres => exact tables_doomed ht hp hres
  | @clear _ id p hp hid hs h =>
    exact (ht.clear hp hs h.current).congr h.records h.free fun _ => rfl
  | @make _ caller parent id status hcaller hs h =>
    obtain ⟨slot, rest, s, machine, hfree, -, rfl, rfl⟩ := allocateAs_cases h
    obtain ⟨p, hp, -⟩ := (ht.mem_free_iff slot).1 (hfree ▸ List.mem_cons_self)
    have hslot : slot < ProcessId.slotCount :=
      Nat.lt_of_lt_of_le (Array.getElem?_eq_some_iff.1 hp).1 ht.small
    have hlive : status ≠ .free ∧ status ≠ .running ∧ status ≠ .dying := by
      rcases hs with rfl | rfl <;> exact ⟨nofun, nofun, nofun⟩
    refine ht.occupy hfree ?_ hlive.1 rfl
    exact ⟨fun _ => ProcessId.slot_next _ hslot, fun _ => next_ne_self _ _,
      ⟨fun _ => hlive.1, fun _ => rfl⟩, fun hn => absurd hn hlive.1,
      fun hb => absurd hb (not_or.2 hlive.2), nofun⟩
  | remap hs h => exact ht
  | work hs h => exact ht
  | @deliver id p m' mail hp hopen hmail h =>
    obtain ⟨hrec, -, hlive⟩ := live?_eq_some_iff.1 hp
    have hold := ht.sound _ p hrec
    have hs := ProcessStatus.ne_free_of_isLive hlive
    refine ht.edit (f := fun p => { p with mailbox := mail, status := .runnable }) hrec hs ?_ rfl
      rfl nofun
    exact ⟨fun _ => hold.slot_eq hs, fun _ => hold.id_ne hs,
      ⟨fun _ => nofun, fun _ => hold.space_iff.2 hs⟩, nofun, nofun,
      fun hrec => by rw [hmail] at hrec; cases hrec⟩

/-- **A move keeps the accounts in order**, and nothing is lost by it unless an address space takes
the place of another. -/
lemma accounted {kept : List Nat} (h : k.Move d k') (ha : k.machine.Accounted kept [])
    (hfree : ∀ caller number, d = .make caller number →
      k.machine.space? number.toNat = none) : k'.machine.Accounted kept [] := by
  cases h with
  | quiet h => exact ha.congr h.frames h.spaces h.windows
  | edit hp hf hopen => exact ha
  | await hp hf hres hrun =>
    rw [modify_unbind_eq hp hf hres]
    exact ha.congr rfl rfl rfl
  | unbind hp hres hrun =>
    rw [unbind_eq hp hres]
    exact ha.congr rfl rfl rfl
  | bind hp hready hcpu hnone => exact ha.congr rfl rfl rfl
  | doom hp hres => exact ha.congr rfl rfl rfl
  | @clear _ id p hp hid hs h =>
    refine (accounted_vacated p.space ha).congr h.frames h.spaces ?_
    rw [h.windows, windows_vacated]
  | make hcaller hs h =>
    obtain ⟨slot, rest, s, machine, -, hcreate, rfl, rfl⟩ := allocateAs_cases h
    obtain ⟨-, -, -, hs, -⟩ := Machine.createSpace_cases hcreate
    exact ha.createSpace_of_free hcreate (hs ▸ hfree _ _ rfl)
  | remap hs h => exact h.accounted ha
  | work hs h => exact Machine.Works.accounted h ha
  | deliver hp hopen hmail h => exact h.accounted ha

/-- **A move keeps a kernel sound**: what an address space held that was replaced, is lost. -/
lemma sound (h : k.Move d k') (hk : k.Sound) : k'.Sound := by
  refine ⟨h.tables hk, ?_⟩
  by_cases hd : ∃ caller number, d = .make caller number
  · obtain ⟨caller, number, rfl⟩ := hd
    cases h with
    | make hcaller hs h =>
      obtain ⟨slot, rest, s, machine, -, hcreate, rfl, rfl⟩ := allocateAs_cases h
      exact (hk.accounted.createSpace hcreate).settled
  · exact (h.accounted hk.accounted fun caller number hmake =>
      absurd ⟨caller, number, hmake⟩ hd).settled

/-- **The numbers of address spaces**: a move that makes a process gives out the next one, and there
is an address space with that number then. No other move makes an address space. -/
lemma numbers (h : k.Move d k') :
    (∃ caller, d = .make caller k.machine.spaces.nextId) ∧
        k'.machine.spaces.nextId = k.machine.spaces.nextId + 1 ∧
        (∀ s, (k'.machine.space? s).isSome =
          if k.machine.spaces.nextId.toNat = s then true else (k.machine.space? s).isSome) ∨
      (∀ caller number, d ≠ .make caller number) ∧
        k'.machine.spaces.nextId = k.machine.spaces.nextId ∧
        ∀ s, (k'.machine.space? s).isSome → (k.machine.space? s).isSome := by
  cases h with
  | quiet h => exact .inr ⟨by rintro _ _ ⟨⟩, congrArg (·.nextId) h.spaces, fun s hs => h.space? s ▸ hs⟩
  | await hp hf hres hrun =>
    rw [modify_unbind_eq hp hf hres]
    exact .inr ⟨by rintro _ _ ⟨⟩, rfl, fun _ hs => hs⟩
  | unbind hp hres hrun =>
    rw [unbind_eq hp hres]
    exact .inr ⟨by rintro _ _ ⟨⟩, rfl, fun _ hs => hs⟩
  | @clear _ id p hp hid hs h =>
    refine .inr ⟨by rintro _ _ ⟨⟩, ?_, fun s hthere => ?_⟩
    · rw [h.spaces]
      exact nextId_vacated k.machine p.space
    · rw [Machine.space?, h.spaces] at hthere
      have hgone := space?_vacated k.machine p.space s
      rw [Machine.space?, hthere] at hgone
      split at hgone
      · cases hgone
      · exact hgone.symm
  | make hcaller hs h =>
    obtain ⟨slot, rest, s, machine, -, hcreate, rfl, rfl⟩ := allocateAs_cases h
    have hspaces := Machine.space?_createSpace hcreate
    obtain ⟨directory, frames, -, rfl, rfl⟩ := Machine.createSpace_cases hcreate
    exact .inl ⟨⟨_, rfl⟩, rfl, hspaces⟩
  | remap hs h =>
    exact .inr ⟨by rintro _ _ ⟨⟩, h.sameShape.nextId, fun s hs => h.sameShape.spaces s ▸ hs⟩
  | work hs h =>
    have hshape := Machine.Works.sameShape h
    exact .inr ⟨by rintro _ _ ⟨⟩, hshape.nextId, fun s hs => hshape.spaces s ▸ hs⟩
  | deliver hp hopen hmail h =>
    exact .inr ⟨by rintro _ _ ⟨⟩, h.sameShape.nextId, fun s hs => h.sameShape.spaces s ▸ hs⟩
  | _ => exact .inr ⟨by rintro _ _ ⟨⟩, rfl, fun _ hs => hs⟩

/-- A move opens and closes no window, and makes no frames. -/
lemma fixtures (h : k.Move d k') : k'.machine.windows = k.machine.windows ∧
    k'.machine.frames.slots.size = k.machine.frames.slots.size := by
  cases h with
  | quiet h => exact ⟨h.windows, by rw [h.frames]⟩
  | await hp hf hres hrun =>
    rw [modify_unbind_eq hp hf hres]
    exact ⟨rfl, rfl⟩
  | unbind hp hres hrun =>
    rw [unbind_eq hp hres]
    exact ⟨rfl, rfl⟩
  | clear hp hid hs h =>
    rw [h.windows, h.frames]
    exact ⟨rfl, size_vacated ..⟩
  | make hcaller hs h =>
    obtain ⟨slot, rest, s, machine, -, hcreate, -, rfl⟩ := allocateAs_cases h
    obtain ⟨directory, frames, hall, -, rfl⟩ := Machine.createSpace_cases hcreate
    exact ⟨rfl, Machine.size_allocOwned? hall⟩
  | remap hs h => exact ⟨h.sameShape.windows, h.sameShape.size⟩
  | work hs h =>
    exact ⟨(Machine.Works.sameShape h).windows, (Machine.Works.sameShape h).size⟩
  | deliver hp hopen hmail h => exact ⟨h.sameShape.windows, h.sameShape.size⟩
  | _ => exact ⟨rfl, rfl⟩

/-- A processor claims what it did, or nothing, unless it is given something. -/
lemma current (h : k.Move d k') (hd : ∀ slot, d ≠ .bind slot) (cpu : Nat) :
    k'.current? cpu = k.current? cpu ∨ k'.current? cpu = none := by
  cases h with
  | quiet h => exact .inl (h.current cpu)
  | await hp hf hres hrun =>
    rw [modify_unbind_eq hp hf hres, current?_dropClaim]
    split
    · exact .inr rfl
    · exact .inl rfl
  | unbind hp hres hrun =>
    rw [unbind_eq hp hres, current?_dropClaim]
    split
    · exact .inr rfl
    · exact .inl rfl
  | bind hp hready hcpu hnone => exact absurd rfl (hd _)
  | clear hp hid hs h =>
    rw [h.current]
    split
    · exact .inr rfl
    · exact .inl rfl
  | make hcaller hs h =>
    obtain ⟨slot, rest, s, machine, -, -, -, rfl⟩ := allocateAs_cases h
    exact .inl rfl
  | _ => exact .inl rfl

/-- The record of a slot that is changed, or one of another slot. -/
lemma change_modify {other slot : Nat} {g : Process → Process} {p' : Process}
    (hp : k.table.records[other]? = some p)
    (hp' : (k.table.modify other g).records[slot]? = some p')
    (hg : other = slot → Change slot p d (g p)) :
    ∃ p, k.table.records[slot]? = some p ∧ Change slot p d p' := by
  rw [ProcessTable.getElem?_modify] at hp'
  split at hp'
  · next heq =>
    subst heq
    rw [hp] at hp'
    cases hp'
    exact ⟨p, hp, hg rfl⟩
  · exact ⟨p', hp', .same⟩

/-- **What a move does to the record of a slot.** -/
lemma change (h : k.Move d k') (hk : k.Sound) {slot : Nat} {p' : Process}
    (hp' : k'.table.records[slot]? = some p') :
    ∃ p, k.table.records[slot]? = some p ∧ Change slot p d p' := by
  cases h with
  | quiet h => exact ⟨p', h.records ▸ hp', .same⟩
  | edit hp hf hopen =>
    obtain ⟨hrec, rfl, hlive⟩ := live?_eq_some_iff.1 hp
    exact change_modify hrec hp' fun hslot => .edit hslot hlive hf hopen
  | await hp hf hres hrun =>
    obtain ⟨hrec, rfl, hlive⟩ := live?_eq_some_iff.1 hp
    rw [modify_unbind_eq hp hf hres] at hp'
    change ((k.table.modify _ _).modify _ _).records[slot]? = some p' at hp'
    rw [ProcessTable.modify_modify] at hp'
    exact change_modify hrec hp' fun hslot => .await hslot hlive hf hres hrun
  | unbind hp hres hrun =>
    obtain ⟨hrec, rfl, hlive⟩ := live?_eq_some_iff.1 hp
    rw [unbind_eq hp hres] at hp'
    exact change_modify hrec hp' fun hslot => .unbind hslot hlive hres hrun
  | bind hp hready hcpu hnone =>
    exact change_modify hp hp' fun hslot => hslot ▸ .bind hready
  | doom hp hres =>
    obtain ⟨hrec, rfl, hlive⟩ := live?_eq_some_iff.1 hp
    exact change_modify hrec hp' fun hslot => .doom hslot hlive hres
  | clear hp hid hs h =>
    subst hid
    rw [h.records] at hp'
    exact change_modify hp hp' fun hslot => .clear hslot hs
  | make hcaller hs h =>
    obtain ⟨other, rest, s, machine, hfree, hcreate, rfl, rfl⟩ := allocateAs_cases h
    obtain ⟨r, hr, hrs⟩ := (hk.tables.mem_free_iff other).1 (hfree ▸ List.mem_cons_self)
    exact change_modify hr hp' fun hslot => .make hrs rfl rfl
  | remap | work => exact ⟨p', hp', .same⟩
  | deliver hp hopen hmail h =>
    obtain ⟨hrec, rfl, hlive⟩ := live?_eq_some_iff.1 hp
    exact change_modify hrec hp' fun hslot => .deliver hslot hlive hopen hmail

/-- No slot comes or goes. -/
lemma capacity (h : k.Move d k') : k'.table.records.size = k.table.records.size := by
  cases h with
  | quiet h => rw [h.records]
  | await hp hf hres hrun =>
    rw [modify_unbind_eq hp hf hres]
    exact Array.size_modify.trans Array.size_modify
  | unbind hp hres hrun =>
    rw [unbind_eq hp hres]
    exact Array.size_modify
  | clear hp hid hs h =>
    rw [h.records]
    exact Array.size_modify
  | make hcaller hs h =>
    obtain ⟨slot, rest, s, machine, -, -, -, rfl⟩ := allocateAs_cases h
    exact Array.size_modify
  | remap | work => rfl
  | edit | bind | doom | deliver => exact Array.size_modify

/-- What becomes of a record that is there. -/
lemma changed (h : k.Move d k') (hk : k.Sound) {slot : Nat} {p : Process}
    (hp : k.table.records[slot]? = some p) :
    ∃ p', k'.table.records[slot]? = some p' ∧ Change slot p d p' := by
  have hlt : slot < k'.table.records.size := h.capacity ▸ (Array.getElem?_eq_some_iff.1 hp).1
  obtain ⟨q, hq, hchange⟩ := h.change hk (Array.getElem?_eq_getElem hlt)
  rw [hp] at hq
  cases hq
  exact ⟨_, Array.getElem?_eq_getElem hlt, hchange⟩

/-- A process is bound where it was, or nowhere, unless a processor is given something. -/
lemma resident (h : k.Move d k') (hk : k.Sound) (hd : ∀ slot, d ≠ .bind slot) {slot : Nat}
    {p' : Process} (hp' : k'.table.records[slot]? = some p') :
    p'.resident = none ∨ ∃ p, k.table.records[slot]? = some p ∧ p'.resident = p.resident := by
  obtain ⟨p, hp, hchange⟩ := h.change hk hp'
  cases hchange with
  | same => exact .inr ⟨_, hp, rfl⟩
  | edit hslot hlive hf hopen => exact .inr ⟨p, hp, hf.resident⟩
  | await | unbind | clear => exact .inl rfl
  | bind => exact absurd rfl (hd _)
  | doom | deliver => exact .inr ⟨p, hp, rfl⟩
  | make hfree hres hmail => exact .inl hres

/-- A process keeps its address space as long as its slot is in use. -/
lemma space (h : k.Move d k') (hk : k.Sound) {slot : Nat} {p p' : Process}
    (hp : k.table.records[slot]? = some p) (hs : p.status ≠ .free)
    (hp' : k'.table.records[slot]? = some p') (hs' : p'.status ≠ .free) : p'.space = p.space := by
  obtain ⟨q, hq, hchange⟩ := h.change hk hp'
  rw [hp] at hq
  cases hq
  cases hchange with
  | edit hslot hlive hf hopen => exact hf.space
  | await hslot hlive hf hres hrun => exact hf.space
  | clear => exact absurd rfl hs'
  | make hfree => exact absurd hfree hs
  | _ => rfl

end Move

lemma Quiet.sound (h : k.Quiet k') (hk : k.Sound) : k'.Sound := (Move.quiet h).sound hk

/-- No other processor has the process in a slot bound. -/
def OnlyOn (k : Kernel) (cpu slot : Nat) : Prop :=
  ∀ p : Process, k.table.records[slot]? = some p → p.resident = none ∨ p.resident = some cpu

namespace Moves

variable {A : Deed → Prop}

/-- **Moves keep a kernel sound.** -/
lemma sound (h : Moves A k k') (hk : k.Sound) : k'.Sound :=
  h.induct hk fun _ _ _ hk₁ _ hmove => hmove.sound hk₁

/-- A processor that is given nothing claims what it did, or nothing. -/
lemma current (h : Moves A k k') (hA : ∀ slot, ¬ A (.bind slot)) (cpu : Nat) :
    k'.current? cpu = k.current? cpu ∨ k'.current? cpu = none := by
  refine h.induct (P := fun k₁ => k₁.current? cpu = k.current? cpu ∨ k₁.current? cpu = none)
    (.inl rfl) fun k₁ d k₂ hk₁ hd hmove => ?_
  rcases hmove.current (fun slot heq => hA slot (heq ▸ hd)) cpu with hsame | hnone
  · rwa [hsame]
  · exact .inr hnone

/-- A process is bound where it was, or nowhere, if no processor is given anything. -/
lemma resident (h : Moves A k k') (hk : k.Sound) (hA : ∀ slot, ¬ A (.bind slot)) (slot : Nat) :
    ∀ p' : Process, k'.table.records[slot]? = some p' →
      p'.resident = none ∨ ∃ p, k.table.records[slot]? = some p ∧ p'.resident = p.resident := by
  refine (h.induct (P := fun k₁ => k₁.Sound ∧ ∀ p' : Process, k₁.table.records[slot]? = some p' →
      p'.resident = none ∨ ∃ p, k.table.records[slot]? = some p ∧ p'.resident = p.resident)
    ⟨hk, fun p' hp' => .inr ⟨p', hp', rfl⟩⟩ ?_).2
  rintro k₁ d k₂ ⟨hk₁, hback⟩ hd hmove
  refine ⟨hmove.sound hk₁, fun p' hp' => ?_⟩
  rcases hmove.resident hk₁ (fun slot heq => hA slot (heq ▸ hd)) hp' with hnone | ⟨p, hp, hsame⟩
  · exact .inl hnone
  · rw [hsame]
    exact hback p hp

lemma onlyOn (h : Moves A k k') (hk : k.Sound) (hA : ∀ slot, ¬ A (.bind slot)) {cpu slot : Nat}
    (honly : k.OnlyOn cpu slot) : k'.OnlyOn cpu slot := fun p' hp' => by
  rcases h.resident hk hA slot p' hp' with hnone | ⟨p, hp, hsame⟩
  · exact .inl hnone
  · rw [hsame]
    exact honly p hp

end Moves

end Kernel

end Exokernel
