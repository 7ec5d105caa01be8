/-
What comes of a page fault of user code.

* `UpcallPlan.Fits`: the exception stack has room for one more frame;
* `Process.Tellable`: **a process can be told of a fault**, and `planUpcall_iff`: so the kernel
  decides;
* `PendingFrame.Intact`: a frame on the exception stack, as the process reads it;
* `Kernel.Told`: what it leaves of the machine to tell a process;
* `Kernel.TakesFault`: a process takes a page fault on the processor that runs it;
* `TakesFault.told`, `TakesFault.ended`: **it is told, or it is destroyed.**
-/
import Exokernel.Proofs.Bench.Faults
import Exokernel.Proofs.Memory.Views
import Exokernel.Proofs.Trails

namespace Exokernel

open Layout

namespace Machine

variable {m : Machine} {s : Nat} {va : VirtAddr} {kept : List Nat}

/-- What is written on an exception stack changes no byte of another frame, and none beside it. -/
lemma byte?_copyOut_beside {e : Mapping} {data : List UInt8} (hacc : m.Accounted kept [])
    (he : m.mapping? s Kernel.exceptionPage = some e) (hlow : exceptionStackBottom ≤ va.toNat)
    (hhigh : va.toNat + data.length ≤ exceptionStackTop) {n i : Nat}
    (hout : ¬ (n = e.frame ∧ va.offset ≤ i ∧ i < va.offset + data.length)) :
    (m.copyOut s va data).2.frames.byte? n i = m.frames.byte? n i := by
  obtain ⟨-, -, hbeside, hothers⟩ := copyOut_frame hacc he hlow hhigh
  by_cases hn : n = e.frame
  · subst hn
    by_cases hi : i < pageSize
    · refine hbeside i hi fun ⟨hfirst, hlast⟩ => hout ⟨rfl, ?_⟩
      have hstart := va.page_mul_add_offset
      rw [VirtAddr.page, Kernel.div_exceptionStack hlow (by omega)] at hstart
      omega
    · have hend := Nat.not_lt.1 hi
      rw [FramePool.byte?_of_le hend, FramePool.byte?_of_le hend]
  · exact FramePool.byte?_eq_of_contents? (hothers n hn) i

end Machine

/-! ### Whether a process can be told -/

namespace UpcallPlan

variable {esp : UInt32} {plan : UpcallPlan}

/-- **The exception stack has room** for the frame of a fault that was taken with stack pointer
`esp`, unless that lies in the exception stack itself with less than a frame and a word below it. -/
def Fits (esp : UInt32) : Prop :=
  ¬ (exceptionStackBottom ≤ esp.toNat ∧ esp.toNat < exceptionStackTop ∧
    esp.toNat - exceptionStackBottom < FaultFrame.size + nestedGap)

/-- There is a place for the frame if there is room for it. -/
lemma ofStackPointer_iff : (∃ plan, ofStackPointer esp = .ok plan) ↔ Fits esp := by
  rw [ofStackPointer, Fits]
  dsimp only
  split
  · next hin =>
    split
    · next hroom => exact ⟨fun _ hc => by omega, fun _ => ⟨_, rfl⟩⟩
    · next hfull => exact ⟨by rintro ⟨_, ⟨⟩⟩, fun h => absurd ⟨hin.1, hin.2, by omega⟩ h⟩
  · next hout => exact ⟨fun _ hc => hout ⟨hc.1, hc.2.1⟩, fun _ => ⟨_, rfl⟩⟩

/-- A frame for a fault that was taken on the exception stack ends a word below the stack
pointer. -/
lemma frameVa_nested (h : ofStackPointer esp = .ok plan) (hlow : exceptionStackBottom ≤ esp.toNat)
    (hhigh : esp.toNat < exceptionStackTop) :
    plan.frameVa.toNat + FaultFrame.size + nestedGap = esp.toNat := by
  have htop : exceptionStackTop < addressCount := by decide
  rw [ofStackPointer] at h
  dsimp only at h
  rw [if_pos ⟨hlow, hhigh⟩] at h
  split at h
  · cases h
    dsimp only
    rw [VirtAddr.toNat_ofNat_of_lt (by omega)]
    omega
  · cases h

end UpcallPlan

/-- **A process can be told of a fault** that it took with stack pointer `esp`: it has set a
handler, whose code it may run; its exception stack is there, and it may write it; and that has
room. -/
structure Process.Tellable (p : Process) (m : Machine) (s : Nat) (esp : UInt32) : Prop where
  handler : ∃ entry, p.faultHandler = some entry ∧ entry.toNat < userLimit ∧
    ∃ e, m.lookup? s entry = some e ∧ e.perm.contains .userRead = true
  stack : ∃ e, m.lookup? s (.ofNat exceptionStackBottom) = some e ∧
    e.perm.contains .userWrite = true
  room : UpcallPlan.Fits esp

namespace Kernel

variable {k k' : Kernel} {id : ProcessId} {p : Process} {cpu s : Nat} {f : TrapFrame}
  {entry : VirtAddr} {plan : UpcallPlan} {e : Mapping}

/-- The exception stack is one page. -/
lemma lookup?_exceptionStack {m : Machine} {va : VirtAddr} (hlow : exceptionStackBottom ≤ va.toNat)
    (hhigh : va.toNat < exceptionStackTop) : m.lookup? s va = m.mapping? s exceptionPage := by
  rw [Machine.lookup?_of_lt hhigh, VirtAddr.page, div_exceptionStack hlow hhigh]

/-- Its page is the one below `Layout.userTop`. -/
lemma lookup?_exceptionPage {m : Machine} :
    m.lookup? s (.ofNat exceptionStackBottom) = m.mapping? s exceptionPage :=
  lookup?_exceptionStack (by decide) (by decide)

/-- **The kernel finds a place** for the frame if it may write the exception stack, may run the
handler, and has room. -/
lemma planUpcall_iff {m : Machine} : (∃ plan, planUpcall m s entry f = .ok plan) ↔
    (∃ e, m.lookup? s (.ofNat exceptionStackBottom) = some e ∧
      e.perm.contains .userWrite = true) ∧
    (entry.toNat < userLimit ∧ ∃ e, m.lookup? s entry = some e ∧
      e.perm.contains .userRead = true) ∧ UpcallPlan.Fits f.esp := by
  have hstack : m.checkUser s (.ofNat (exceptionStackTop - 1)) 1 .writable = .ok () ↔
      ∃ e, m.lookup? s (.ofNat exceptionStackBottom) = some e ∧
        e.perm.contains .userWrite = true := by
    have hlast : m.lookup? s (.ofNat (exceptionStackTop - 1)) = m.mapping? s exceptionPage :=
      lookup?_exceptionStack (by decide) (by decide)
    rw [Machine.checkUser_byte_iff, hlast, lookup?_exceptionPage]
    exact and_iff_right (by decide)
  rw [← hstack, ← UpcallPlan.ofStackPointer_iff, planUpcall]
  have hentry : m.checkUser s entry 1 .none = .ok () ↔ entry.toNat < userLimit ∧
      ∃ e, m.lookup? s entry = some e ∧ e.perm.contains .userRead = true :=
    Machine.checkUser_byte_iff
  rw [← hentry]
  cases m.checkUser s (.ofNat (exceptionStackTop - 1)) 1 .writable with
  | error va => exact ⟨by rintro ⟨_, ⟨⟩⟩, by rintro ⟨⟨⟩, -⟩⟩
  | ok _ =>
    dsimp only
    cases m.checkUser s entry 1 .none with
    | error va => exact ⟨by rintro ⟨_, ⟨⟩⟩, by rintro ⟨-, ⟨⟩, -⟩⟩
    | ok _ =>
      dsimp only
      cases UpcallPlan.ofStackPointer f.esp with
      | error e => exact ⟨by rintro ⟨_, ⟨⟩⟩, by rintro ⟨-, -, _, ⟨⟩⟩⟩
      | ok plan => exact ⟨fun _ => ⟨rfl, rfl, plan, rfl⟩, fun _ => ⟨plan, rfl⟩⟩

end Kernel

/-! ### Frames on the exception stack -/

/-- A fault frame that the kernel has written on an exception stack: where, and what. -/
structure PendingFrame where
  va : VirtAddr
  frame : FaultFrame

namespace PendingFrame

variable {m m' : Machine} {s : Nat} {w : PendingFrame} {kept : List Nat}

/-- The frame lies on the page of the exception stack. -/
def OnStack (w : PendingFrame) : Prop :=
  exceptionStackBottom ≤ w.va.toNat ∧ w.va.toNat + FaultFrame.size ≤ exceptionStackTop

/-- **A frame is intact**: it lies on the page of the exception stack, and the process reads it
there. -/
structure Intact (w : PendingFrame) (m : Machine) (s : Nat) : Prop where
  onStack : w.OnStack
  read : ∀ absent, ∃ bytes, m.userRead s w.va FaultFrame.size absent = .ok bytes ∧
    FaultFrame.ofBytes bytes = w.frame

/-- What that takes: the bytes of the frame, on a page that is there. -/
structure Shown (w : PendingFrame) (m : Machine) (s : Nat) : Prop where
  onStack : w.OnStack
  bytes : ∀ j < FaultFrame.size, m.byte? s (w.va.toNat + j) = w.frame.toBytes[j]?

/-- Bytes that stay keep the frame. -/
lemma Shown.congr (h : w.Shown m s) (hkept : ∀ a, w.va.toNat ≤ a → a < exceptionStackTop →
    m'.byte? s a = m.byte? s a) : w.Shown m' s := by
  obtain ⟨hlow, hhigh⟩ := h.onStack
  exact ⟨h.onStack, fun j hj => (hkept _ (Nat.le_add_right _ _)
    (Nat.lt_of_lt_of_le (Nat.add_lt_add_left hj _) hhigh)).trans (h.bytes j hj)⟩

/-- **A frame whose bytes are there** is read back. -/
lemma Shown.intact (h : w.Shown m s) (hacc : m.Accounted kept []) (hpermitted : m.Permitted) :
    w.Intact m s := by
  obtain ⟨hlow, hhigh⟩ := h.onStack
  have hlength := FaultFrame.length_toBytes w.frame
  have hsize : 0 < FaultFrame.size := by decide
  -- its first byte shows that the page is there
  obtain ⟨e, he⟩ : ∃ e, m.mapping? s Kernel.exceptionPage = some e := by
    have hfirst := h.bytes 0 (by decide)
    rw [List.getElem?_eq_getElem (by rw [hlength]; decide), Machine.byte?, Nat.add_zero,
      Kernel.div_exceptionStack hlow (by omega)] at hfirst
    obtain ⟨e, he, -⟩ := Option.bind_eq_some_iff.1 hfirst
    exact ⟨e, he⟩
  rw [← hlength] at hhigh
  have hcovered := Machine.covered_exceptionStack he (hpermitted s _ e he) hlow hhigh
  refine ⟨h.onStack, fun absent => ⟨_, ?_, FaultFrame.ofBytes_toBytes w.frame⟩⟩
  rw [← hlength]
  exact hcovered.userRead_eq hacc (fun j hj => h.bytes j (hlength ▸ hj)) absent

/-- What a process reads there, is there. -/
lemma Intact.shown (h : w.Intact m s) (hacc : m.Accounted kept []) : w.Shown m s := by
  obtain ⟨bytes, hread, hframe⟩ := h.read 0
  obtain ⟨hlen, hbytes⟩ := Machine.userRead_getElem? hacc hread
  obtain ⟨-, hhigh⟩ := h.onStack
  refine ⟨h.onStack, fun j hj => ?_⟩
  rw [← hframe, FaultFrame.toBytes_ofBytes hlen]
  exact (hbytes j hj (Nat.lt_of_lt_of_le (Nat.add_lt_add_left hj _) hhigh)).symm

end PendingFrame

namespace Kernel

variable {k k' : Kernel} {id : ProcessId} {p : Process} {cpu s : Nat} {f g : TrapFrame}
  {kept kept' : List Nat}
  {entry : VirtAddr} {plan : UpcallPlan} {e : Mapping}

/-- The frame with which the kernel tells a process of a fault that saved `f`, for which it goes on
with registers `g`. -/
def pendingFrame (k : Kernel) (cpu : Nat) (f g : TrapFrame) : PendingFrame :=
  ⟨⟨g.esp⟩, .ofTrap f (k.machine.faultAddress cpu).word⟩

/-- **What it leaves of the machine to tell a process** of a fault that saved `f`, by the frame `w`:
the process reads the frame, and no other byte changes, nor any page. Nothing at all changes above
the stack pointer, or in the word below it, if that was in the exception stack. -/
structure Told (k : Kernel) (s : Nat) (f : TrapFrame) (w : PendingFrame) (k' : Kernel) : Prop where
  frame : w.Intact k'.machine s
  others : ∃ e, k.machine.lookup? s (.ofNat exceptionStackBottom) = some e ∧
    ∀ n i, ¬ (n = e.frame ∧ w.va.offset ≤ i ∧ i < w.va.offset + FaultFrame.size) →
      k'.machine.frames.byte? n i = k.machine.frames.byte? n i
  spaces : k'.machine.spaces = k.machine.spaces
  windows : k'.machine.windows = k.machine.windows
  above : exceptionStackBottom ≤ f.esp.toNat → f.esp.toNat < exceptionStackTop →
    ∀ t va, f.esp.toNat - UpcallPlan.nestedGap ≤ va.toNat →
      k'.machine.shownByte? t va = k.machine.shownByte? t va

/-- **What is written below** a stack pointer on an exception stack changes nothing above it,
whatever address space the frame of the page is shown in. -/
lemma shownByte?_above {m m' : Machine} (hacc : m.Accounted kept [])
    (he : m.mapping? s exceptionPage = some e) (hplan : UpcallPlan.ofStackPointer f.esp = .ok plan)
    (hlookup : ∀ t va, m'.lookup? t va = m.lookup? t va)
    (hbytes : ∀ n i, ¬ (n = e.frame ∧ plan.frameVa.offset ≤ i ∧
      i < plan.frameVa.offset + FaultFrame.size) → m'.frames.byte? n i = m.frames.byte? n i)
    (hlow : exceptionStackBottom ≤ f.esp.toNat) (hhigh : f.esp.toNat < exceptionStackTop)
    (t : Nat) {va : VirtAddr} (hva : f.esp.toNat - UpcallPlan.nestedGap ≤ va.toNat) :
    m'.shownByte? t va = m.shownByte? t va := by
  rw [Machine.shownByte?, Machine.shownByte?, hlookup]
  cases he' : m.lookup? t va with
  | none => rfl
  | some e' =>
    refine hbytes _ _ ?_
    rintro ⟨hframe, -, hlast⟩
    obtain ⟨hbottom, htop⟩ := UpcallPlan.frameVa_bounds hplan
    have hend := UpcallPlan.frameVa_nested hplan hlow hhigh
    have hfirst : exceptionStackBottom ≤ va.toNat := by omega
    by_cases hlt : va.toNat < userTop
    · -- the page is an exception stack, and the address is above the frame
      have hplace := plan.frameVa.page_mul_add_offset
      have hplace' := va.page_mul_add_offset
      rw [VirtAddr.page, Kernel.div_exceptionStack hbottom (by omega)] at hplace
      rw [VirtAddr.page, Kernel.div_exceptionStack hfirst hlt] at hplace'
      omega
    · -- no window shows what a page shows
      rw [Machine.lookup?, if_pos (Nat.not_lt.1 hlt)] at he'
      have hwindow : e'.frame ∈ m.windows.values.map (·.frame) :=
        List.mem_map.2 ⟨e', SortedMap.mem_values_iff.2 ⟨_, he'⟩, rfl⟩
      exact hacc.notMem_tableFrames he (hframe ▸ List.mem_append_left _ hwindow)

/-- **The kernel that writes a frame** on an exception stack, and changes nothing else of the
machine, tells a process of its fault. -/
lemma told_of_copyOut {frame : FaultFrame} (hacc : k.machine.Accounted kept [])
    (he : k.machine.mapping? s exceptionPage = some e)
    (hplan : UpcallPlan.ofStackPointer f.esp = .ok plan)
    (hframes : k'.machine.frames =
      (k.machine.copyOut s plan.frameVa frame.toBytes).2.frames)
    (hspaces : k'.machine.spaces = k.machine.spaces)
    (hwindows : k'.machine.windows = k.machine.windows) (hacc' : k'.machine.Accounted kept' [])
    (hpermitted : k'.machine.Permitted) : k.Told s f ⟨plan.frameVa, frame⟩ k' := by
  obtain ⟨hlow, hhigh⟩ := UpcallPlan.frameVa_bounds hplan
  have honStack : PendingFrame.OnStack ⟨plan.frameVa, frame⟩ := ⟨hlow, hhigh⟩
  rw [← FaultFrame.length_toBytes frame] at hhigh
  obtain ⟨-, hbytes, -⟩ := Machine.copyOut_frame hacc he hlow hhigh
  have hlookup := Machine.lookup?_of_spaces hspaces hwindows
  have hkept : ∀ n i, ¬ (n = e.frame ∧ plan.frameVa.offset ≤ i ∧
      i < plan.frameVa.offset + FaultFrame.size) →
      k'.machine.frames.byte? n i = k.machine.frames.byte? n i := fun n i hout => by
    rw [← FaultFrame.length_toBytes frame] at hout
    rw [hframes, Machine.byte?_copyOut_beside hacc he hlow hhigh hout]
  have hshown : PendingFrame.Shown ⟨plan.frameVa, frame⟩ k'.machine s := by
    refine ⟨honStack, fun j hj => ?_⟩
    calc k'.machine.byte? s (plan.frameVa.toNat + j)
        = (k.machine.copyOut s plan.frameVa frame.toBytes).2.byte? s (plan.frameVa.toNat + j) :=
          Machine.byte?_of_spaces hframes hspaces s _
      _ = frame.toBytes[j]? := hbytes j (FaultFrame.length_toBytes frame ▸ hj)
  exact ⟨hshown.intact hacc' hpermitted, ⟨e, lookup?_exceptionPage.trans he, hkept⟩, hspaces,
    hwindows, fun hin hin' t va hva => shownByte?_above hacc he hplan hlookup hkept hin hin' t hva⟩

/-! ### Page faults of processes that run -/

/-- **A process takes a page fault** that saves the registers `f`, on the processor that runs it. -/
structure TakesFault (k : Kernel) (cpu : Nat) (id : ProcessId) (p : Process) (f : TrapFrame) :
    Prop where
  live : k.live? id = some p
  running : p.status = .running
  resident : p.resident = some cpu
  user : f.isUser
  number : f.trapno = TrapNumber.pageFault

lemma TakesFault.cause (h : k.TakesFault cpu id p f) :
    TrapCause.ofNumber f.trapno = .pageFault := by
  rw [h.number]
  rfl

/-- A process can be told if the kernel finds a place for the frame. -/
lemma tellable_iff {m : Machine} : p.Tellable m s f.esp ↔
    ∃ entry plan, p.faultHandler = some entry ∧ planUpcall m s entry f = .ok plan := by
  constructor
  · rintro ⟨⟨entry, hentry, hcode⟩, hstack, hroom⟩
    obtain ⟨plan, hplan⟩ := planUpcall_iff.2 ⟨hstack, hcode, hroom⟩
    exact ⟨entry, plan, hentry, hplan⟩
  · rintro ⟨entry, plan, hentry, hplan⟩
    obtain ⟨hstack, hcode, hroom⟩ := planUpcall_iff.1 ⟨plan, hplan⟩
    exact ⟨⟨entry, hentry, hcode⟩, hstack, hroom⟩

/-- The kernel that has found a place for the frame can write it there. -/
lemma copyOut_of_plan {m : Machine} (hacc : m.Accounted kept [])
    (hplan : planUpcall m s entry f = .ok plan) (frame : FaultFrame) :
    (m.copyOut s plan.frameVa frame.toBytes).1 = .ok () := by
  obtain ⟨⟨e, he, -⟩, -⟩ := planUpcall_iff.1 ⟨plan, hplan⟩
  obtain ⟨hlow, hhigh⟩ := UpcallPlan.frameVa_bounds (planUpcall_ok hplan).1
  rw [lookup?_exceptionPage] at he
  rw [← FaultFrame.length_toBytes frame] at hhigh
  exact (Machine.copyOut_frame hacc he hlow hhigh).1

/-- **Who can be told of a page fault lives on**, whether the kernel goes on with it or not. -/
lemma live?_trap_of_tellable (hk : k.Sound) (hp : k.live? id = some p)
    (hres : p.resident = some cpu) (huser : f.isUser)
    (hcause : TrapCause.ofNumber f.trapno = .pageFault) (hs : p.space = some s)
    (htell : p.Tellable k.machine s f.esp) : ∃ q, (k.trap cpu f).2.live? id = some q := by
  obtain ⟨entry, plan, hentry, hplan⟩ := tellable_iff.1 htell
  obtain ⟨m, hcopy⟩ : ∃ m, k.machine.copyOut s plan.frameVa
      (FaultFrame.ofTrap f (k.machine.faultAddress cpu).word).toBytes = (.ok (), m) :=
    ⟨_, Prod.ext (copyOut_of_plan hk.accounted hplan _) rfl⟩
  obtain ⟨text, hhandle⟩ := handle_told hp hcause hentry hs hplan hcopy
  obtain ⟨q, hq⟩ : ∃ q, ((k.entered cpu id f).handle cpu id f).2.live? id = some q := by
    rw [hhandle]
    exact ⟨_, ((quiet_log _ _).live? id).trans (live?_modify
      (k := { k.entered cpu id f with machine := m }) ((entered_saved k cpu id f).live? hp) rfl
      (live?_eq_some_iff.1 hp).2.2)⟩
  have hlive := trap_live hk ((hk.current?_iff hp).2 hres) hp hres huser
  rw [hq] at hlive
  obtain ⟨q', hq', -⟩ := hlive
  exact ⟨q', hq'⟩

/-- The kernel that cannot tell a process leaves everything as it is. -/
lemma reflectFault_error (hp : k.live? id = some p) (hs : p.space = some s)
    (hnot : ¬ p.Tellable k.machine s f.esp) (faultVa : VirtAddr) :
    ∃ e, k.reflectFault id f faultVa = (.error e, k) := by
  rw [reflectFault, hp]
  dsimp only
  rw [hs]
  cases hentry : p.faultHandler with
  | none => exact ⟨_, rfl⟩
  | some entry =>
    dsimp only
    cases hplan : planUpcall k.machine s entry f with
    | error e => exact ⟨_, rfl⟩
    | ok plan => exact absurd (tellable_iff.2 ⟨entry, plan, hentry, hplan⟩) hnot

namespace TakesFault

variable {config : Config} {frames : Nat}

/-- The log grows by what the page fault records. -/
lemma recorded (h : k.TakesFault cpu id p f) (hk : k.Sound) :
    (k.trap cpu f).2.auditLog =
      k.auditLog.recordAll ((k.entered cpu id f).faultTrail cpu id f) := by
  have htrail : k.trapTrail cpu f = (k.entered cpu id f).faultTrail cpu id f := by
    rw [trapTrail, (hk.current?_iff h.live).2 h.resident]
    dsimp only
    rw [if_pos ⟨h.user, isBound_iff.2 ⟨p, h.live, h.resident⟩⟩, handleTrail, h.cause]
  have hlog : ((Operation.trap cpu f).apply k).auditLog =
      k.auditLog.recordAll (k.trapTrail cpu f) := Operation.auditLog_apply
  rwa [htrail] at hlog

/-- Nothing is recorded of a process that is told. -/
lemma unrecorded (h : k.TakesFault cpu id p f) (hk : k.Sound) (hs : p.space = some s)
    (hentry : p.faultHandler = some entry) (hplan : planUpcall k.machine s entry f = .ok plan)
    (hok : (k.machine.copyOut s plan.frameVa
      (FaultFrame.ofTrap f (k.machine.faultAddress cpu).word).toBytes).1 = .ok ()) :
    (k.trap cpu f).2.auditLog = k.auditLog := by
  obtain ⟨m, hcopy⟩ : ∃ m, (k.entered cpu id f).machine.copyOut s plan.frameVa
      (FaultFrame.ofTrap f (k.machine.faultAddress cpu).word).toBytes = (.ok (), m) :=
    ⟨_, Prod.ext hok rfl⟩
  have hreflect := reflectFault_eq ((k.entered_saved cpu id f).live? h.live) hentry hs hplan hcopy
  have haddress : (k.entered cpu id f).machine.faultAddress cpu = k.machine.faultAddress cpu := rfl
  have hlog := h.recorded hk
  rwa [faultTrail, haddress, hreflect] at hlog

/-- **A process that can be told of its fault is told**: it is resumed at its handler, with the
frame at its stack pointer, and nothing is recorded. -/
lemma told (h : k.TakesFault cpu id p f) (hk : Reachable config frames k) (hs : p.space = some s)
    (htell : p.Tellable k.machine s f.esp) :
    ∃ entry plan, p.faultHandler = some entry ∧ UpcallPlan.ofStackPointer f.esp = .ok plan ∧
      (k.trap cpu f).1 = .user id { f with eip := entry.word, esp := plan.frameVa.word } ∧
      k.Told s f (k.pendingFrame cpu f { f with eip := entry.word, esp := plan.frameVa.word })
        (k.trap cpu f).2 ∧
      (k.trap cpu f).2.auditLog = k.auditLog := by
  obtain ⟨entry, plan, hentry, hplan⟩ := tellable_iff.1 htell
  have hplace := (planUpcall_ok hplan).1
  obtain ⟨e, he, -⟩ := htell.stack
  rw [lookup?_exceptionPage] at he
  have hok := copyOut_of_plan hk.sound.accounted hplan
    (.ofTrap f (k.machine.faultAddress cpu).word)
  obtain ⟨k', htrap, -, hspaces, hframes⟩ := trap_told hk.sound h.live h.running h.resident h.user
    h.cause hentry hs hplan hok
  have hlog := h.unrecorded hk.sound hs hentry hplan hok
  have hreach : Reachable config frames (k.trap cpu f).2 := hk.step (.trap cpu f) trivial
  rw [htrap] at hreach hlog ⊢
  have hwindows := hreach.fixtures.1.trans hk.fixtures.1.symm
  exact ⟨entry, plan, hentry, hplace, rfl, told_of_copyOut hk.sound.accounted he hplace hframes
    hspaces hwindows hreach.sound.accounted hreach.permitted, hlog⟩

/-- The kernel that saved the registers cannot tell a process either. -/
lemma reflectFault_error (h : k.TakesFault cpu id p f) (hs : p.space = some s)
    (hnot : ¬ p.Tellable k.machine s f.esp) : ∃ e,
    (k.entered cpu id f).reflectFault id f ((k.entered cpu id f).machine.faultAddress cpu) =
      (.error e, k.entered cpu id f) := by
  have hp := (k.entered_saved cpu id f).live? h.live
  exact Kernel.reflectFault_error hp hs
    (fun htell => hnot ⟨htell.handler, htell.stack, htell.room⟩) _

/-- A process that cannot be told is not there any more. -/
lemma gone (h : k.TakesFault cpu id p f) (hk : k.Sound) (hs : p.space = some s)
    (hnot : ¬ p.Tellable k.machine s f.esp) : (k.trap cpu f).2.live? id = none := by
  have hcur := (hk.current?_iff h.live).2 h.resident
  obtain ⟨e, hreflect⟩ := h.reflectFault_error hs hnot
  have hend : ((k.entered cpu id f).handle cpu id f).2.live? id = none := by
    rw [handle, h.cause]
    dsimp only
    rw [pageFault, hreflect]
    exact ended_gone ((k.entered_saved cpu id f).sound hk h.live) (quiet_log _ _)
  have hlive := trap_live hk hcur h.live h.resident h.user
  rwa [hend] at hlive

/-- **A process that cannot be told of its fault is destroyed**, and that is recorded. -/
lemma ended (h : k.TakesFault cpu id p f) (hk : Reachable config frames k) (hs : p.space = some s)
    (hnot : ¬ p.Tellable k.machine s f.esp) :
    (k.trap cpu f).2.Cleared id s ∧
      (k.trap cpu f).2.auditLog = k.auditLog.record id.raw
        (.terminated (.pageFault (k.machine.faultAddress cpu).word f.eip)) k.machine.millis := by
  have hsound := hk.sound
  have hgone := h.gone hsound hs hnot
  have hcur := (hsound.current?_iff h.live).2 h.resident
  constructor
  · rcases trap_self_fate (f := f) hsound hcur h.live with ⟨q, hq⟩ | ⟨q, hq, hfree⟩
    · cases hgone.symm.trans hq
    · -- no process is made when a page fault is handled
      obtain ⟨k₁, hmoves, hlast⟩ := trap_stages (f := f) hsound hcur
      have hall : Moves (fun deed => ∀ caller number, deed ≠ .make caller number) k
          (k.trap cpu f).2 :=
        (hmoves.mono fun _ hd => hd.not_make (by rw [h.cause]; decide)).trans
          (hlast.mono fun _ hd => hd.not_make)
      exact hall.cleared hsound (fun _ _ hd => absurd rfl (hd _ _))
        (live?_eq_some_iff.1 h.live).1 hs hq hfree
  · obtain ⟨e, hreflect⟩ := h.reflectFault_error hs hnot
    rw [h.recorded hsound, faultTrail, hreflect]
    rfl

end TakesFault

end Kernel

end Exokernel
