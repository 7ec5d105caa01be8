/-
Register frames on their way through memory.

* `TrapFrame.Tamed`: a frame that is another one, apart from what user code may not choose;
* `Backed.shownByte?_userWrite`: a short range shows what user code writes there, wherever its pages
  lead to;
* `Kernel.readCaller_shown`: what the kernel reads for a call is what the memory of the caller
  shows;
* `Kernel.setFrame_of_zero`, `Kernel.trap_setFrame`: **a call that sets registers**, and is answered
  with zero, has read them, and the other process has them then;
* `frames_survive`: **a frame that is written to memory is the one that the process has**.
-/
import Exokernel.Proofs.Memory.Transfers
import Exokernel.Proofs.Registers

namespace Exokernel

open Layout

/-! ### What user code may not choose -/

namespace TrapFrame

/-- **Frame `g` is frame `f`**, but with the selectors of user code, with interrupts enabled, and
without input and output of its own. -/
structure Tamed (f g : TrapFrame) : Prop where
  registers : g = { f with cs := 0x1B, ds := 0x23, es := 0x23, ss := 0x23, eflags := g.eflags }
  interrupts : g.eflags.toBitVec.getLsbD 9 = true
  noIo : g.eflags.toBitVec.getLsbD 12 = false ∧ g.eflags.toBitVec.getLsbD 13 = false
  flags : ∀ i, i ≠ 9 → i ≠ 12 → i ≠ 13 →
    g.eflags.toBitVec.getLsbD i = f.eflags.toBitVec.getLsbD i

/-- The flags that user code may run with, bit by bit. -/
lemma getLsbD_forUser (f : TrapFrame) (i : Nat) : f.forUser.eflags.toBitVec.getLsbD i =
    ((f.eflags.toBitVec.getLsbD i || Flag.interrupt.toBitVec.getLsbD i) &&
      (decide (i < 32) && !Flag.ioPrivilege.toBitVec.getLsbD i)) := by
  simp only [forUser, UInt32.toBitVec_and, UInt32.toBitVec_or, UInt32.toBitVec_not,
    BitVec.getLsbD_and, BitVec.getLsbD_or, BitVec.getLsbD_not]

/-- Which bits these are. -/
lemma getLsbD_flags : ∀ i < 32, Flag.interrupt.toBitVec.getLsbD i = decide (i = 9) ∧
    Flag.ioPrivilege.toBitVec.getLsbD i = decide (i = 12 ∨ i = 13) := by
  decide

lemma tamed_forUser (f : TrapFrame) : f.Tamed f.forUser where
  registers := rfl
  interrupts := by
    have hflags := getLsbD_flags 9 (by decide)
    rw [getLsbD_forUser, hflags.1, hflags.2]
    simp
  noIo := by
    have hlow := getLsbD_flags 12 (by decide)
    have hhigh := getLsbD_flags 13 (by decide)
    rw [getLsbD_forUser, getLsbD_forUser, hlow.2, hhigh.2]
    simp
  flags i h₉ h₁₂ h₁₃ := by
    rw [getLsbD_forUser]
    by_cases hi : i < 32
    · have hflags := getLsbD_flags i hi
      rw [hflags.1, hflags.2]
      simp [hi, h₉, h₁₂, h₁₃]
    · rw [BitVec.getLsbD_of_ge _ i (Nat.not_lt.1 hi)]
      simp [hi]

end TrapFrame

/-! ### What user code writes -/

namespace Machine

variable {m : Machine} {s : Nat} {va : VirtAddr} {data : List UInt8}

/-- What a write of user code leaves everywhere, where it succeeds and where it fails. -/
lemma Backed.landed_userWrite (hm : m.Backed) (s : Nat) (va : VirtAddr) (data : List UInt8) :
    Landed (m.place? s) va.toNat (data.take (m.userWritten s va data)) m.frames
      (m.userWrite s va data).2.frames :=
  hm.landed finds_userFrame va.toNat data

/-- **A range that is no longer than a page** shows what user code writes there: its addresses lead
to different places, be they in one frame. -/
lemma Backed.shownByte?_userWrite (hm : m.Backed) (hok : (m.userWrite s va data).1 = .ok ())
    (hshort : data.length ≤ pageSize) {j : Nat} (hj : j < data.length) :
    (m.userWrite s va data).2.shownByte? s (.ofNat (va.toNat + j)) = data[j]? := by
  have hps : pageSize = 4096 := rfl
  have hlanded := hm.landed_userWrite s va data
  rw [userWritten_of_ok hok, List.take_length] at hlanded
  have hwritten : j < m.userWritten s va data := by rwa [userWritten_of_ok hok]
  have hplace : (m.place? s (va.toNat + j)).isSome :=
    isSome_place?_of_written finds_userFrame (Nat.le_add_right _ _)
      (Nat.add_lt_add_left hwritten _)
  refine shownByte?_of_landed hlanded rfl rfl hj hplace fun j' hj' hlt x hhere hthere => ?_
  obtain ⟨-, hoff, -⟩ := place?_eq_some_iff.1 hhere
  obtain ⟨-, hoff', -⟩ := place?_eq_some_iff.1 hthere
  rw [hps] at hoff hoff' hshort
  omega

end Machine

namespace Kernel

variable {k k' : Kernel} {id t target : ProcessId} {p' q : Process} {cpu s len : Nat}
  {f : TrapFrame} {va : VirtAddr} {bytes : List UInt8}

/-- **What the kernel reads for a call** is what the memory of the caller shows. -/
lemma readCaller_shown (hm : k.machine.Backed) (hs : k.spaceOf? id = some s)
    (h : k.readCaller id va len = .ok bytes) : bytes.length = len ∧
      ∀ j < len, bytes[j]? = k.machine.shownByte? s (.ofNat (va.toNat + j)) := by
  rw [readCaller, hs] at h
  dsimp only at h
  split at h
  · cases h
  · split at h
    · cases h
    · next bytes' hread =>
      cases h
      exact hm.copyIn_shown hread

/-! ### Setting registers -/

/-- No error is answered with zero. -/
lemma ok_of_acknowledgeBuffer {r : Except BufferError Kernel} {result : Except KernelError UInt32}
    (h : (k.acknowledgeBuffer r).1 = .answer result) (hzero : (encodeResult result).toUInt32 = 0) :
    ∃ k', r = .ok k' := by
  cases r with
  | ok k' => exact ⟨k', rfl⟩
  | error e =>
    cases e with
    | inaccessible bad => cases h
    | kernel e =>
      cases h
      cases e <;> exact absurd hzero (by decide)

/-- **A call that sets the registers of another process**, and is answered with zero, has read them,
and the process is there. -/
lemma setFrame_of_zero (hk : k.Sound) (hcur : k.current? cpu = some id)
    (hcalls : k.Calls id f (.setFrame target va)) (ht : k.resolve id target true = .ok t)
    (hne : t ≠ id) (hp' : (k.trap cpu f).2.live? id = some p') (hzero : p'.frame.regs.eax = 0) :
    ∃ bytes q, k.readCaller id va TrapFrame.size = .ok bytes ∧ k.live? t = some q := by
  obtain ⟨huser, hlive, hcause, hc⟩ := hcalls
  obtain ⟨p, hp⟩ := Option.isSome_iff_exists.1 hlive
  -- the caller does not set its own registers
  have hown : ¬ k.Reframes id id f := by
    rintro ⟨⟨-, -, -, hc'⟩, hself, -⟩
    rw [hc] at hc'
    cases hc'
    rw [ht] at hself
    exact hne (Except.ok.inj hself)
  have hresumed := trap_resumption hk hcur hp huser hown hp'
  obtain ⟨k₁, hsaved, hperformed⟩ := performed_ok k id cpu hc
  rw [resumption?, hcause, hc, hperformed] at hresumed
  dsimp only at hresumed
  cases hout : (k₁.execute cpu id (.setFrame target va)).1 with
  | answer result =>
    rw [hout] at hresumed
    have heax : (encodeResult result).toUInt32 = 0 := by
      rw [← hzero, ← Option.some.inj hresumed]
      rfl
    obtain ⟨k₂, hset⟩ := ok_of_acknowledgeBuffer hout heax
    obtain ⟨other, bytes, r, hother, hread, hr, -⟩ := setFrame_cases hset
    rw [hsaved.resolve, ht] at hother
    cases hother
    rw [hsaved.readCaller] at hread
    have hslot := slot_ne_of_live? (hsaved.live? hp) hr hne.symm
    exact ⟨bytes, r, hread, (hsaved.live?_iff hslot).1 hr⟩
  | giveUp =>
    rw [hout] at hresumed
    cases hresumed
  | badBuffer bad =>
    rw [hout] at hresumed
    cases hresumed

/-- **The other process has these registers** after the call. -/
lemma trap_setFrame (hk : k.Sound) (hcur : k.current? cpu = some id)
    (hcalls : k.Calls id f (.setFrame target va)) (ht : k.resolve id target true = .ok t)
    (hne : t ≠ id) (hread : k.readCaller id va TrapFrame.size = .ok bytes)
    (hq : k.live? t = some q) : ∃ q', (k.trap cpu f).2.live? t = some q' ∧
      q'.frame = (TrapFrame.ofBytes bytes).forUser := by
  obtain ⟨p₀, hp₀⟩ := Option.isSome_iff_exists.1 hcalls.2.1
  have hslot := slot_ne_of_live? hp₀ hq hne.symm
  obtain ⟨k₁, p, k₂, hsaved, hk₁, hp, -, hres, hrest, hgoes⟩ := call_stages hk hcur hcalls
  -- the call itself
  have hq₁ := (hsaved.live?_iff hslot).2 hq
  have hset := setFrame_eq hq₁ ((hsaved.resolve ..).trans ht) ((hsaved.readCaller ..).trans hread)
  have hexec : (k₁.execute cpu id (.setFrame target va)).2 =
      k₁.modify t fun p => { p with frame := (TrapFrame.ofBytes bytes).forUser } := by
    rw [execute, hset]
    rfl
  have hsound := (execute_moves (c := .setFrame target va) hk₁ hp hres).1.sound hk₁
  rw [hexec] at hrest hsound
  have hq₂ := live?_modify (k := k₁)
    (f := fun p => { p with frame := (TrapFrame.ofBytes bytes).forUser }) hq₁ rfl
    (live?_eq_some_iff.1 hq₁).2.2
  -- what comes then is about the caller, or dispatches somebody
  have hq₃ := hrest.spared hsound (fun d hd => hd.spares hslot) hq₂
  obtain ⟨q', hq', hframe⟩ := hgoes.live? hq₃
  exact ⟨q', hq', hframe⟩

end Kernel

/-- The memory of a reachable state has its pages backed. -/
lemma Reachable.backed {config : Config} {frames : Nat} {k : Kernel}
    (h : Reachable config frames k) : k.machine.Backed :=
  h.sound.accounted.backed h.fixtures.1

/-- **Frames survive their trip through memory.** A register frame is read as it was written, and so
is a fault frame; a row of 68 bytes is written as it was read, and so is one of 52. A process writes
a frame to memory that it may write, wherever the pages begin. At once, or at any later time at
which its memory still shows these bytes, it asks by a trap that the registers of another process,
its child, be set from there. If it is answered with zero, the child has the registers of the frame,
but for what user code may not choose: it has the selectors of user code, interrupts enabled, and no
input and output of its own. -/
theorem frames_survive {config : Config} {frames : Nat} :
    (∀ f : TrapFrame, f.toBytes.length = 68 ∧ TrapFrame.ofBytes f.toBytes = f) ∧
    (∀ bytes : List UInt8, bytes.length = 68 → (TrapFrame.ofBytes bytes).toBytes = bytes) ∧
    (∀ f : FaultFrame, f.toBytes.length = 52 ∧ FaultFrame.ofBytes f.toBytes = f) ∧
    (∀ bytes : List UInt8, bytes.length = 52 → (FaultFrame.ofBytes bytes).toBytes = bytes) ∧
    ∀ (k k' : Kernel) (id child target : ProcessId) (s cpu : Nat) (va : VirtAddr) (f g : TrapFrame)
      (p' : Process),
      Reachable config frames k → k.spaceOf? id = some s →
      (k.machine.userWrite s va f.toBytes).1 = .ok () →
      Run (fun _ _ => True) ((Operation.store s va f.toBytes).apply k) k' →
      k'.spaceOf? id = some s →
      (∀ j < 68, k'.machine.shownByte? s (.ofNat (va.toNat + j)) =
        ((Operation.store s va f.toBytes).apply k).machine.shownByte? s (.ofNat (va.toNat + j))) →
      k'.current? cpu = some id → k'.Calls id g (.setFrame target va) →
      k'.resolve id target true = .ok child → child ≠ id →
      (k'.trap cpu g).2.live? id = some p' → p'.frame.regs.eax = 0 →
      ∃ q', (k'.trap cpu g).2.live? child = some q' ∧ f.Tamed q'.frame := by
  refine ⟨fun f => ⟨f.length_toBytes, f.ofBytes_toBytes⟩, fun bytes => TrapFrame.toBytes_ofBytes,
    fun f => ⟨f.length_toBytes, f.ofBytes_toBytes⟩, fun bytes => FaultFrame.toBytes_ofBytes, ?_⟩
  intro k k' id child target s cpu va f g p' hreach hs hwrite hrun hs' hsame hcur hcalls ht hne hp'
    hzero
  have hreach' : Reachable config frames k' :=
    hrun.reachable (hreach.step (.store s va f.toBytes) trivial)
  obtain ⟨bytes, q, hread, hq⟩ :=
    Kernel.setFrame_of_zero hreach'.sound hcur hcalls ht hne hp' hzero
  obtain ⟨hlen, hbytes⟩ := Kernel.readCaller_shown hreach'.backed hs' hread
  have hsize : f.toBytes.length = 68 := f.length_toBytes
  have hshown : ∀ j < 68, k'.machine.shownByte? s (.ofNat (va.toNat + j)) = f.toBytes[j]? := by
    intro j hj
    rw [hsame j hj]
    exact hreach.backed.shownByte?_userWrite hwrite (by rw [hsize]; decide) (by rwa [hsize])
  have hframe : bytes = f.toBytes := by
    refine List.ext_getElem? fun j => ?_
    by_cases hj : j < 68
    · rw [hbytes j hj, hshown j hj]
    · have hge : 68 ≤ j := Nat.not_lt.1 hj
      rw [List.getElem?_eq_none (hlen ▸ hge), List.getElem?_eq_none (hsize ▸ hge)]
  obtain ⟨q', hq', hset⟩ := Kernel.trap_setFrame hreach'.sound hcur hcalls ht hne hread hq
  refine ⟨q', hq', ?_⟩
  rw [hset, hframe, TrapFrame.ofBytes_toBytes]
  exact f.tamed_forUser

/-- A process writes a frame over the boundary of two pages, and sets the registers of the child
that it has just made. -/
theorem frames_survive_boundary : ∃ (k : Kernel) (f : TrapFrame) (q' : Process),
    Reachable { maxProcesses := 2 } 32 k ∧
    (k.machine.userWrite 1 ⟨0x800FE0⟩ f.toBytes).1 = .ok () ∧
    (((Operation.store 1 ⟨0x800FE0⟩ f.toBytes).apply k).trap 0 (Kernel.callFrame (.initial 7)
      (.setFrame (ProcessId.self.next 1) ⟨0x800FE0⟩))).2.live? (ProcessId.self.next 1) = some q' ∧
    f.Tamed q'.frame ∧ q'.frame ≠ f ∧ TrapFrame.ofBytes f.toBytes = f ∧
    (TrapFrame.ofBytes (List.replicate 68 7)).toBytes = List.replicate 68 7 ∧
    (FaultFrame.ofBytes (List.replicate 52 7)).toBytes = List.replicate 52 7 := by
  let f : TrapFrame :=
    { regs := ⟨1, 2, 3, 4, 5, 6, 7, 8⟩, es := 9, ds := 10, trapno := 11, err := 12, eip := 0x800020
      cs := 13, eflags := 0x3046, esp := 14, ss := 15 }
  let g := Kernel.callFrame (.initial 7) (.setFrame (ProcessId.self.next 1) ⟨0x800FE0⟩)
  have hboot : Reachable { maxProcesses := 2 } 32 _ := .boot rfl (.refl _) rfl
  obtain ⟨k, hreach, hspace, hwrite, hspace', hcur, hlive, hchild, hzero⟩ : ∃ k : Kernel,
      Reachable { maxProcesses := 2 } 32 k ∧ k.spaceOf? (ProcessId.self.next 0) = some 1 ∧
      (k.machine.userWrite 1 ⟨0x800FE0⟩ f.toBytes).1 = .ok () ∧
      ((Operation.store 1 ⟨0x800FE0⟩ f.toBytes).apply k).spaceOf? (ProcessId.self.next 0) = some 1 ∧
      ((Operation.store 1 ⟨0x800FE0⟩ f.toBytes).apply k).current? 0 = some (ProcessId.self.next 0) ∧
      (((Operation.store 1 ⟨0x800FE0⟩ f.toBytes).apply k).live? (ProcessId.self.next 0)).isSome ∧
      ((Operation.store 1 ⟨0x800FE0⟩ f.toBytes).apply k).resolve (ProcessId.self.next 0)
        (ProcessId.self.next 1) true = .ok (ProcessId.self.next 1) ∧
      ((((Operation.store 1 ⟨0x800FE0⟩ f.toBytes).apply k).trap 0 g).2.live?
        (ProcessId.self.next 0)).map (·.frame.regs.eax) = some 0 :=
    ⟨_, ((hboot.step (.spawn ⟨⟨0x800000⟩, [.readWrite ⟨0x800000⟩ [] 0x2000]⟩) trivial).step
      (.schedule 0) rfl).step (.trap 0 (Kernel.callFrame (.initial 7) .exofork)) trivial,
      by decide +kernel, by decide +kernel, by decide +kernel, by decide +kernel, by decide +kernel,
      by decide +kernel, by decide +kernel⟩
  obtain ⟨p', hp', heax⟩ := Option.map_eq_some_iff.1 hzero
  obtain ⟨hread, hbytes, -, hfault, hset⟩ := @frames_survive { maxProcesses := 2 } 32
  obtain ⟨q', hq', htamed⟩ := hset k _ (ProcessId.self.next 0) (ProcessId.self.next 1)
    (ProcessId.self.next 1) 1 0 ⟨0x800FE0⟩ f g p' hreach hspace hwrite .refl hspace'
    (fun _ _ => rfl) hcur ⟨by decide, hlive, by decide, by decide⟩ hchild (by decide) hp' heax
  refine ⟨k, f, q', hreach, hwrite, hq', htamed, fun hsame => ?_, (hread f).2, hbytes _ rfl,
    hfault _ rfl⟩
  have hcs : (0x1B : UInt32) = 13 :=
    (congrArg TrapFrame.cs htamed.registers).symm.trans (congrArg TrapFrame.cs hsame)
  exact absurd hcs (by decide)

end Exokernel
