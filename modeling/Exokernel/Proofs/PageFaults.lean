/-
Page faults of a process, one inside another.

* `TakesFault.resumed_iff`: a process goes on after its fault if and only if it can be told;
* `FaultChain`: the frames that are pending on an exception stack while a process, which handles a
  fault, takes further ones;
* `FaultChain.pending`: **they are all there**, each below those before it;
* `page_fault_reflected`: **a process is told of its page fault, or destroyed**, and no fault costs
  it a frame that is pending.
-/
import Exokernel.Proofs.Kernel.Reflection

namespace Exokernel

open Layout

variable {config : Config} {frames : Nat} {k k' : Kernel} {id : ProcessId} {p : Process}
  {cpu s : Nat} {f g : TrapFrame} {w w' : PendingFrame} {ws : List PendingFrame}

/-! ### One fault -/

namespace Kernel.TakesFault

/-- A process has an address space. -/
lemma space (h : k.TakesFault cpu id p f) (hk : k.Sound) : ∃ s, p.space = some s := by
  obtain ⟨hrec, -, hlive⟩ := live?_eq_some_iff.1 h.live
  exact Option.isSome_iff_exists.1
    ((hk.tables.sound _ p hrec).space_iff.2 (ProcessStatus.ne_free_of_isLive hlive))

/-- **A process goes on after its fault** if and only if it can be told. -/
lemma resumed_iff (h : k.TakesFault cpu id p f) (hk : Reachable config frames k)
    (hs : p.space = some s) :
    (∃ g, (k.trap cpu f).1 = .user id g) ↔ p.Tellable k.machine s f.esp := by
  constructor
  · rintro ⟨g, hg⟩
    by_contra hnot
    obtain ⟨q, hq, -⟩ := (trap_tells hk.sound).user id g hg
    cases (h.ended hk hs hnot).1.gone.symm.trans hq
  · intro htell
    obtain ⟨entry, plan, -, -, hresumed, -⟩ := h.told hk hs htell
    exact ⟨_, hresumed⟩

/-- What a process goes on with after its fault, it was told. -/
lemma told_of_user (h : k.TakesFault cpu id p f) (hk : Reachable config frames k)
    (hs : p.space = some s) (hg : k.trap cpu f = (.user id g, k')) :
    k.Told s f (k.pendingFrame cpu f g) k' ∧
      ∃ plan, UpcallPlan.ofStackPointer f.esp = .ok plan ∧ g.esp = plan.frameVa.word := by
  have htell := (h.resumed_iff hk hs).1 ⟨g, congrArg Prod.fst hg⟩
  obtain ⟨entry, plan, -, hplan, hresumed, htold, -⟩ := h.told hk hs htell
  rw [hg] at hresumed htold
  cases hresumed
  exact ⟨htold, plan, hplan, rfl⟩

end Kernel.TakesFault

/-- Whoever goes on after a trap may take a page fault next. -/
lemma Kernel.takesFault_of_user (hk : k.Sound) (hg : (k.trap cpu f).1 = .user id g)
    (hs : (k.trap cpu f).2.spaceOf? id = some s) (next : TrapFrame) (huser : next.isUser)
    (err : UInt32) : ∃ p, (k.trap cpu f).2.TakesFault cpu id p (UserContext.faultFrame next err) ∧
      p.space = some s := by
  obtain ⟨p, hp, hrun, hres, -⟩ := (Kernel.trap_tells hk).user id g hg
  obtain ⟨q, hq, hspace⟩ := Kernel.spaceOf?_eq_some_iff.1 hs
  cases hp.symm.trans hq
  exact ⟨p, ⟨hp, hrun, hres, huser, rfl⟩, hspace⟩

/-- Telling a process of a fault that it took on its exception stack changes no byte above. -/
lemma Kernel.Told.byte? (h : k.Told s f w k') (hlow : exceptionStackBottom ≤ f.esp.toNat)
    (hhigh : f.esp.toNat < exceptionStackTop) {a : Nat} (ha : f.esp.toNat ≤ a)
    (htop : a < exceptionStackTop) : k'.machine.byte? s a = k.machine.byte? s a := by
  have hcount : exceptionStackTop < addressCount := by decide
  have hnat : (VirtAddr.ofNat a).toNat = a := VirtAddr.toNat_ofNat_of_lt (Nat.lt_trans htop hcount)
  have hlt : (VirtAddr.ofNat a).toNat < userTop := by rwa [hnat]
  have habove := h.above hlow hhigh s (.ofNat a) (by omega)
  rwa [Machine.shownByte?_of_lt hlt, Machine.shownByte?_of_lt hlt, hnat] at habove

/-! ### Faults inside faults -/

/-- One frame lies below another, with the word between them by which the handler returns. -/
def PendingFrame.Below (w w' : PendingFrame) : Prop :=
  w.va.toNat + FaultFrame.size + UpcallPlan.nestedGap ≤ w'.va.toNat

lemma PendingFrame.Below.le (h : w.Below w') : w.va.toNat ≤ w'.va.toNat := by
  rw [Below] at h
  omega

lemma PendingFrame.Below.trans {w₀ : PendingFrame} (h : w₀.Below w) (h' : w.Below w') :
    w₀.Below w' := by
  rw [Below] at h h' ⊢
  omega

lemma PendingFrame.OnStack.lt (h : w.OnStack) : w.va.toNat < exceptionStackTop := by
  have hsize : 0 < FaultFrame.size := by decide
  exact Nat.lt_of_lt_of_le (Nat.lt_add_of_pos_right hsize) h.2

/-- The frame of a fault that is taken on the exception stack ends a word below the stack pointer,
and so below every frame above that. -/
lemma Kernel.TakesFault.below (h : k.TakesFault cpu id p f) (hk : Reachable config frames k)
    (hs : p.space = some s) (htold : k.trap cpu f = (.user id g, k'))
    (hlow : exceptionStackBottom ≤ f.esp.toNat) (hhigh : f.esp.toNat < exceptionStackTop)
    (hle : f.esp.toNat ≤ w.va.toNat) : (k.pendingFrame cpu f g).Below w := by
  obtain ⟨-, plan, hplan, hesp⟩ := h.told_of_user hk hs htold
  rw [PendingFrame.Below, Kernel.pendingFrame, hesp]
  calc plan.frameVa.toNat + FaultFrame.size + UpcallPlan.nestedGap
      = f.esp.toNat := UpcallPlan.frameVa_nested hplan hlow hhigh
    _ ≤ w.va.toNat := hle

/-- The last one of frames that lie below one another is the lowest. -/
lemma PendingFrame.le_of_mem (h : (w :: ws).Pairwise PendingFrame.Below) (hw' : w' ∈ w :: ws) :
    w.va.toNat ≤ w'.va.toNat := by
  rcases List.mem_cons.1 hw' with rfl | hw'
  · exact Nat.le_refl _
  · exact (List.rel_of_pairwise_cons h hw').le

/-- **The frames that are pending** on the exception stack of process `id`, the last one first. The
process is told of a fault. While it handles that, anything may happen that leaves the exception
stack alone from the frame up; it may take another fault, with a stack pointer at or below the
frame, and is told of that; and when it has handled one, it goes back to the one before. -/
inductive FaultChain (config : Config) (frames : Nat) (id : ProcessId) (s : Nat) :
    List PendingFrame → Kernel → Prop where
  | first {k k' : Kernel} {cpu : Nat} {p : Process} {f g : TrapFrame}
      (hk : Reachable config frames k) (hfault : k.TakesFault cpu id p f) (hs : p.space = some s)
      (htold : k.trap cpu f = (.user id g, k')) :
      FaultChain config frames id s [k.pendingFrame cpu f g] k'
  | runs {k k' : Kernel} {w : PendingFrame} {ws : List PendingFrame}
      (h : FaultChain config frames id s (w :: ws) k) (hrun : Run (fun _ _ => True) k k')
      (hkept : ∀ a, w.va.toNat ≤ a → a < exceptionStackTop →
        k'.machine.byte? s a = k.machine.byte? s a) :
      FaultChain config frames id s (w :: ws) k'
  | nested {k k' : Kernel} {cpu : Nat} {p : Process} {f g : TrapFrame} {w : PendingFrame}
      {ws : List PendingFrame} (h : FaultChain config frames id s (w :: ws) k)
      (hfault : k.TakesFault cpu id p f) (hs : p.space = some s)
      (hlow : exceptionStackBottom ≤ f.esp.toNat) (hbelow : f.esp.toNat ≤ w.va.toNat)
      (htold : k.trap cpu f = (.user id g, k')) :
      FaultChain config frames id s (k.pendingFrame cpu f g :: w :: ws) k'
  | returns {k : Kernel} {w w' : PendingFrame} {ws : List PendingFrame}
      (h : FaultChain config frames id s (w :: w' :: ws) k) :
      FaultChain config frames id s (w' :: ws) k

namespace FaultChain

lemma reachable (h : FaultChain config frames id s ws k) : Reachable config frames k := by
  have hstep : ∀ {k k' : Kernel} {cpu : Nat} {f g : TrapFrame}, Reachable config frames k →
      k.trap cpu f = (.user id g, k') → Reachable config frames k' := by
    intro k k' cpu f g hk htold
    have hreach : Reachable config frames (k.trap cpu f).2 := hk.step (.trap cpu f) trivial
    rwa [htold] at hreach
  induction h with
  | first hk _ _ htold => exact hstep hk htold
  | runs _ hrun _ ih => exact hrun.reachable ih
  | nested _ _ _ _ _ htold ih => exact hstep ih htold
  | returns _ ih => exact ih

/-- **The pending frames lie apart**, each below those before it, **and they are all there.** -/
lemma pending (h : FaultChain config frames id s ws k) :
    ws.Pairwise PendingFrame.Below ∧ ∀ w ∈ ws, w.Shown k.machine s := by
  induction h with
  | first hk hfault hs htold =>
    obtain ⟨hframe, -⟩ := hfault.told_of_user hk hs htold
    refine ⟨List.pairwise_singleton _ _, fun w hw => ?_⟩
    rw [List.mem_singleton.1 hw]
    exact hframe.frame.shown (FaultChain.first hk hfault hs htold).reachable.sound.accounted
  | runs _ _ hkept ih =>
    obtain ⟨hbelow, hshown⟩ := ih
    exact ⟨hbelow, fun w' hw' => (hshown w' hw').congr fun a ha htop =>
      hkept a (Nat.le_trans (PendingFrame.le_of_mem hbelow hw') ha) htop⟩
  | @nested k k' cpu p f g w ws h hfault hs hlow hle htold ih =>
    obtain ⟨hbelow, hshown⟩ := ih
    have hreach := (FaultChain.nested h hfault hs hlow hle htold).reachable
    obtain ⟨hframe, -⟩ := hfault.told_of_user h.reachable hs htold
    have hhigh := Nat.lt_of_le_of_lt hle (hshown w List.mem_cons_self).onStack.lt
    have hnew := hfault.below h.reachable hs htold hlow hhigh hle
    refine ⟨List.pairwise_cons.2 ⟨fun w' hw' => ?_, hbelow⟩, fun w' hw' => ?_⟩
    · rcases List.mem_cons.1 hw' with rfl | hw'
      · exact hnew
      · exact hnew.trans (List.rel_of_pairwise_cons hbelow hw')
    · rcases List.mem_cons.1 hw' with rfl | hw'
      · exact hframe.frame.shown hreach.sound.accounted
      · refine (hshown w' hw').congr fun a ha htop => hframe.byte? hlow hhigh ?_ htop
        calc f.esp.toNat ≤ w.va.toNat := hle
          _ ≤ w'.va.toNat := PendingFrame.le_of_mem hbelow hw'
          _ ≤ a := ha
  | returns _ ih =>
    obtain ⟨hbelow, hshown⟩ := ih
    exact ⟨hbelow.of_cons, fun w hw => hshown w (List.mem_cons_of_mem _ hw)⟩

end FaultChain

/-- **Page faults are reflected, or end the process.** A process that takes a page fault on the
processor that runs it goes on if and only if it can be told of it. Then it goes on at its handler,
with the other registers that it had, and with the stack pointer at a frame on the page of its
exception stack, from which it reads its registers and the address of the fault. No other byte of
memory changes, nor any page, and if the fault was taken on the exception stack, nothing at or above
the word below the stack pointer. Otherwise the process is gone, and one event tells why. So, while
a process handles faults by taking others, all frames that are pending lie apart and are read
back. -/
theorem page_fault_reflected (h : Reachable config frames k) :
    (∀ cpu id p f, k.TakesFault cpu id p f → ∃ s, p.space = some s ∧
      ((∃ g, (k.trap cpu f).1 = .user id g) ↔ p.Tellable k.machine s f.esp) ∧
      (p.Tellable k.machine s f.esp → ∃ entry plan, p.faultHandler = some entry ∧
        UpcallPlan.ofStackPointer f.esp = .ok plan ∧
        (k.trap cpu f).1 = .user id { f with eip := entry.word, esp := plan.frameVa.word } ∧
        k.Told s f ⟨plan.frameVa, .ofTrap f (k.machine.faultAddress cpu).word⟩ (k.trap cpu f).2 ∧
        (k.trap cpu f).2.auditLog = k.auditLog) ∧
      (¬ p.Tellable k.machine s f.esp → (k.trap cpu f).2.Cleared id s ∧
        (k.trap cpu f).2.auditLog = k.auditLog.record id.raw
          (.terminated (.pageFault (k.machine.faultAddress cpu).word f.eip)) k.machine.millis)) ∧
    ∀ id s ws, FaultChain config frames id s ws k →
      ws.Pairwise PendingFrame.Below ∧ ∀ w ∈ ws, w.Intact k.machine s := by
  refine ⟨fun cpu id p f hfault => ?_, fun id s ws hchain => ?_⟩
  · obtain ⟨s, hs⟩ := hfault.space h.sound
    exact ⟨s, hs, hfault.resumed_iff h hs, hfault.told h hs, hfault.ended h hs⟩
  · obtain ⟨hbelow, hshown⟩ := hchain.pending
    exact ⟨hbelow, fun w hw => (hshown w hw).intact h.sound.accounted h.permitted⟩

/-- A process is told of a fault, takes another one at the frame and is told of that too, which
leaves both frames to be read; and with 55 bytes left, it is destroyed. -/
theorem page_fault_reflected_nested : ∃ (k k₁ k₂ : Kernel) (f₁ f₂ f₃ g₁ g₂ : TrapFrame)
    (w₁ w₂ : PendingFrame), Reachable { maxProcesses := 2 } 16 k ∧
    k.trap 0 f₁ = (.user (ProcessId.self.next 0) g₁, k₁) ∧
    k₁.trap 0 f₂ = (.user (ProcessId.self.next 0) g₂, k₂) ∧
    f₁.esp = 0 ∧ w₁ = k.pendingFrame 0 f₁ g₁ ∧ w₁.va = ⟨0xEEBFFFCC⟩ ∧
    f₂.esp = 0xEEBFFFCC ∧ w₂ = k₁.pendingFrame 0 f₂ g₂ ∧ w₂.va = ⟨0xEEBFFF94⟩ ∧
    w₂.Below w₁ ∧ w₁.Intact k₂.machine 1 ∧ w₂.Intact k₂.machine 1 ∧
    f₃.esp = 0xEEBFF037 ∧ (k₂.trap 0 f₃).2.Cleared (ProcessId.self.next 0) 1 := by
  -- what has to be evaluated: how the process goes on, and with what address space
  let id := ProcessId.self.next 0
  let f₁ := UserContext.faultFrame (.initial 0) FaultCode.user
  let f₂ := UserContext.faultFrame (.initial 0xEEBFFFCC) FaultCode.write
  obtain ⟨k₀, f₀, hk₀, ⟨g₀, hg₀⟩, hs₀, ⟨g₁, hg₁, hesp₁⟩, hs₁, ⟨g₂, hg₂, hesp₂⟩, hs₂⟩ :
      ∃ (k₀ : Kernel) (f₀ : TrapFrame), Reachable { maxProcesses := 2 } 16 k₀ ∧
      (∃ g₀, (k₀.trap 0 f₀).1 = .user id g₀) ∧
      (k₀.trap 0 f₀).2.spaceOf? id = some 1 ∧
      (∃ g, ((k₀.trap 0 f₀).2.trap 0 f₁).1 = .user id g ∧ g.esp = 0xEEBFFFCC) ∧
      ((k₀.trap 0 f₀).2.trap 0 f₁).2.spaceOf? id = some 1 ∧
      (∃ g, (((k₀.trap 0 f₀).2.trap 0 f₁).2.trap 0 f₂).1 = .user id g ∧ g.esp = 0xEEBFFF94) ∧
      (((k₀.trap 0 f₀).2.trap 0 f₁).2.trap 0 f₂).2.spaceOf? id = some 1 := by
    have hboot : Reachable { maxProcesses := 2 } 16 _ := .boot rfl (.refl _) rfl
    have hspawn := (hboot.step (.spawn ⟨⟨0⟩, []⟩) trivial).step (.schedule 0) rfl
    have hset := hspawn.step (.trap 0 (Kernel.callFrame (.initial 0)
      (.setFaultHandler .self (.ofNat stackPage)))) trivial
    exact ⟨_, Kernel.callFrame (.initial 0)
      (.pageAlloc .self (.ofNat exceptionStackBottom) .userWrite), hset, ⟨_, rfl⟩,
      by decide +kernel,
      ⟨{ f₁ with eip := (VirtAddr.ofNat stackPage).word, esp := 0xEEBFFFCC },
        by decide +kernel, rfl⟩,
      by decide +kernel,
      ⟨{ f₂ with eip := (VirtAddr.ofNat stackPage).word, esp := 0xEEBFFF94 },
        by decide +kernel, rfl⟩,
      by decide +kernel⟩
  have hpair : ∀ {r : Resume × Kernel} {g : TrapFrame}, r.1 = .user id g → r = (.user id g, r.2) :=
    fun hr => Prod.ext hr rfl
  have hk := hk₀.step (.trap 0 f₀) trivial
  have hk₁ := hk.step (.trap 0 f₁) trivial
  have hk₂ := hk₁.step (.trap 0 f₂) trivial
  obtain ⟨p, hfault, hs⟩ :=
    Kernel.takesFault_of_user hk₀.sound hg₀ hs₀ (.initial 0) rfl FaultCode.user
  obtain ⟨p₁, hfault₁, hsame₁⟩ :=
    Kernel.takesFault_of_user hk.sound hg₁ hs₁ (.initial 0xEEBFFFCC) rfl FaultCode.write
  obtain ⟨p₂, hfault₂, hsame₂⟩ :=
    Kernel.takesFault_of_user hk₁.sound hg₂ hs₂ (.initial 0xEEBFF037) rfl FaultCode.write
  have hle : f₂.esp.toNat ≤ g₁.esp.toNat := by
    rw [hesp₁]
    decide
  have hchain := (FaultChain.first hk hfault hs (hpair hg₁)).nested hfault₁ hsame₁ (by decide) hle
    (hpair hg₂)
  obtain ⟨hbelow, hintact⟩ := (page_fault_reflected hk₂).2 id 1 _ hchain
  -- the third fault leaves no room
  obtain ⟨s, hs₂', -, -, hended⟩ := (page_fault_reflected hk₂).1 0 id p₂ _ hfault₂
  rw [hsame₂, Option.some.injEq] at hs₂'
  subst hs₂'
  have hfull : ¬ UpcallPlan.Fits 0xEEBFF037 := fun h => h (by decide)
  exact ⟨_, _, _, f₁, f₂, _, _, _, _, _, hk, hpair hg₁, hpair hg₂, rfl, rfl,
    congrArg VirtAddr.mk hesp₁, rfl, rfl, congrArg VirtAddr.mk hesp₂,
    List.rel_of_pairwise_cons hbelow List.mem_cons_self,
    hintact _ (List.mem_cons_of_mem _ List.mem_cons_self), hintact _ List.mem_cons_self, rfl,
    (hended fun htell => hfull htell.room).1⟩

end Exokernel
