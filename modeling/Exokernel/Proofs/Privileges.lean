/-
The registers that processes run with.

* `TrapFrame.UserSafe`: the selectors of user code, interrupts enabled, and no input and output;
* `TrapFrame.Kept`: what the kernel keeps true of the registers that it saves;
* `Kernel.Frames`, `Operation.frames`: **what is kept of registers**, holds of every live process;
* `Booted`: the states in which runs begin;
* `frames_unprivileged`: **nobody gains a privilege by saved registers**.
-/
import Exokernel.Proofs.Alterations
import Exokernel.Proofs.Pauses

namespace Exokernel

namespace TrapFrame

/-! ### Registers -/

/-- Registers that user code may run with: user selectors, interrupts enabled, and no input and
output of its own. -/
structure UserSafe (f : TrapFrame) : Prop where
  cs : f.cs = Selector.userText ||| Selector.userLevel
  ds : f.ds = Selector.userData ||| Selector.userLevel
  es : f.es = Selector.userData ||| Selector.userLevel
  ss : f.ss = Selector.userData ||| Selector.userLevel
  interrupts : f.eflags &&& Flag.interrupt ≠ 0
  noIo : f.eflags &&& Flag.ioPrivilege = 0

/-- **A property of registers that the kernel keeps**: fresh registers have it, and so have those
that user code may choose; an answer and another place to go on do not harm it. -/
structure Kept (P : TrapFrame → Prop) : Prop where
  initial : ∀ esp, P (.initial esp)
  forUser : ∀ f : TrapFrame, P f.forUser
  withResult : ∀ f value, P f → P (f.withResult value)
  redirected : ∀ (f : TrapFrame) eip esp, P f → P { f with eip, esp }

/-- Interrupts stay enabled, whatever else is set. -/
lemma or_and_self (x c : UInt32) : (x ||| c) &&& c = c := by
  apply UInt32.toBitVec_inj.1
  ext i hi
  simp only [UInt32.toBitVec_and, UInt32.toBitVec_or, BitVec.getElem_and, BitVec.getElem_or]
  cases c.toBitVec[i] <;> simp

lemma userSafe_forUser (f : TrapFrame) : f.forUser.UserSafe where
  cs := rfl
  ds := rfl
  es := rfl
  ss := rfl
  interrupts := by
    have hkeeps : ~~~Flag.ioPrivilege &&& Flag.interrupt = Flag.interrupt := by decide
    rw [forUser, UInt32.and_assoc, hkeeps, or_and_self]
    decide
  noIo := by
    have hclears : ~~~Flag.ioPrivilege &&& Flag.ioPrivilege = 0 := by decide
    rw [forUser, UInt32.and_assoc, hclears, UInt32.and_zero]

/-- **The kernel keeps registers safe.** -/
lemma kept_userSafe : Kept UserSafe where
  initial _ := ⟨rfl, rfl, rfl, rfl, (by decide : Flag.interrupt &&& Flag.interrupt ≠ 0),
    (by decide : Flag.interrupt &&& Flag.ioPrivilege = 0)⟩
  forUser := userSafe_forUser
  withResult _ _ h := ⟨h.cs, h.ds, h.es, h.ss, h.interrupts, h.noIo⟩
  redirected _ _ _ h := ⟨h.cs, h.ds, h.es, h.ss, h.interrupts, h.noIo⟩

lemma isUser_of_cs {f : TrapFrame} (h : f.cs = Selector.userText ||| Selector.userLevel) :
    f.isUser := by
  rw [isUser, h]
  decide

/-- It keeps them those of user code. -/
lemma kept_isUser : Kept fun f => f.isUser where
  initial _ := isUser_of_cs rfl
  forUser _ := isUser_of_cs rfl
  withResult _ _ h := h
  redirected _ _ _ h := h

end TrapFrame

/-! ### One operation -/

/-- The registers of every live process have a property. -/
def Kernel.Frames (P : TrapFrame → Prop) (k : Kernel) : Prop :=
  ∀ (slot : Nat) (p : Process), k.table.records[slot]? = some p → p.status.isLive → P p.frame

namespace Operation

variable {k : Kernel} {op : Operation} {slot : Nat} {p p' : Process} {P : TrapFrame → Prop}

/-- Whoever traps out of user code by an operation, has registers with a property. -/
def TrapsWith (P : TrapFrame → Prop) (op : Operation) : Prop :=
  ∀ cpu f, op = .trap cpu f → f.isUser → P f

/-- **A step of a record** keeps what the kernel keeps of registers. -/
lemma Alters.frame (h : op.Alters k slot p p') (hP : TrapFrame.Kept P) (htraps : op.TrapsWith P)
    (hp : p.status.isLive → P p.frame) (hlive : p'.status.isLive) : P p'.frame := by
  cases h with
  | saved hcur huser => exact htraps _ _ rfl huser
  | answered => exact hP.withResult _ _ (hp hlive)
  | redirected => exact hP.redirected _ _ _ (hp hlive)
  | called hcur hcalls hsaved hrec h =>
    have hbefore := hp (Kernel.live?_eq_some_iff.1 hrec).2.2
    cases h with
    | setStatus =>
      rw [Kernel.withStatus]
      split
      · exact hbefore
      · split <;> exact hbefore
    | setFrame => exact hP.forUser _
    | yield => dsimp only; split <;> exact hbefore
    | receive => exact hP.withResult _ _ hbefore
    | spared | setFaultHandler | told => exact hbefore
  | paused hcause hcur hrun hres => exact hp (by rw [hrun]; rfl)
  | givenUp => exact hp hlive
  | dispatched hready houtcome => exact hp (Kernel.isLive_of_dispatchable hready)
  | doomed | cleared => cases hlive
  | made => exact hP.initial _
  | inherits huser hissue => exact hP.withResult _ _ (htraps _ _ rfl huser)
  | loaded hheld hok hissue => exact hp (by rw [hheld]; rfl)

/-- **What the kernel keeps of registers**, every operation keeps of all live processes. -/
lemma frames (hk : k.Sound) (hP : TrapFrame.Kept P) (htraps : op.TrapsWith P)
    (hframes : k.Frames P) : (op.apply k).Frames P := fun slot _ hp' =>
  (op.course hk).induct (P := fun q => q.status.isLive → P q.frame) hp'
    (fun q hq => hframes slot q hq) fun _ _ hstep hq => hstep.frame hP htraps hq

end Operation

/-! ### Any run -/

variable {config : Config} {frames : Nat} {k k' : Kernel} {es : List Transition}
  {P : TrapFrame → Prop}

/-- At first there are no processes. -/
lemma Booted.hasFrames (h : Booted config frames k) : k.Frames P := by
  obtain ⟨k₀, order, hcreate, -, hboot⟩ := h
  intro slot p hp hlive
  rw [Kernel.record_start hcreate hboot hp] at hlive
  cases hlive

/-- What is kept of registers, a history keeps in all its states. -/
lemma History.hasFrames (h : History k es k') (hk : Reachable config frames k)
    (hP : TrapFrame.Kept P) (htraps : ∀ e ∈ es, e.op.TrapsWith P) (hframes : k.Frames P) :
    k'.Frames P :=
  h.invariant (P := fun _ k' => k'.Frames P) hk htraps hframes
    fun _ _ op hreach _ hsafe hbefore => op.frames hreach.sound hP hsafe hbefore

/-- Whom a processor is told to run, it runs with registers that are kept. -/
lemma History.told (h : History k es k') (hk : Reachable config frames k)
    (hP : TrapFrame.Kept P) (htraps : ∀ e ∈ es, e.op.TrapsWith P) (hframes : k.Frames P)
    {e : Transition} (he : e ∈ es) {id : ProcessId} {g : TrapFrame}
    (houtcome : e.outcome? = some (.user id g)) : P g := by
  obtain ⟨es₁, es₂, rfl⟩ := List.append_of_mem he
  obtain ⟨hbefore, hlegal, -⟩ := h.split
  have hreach := hbefore.reachable hk
  have hafter : e.after.Frames P := by
    refine e.op.frames hreach.sound hP (htraps e he) (hbefore.hasFrames hk hP ?_ hframes)
    exact fun e' he' => htraps e' (List.mem_append_left _ he')
  obtain ⟨p', hp', hrun, rfl⟩ := e.op.told hreach.sound hlegal houtcome
  obtain ⟨hrec, -, hlive⟩ := Kernel.live?_eq_some_iff.1 hp'
  exact hafter _ p' hrec hlive

/-- **Nobody gains a privilege by saved registers.** In any run, if user code has safe registers
whenever it traps, then whoever a processor is told to run, it runs with safe registers, whatever
processes have written and asked for; and it runs user code in any case. -/
theorem frames_unprivileged (hk : Booted config frames k) (h : History k es k') :
    ((∀ e ∈ es, ∀ cpu f, e.op = .trap cpu f → f.isUser → f.UserSafe) →
      ∀ e ∈ es, ∀ id g, e.outcome? = some (.user id g) → g.UserSafe) ∧
    ∀ e ∈ es, ∀ id g, e.outcome? = some (.user id g) → g.isUser :=
  ⟨fun htraps _ he _ _ houtcome =>
      h.told hk.reachable TrapFrame.kept_userSafe htraps hk.hasFrames he houtcome,
    fun _ he _ _ houtcome => h.told hk.reachable TrapFrame.kept_isUser
      (fun _ _ _ _ _ huser => huser) hk.hasFrames he houtcome⟩

/-- A process asks to be resumed with registers of the kernel and with input and output, which lie
in its memory. It goes on at the address that it asks for, with safe registers. -/
theorem frames_unprivileged_chosen : ∃ (k k' : Kernel) (e : Transition) (es : List Transition)
    (asked g : TrapFrame), Booted { maxProcesses := 2 } 16 k ∧ History k (es ++ [e]) k' ∧
    e.outcome? = some (.user (ProcessId.self.next 0) g) ∧ g.UserSafe ∧ ¬ asked.UserSafe ∧
    g.eip = asked.eip := by
  have hboot : Booted { maxProcesses := 2 } 16 _ := ⟨_, [0], rfl, .refl _, rfl⟩
  have hbegin : ∀ {k : Kernel}, Booted { maxProcesses := 2 } 16 k → History k [] k :=
    fun _ => .nil
  let asked : TrapFrame := { TrapFrame.kernel 0 with eflags := Flag.ioPrivilegeUser, eip := 0x1234 }
  let image : Image := ⟨⟨0x800000⟩, [.readWrite ⟨0x800000⟩ asked.toBytes 68]⟩
  have hready := ((hbegin hboot).snoc (.spawn image) trivial).snoc (.schedule 0)
    (by decide +kernel : Kernel.current? _ 0 = none)
  have hhist := hready.snoc
    (.trap 0 (Kernel.callFrame (.initial 7) (.setFrame .self ⟨0x800000⟩))) trivial
  have hlast : ∀ {k k' : Kernel} {es : List Transition} {e : Transition},
      History k (es ++ [e]) k' → e ∈ es ++ [e] :=
    fun _ => List.mem_append_right _ (List.mem_singleton.2 rfl)
  obtain ⟨hsafe, -⟩ := frames_unprivileged hboot hhist
  have hg := hsafe (fun e he cpu f hop huser => ?_) _ (hlast hhist) (ProcessId.self.next 0)
    (asked.forUser.withResult 0)
  · have hresumed := hg (by decide +kernel)
    exact ⟨_, _, _, _, asked, _, hboot, hhist, by decide +kernel, hresumed,
      fun h => absurd h.cs (by decide), rfl⟩
  · simp only [List.nil_append, List.cons_append, List.mem_cons, List.not_mem_nil, or_false] at he
    rcases he with rfl | rfl | rfl
    · cases hop
    · cases hop
    · cases hop
      exact ⟨rfl, rfl, rfl, rfl, by decide, by decide⟩

end Exokernel
