/-
Requests of user code on the bench.

* `UserContext.Placed`: a process on its processor, with its address space;
* `UserContext.KeepsSpace`: calls after which the caller has the address space that it had;
* `Placed.request`: **a request that succeeds** was carried out, and the process runs on;
* `UserContext.request_awake`: a process that runs is answered at once, whatever the answer is.
-/
import Exokernel.Proofs.Bench.Calls
import Exokernel.Proofs.Kernel.Requests
import Exokernel.Proofs.LibOS.Exec

namespace Exokernel.UserContext

open Bench Kernel

variable {config : Config} {frames cpu s : Nat} {id : ProcessId} {u u' : UserContext}
  {c : Syscall} {f : TrapFrame} {answer : Int32} {v : UInt32}

/-- A call that succeeds leaves its caller in the address space that it had. -/
def KeepsSpace (cpu : Nat) (id : ProcessId) (c : Syscall) : Prop :=
  ∀ {k k' : Kernel} {v : UInt32} {s : Nat}, k.Sound → (k.live? id).isSome →
    k.execute cpu id c = (.answer (.ok v), k') → k'.spaceOf? id = some s → k.spaceOf? id = some s

/-- **A process on its processor**, with its address space, on a bench in a reachable state. -/
structure Placed (config : Config) (frames cpu : Nat) (id : ProcessId) (s : Nat)
    (u : UserContext) : Prop where
  reachable : u.bed.Reachable config frames
  cpu_eq : u.cpu = cpu
  process_eq : u.process = id
  occupant : ∃ f, u.bed.occupant? cpu = some ⟨id, f⟩
  space : u.bed.kernel.spaceOf? id = some s

lemma Placed.sound (h : u.Placed config frames cpu id s) : u.bed.kernel.Sound :=
  h.reachable.sound

/-- **A call that is answered with a success** was carried out, and its caller runs on. -/
lemma Placed.trap (h : u.Placed config frames cpu id s) (hc : Syscall.decode c.encode = .ok c)
    (hanswers : Answers cpu id c) (hkeeps : KeepsSpace cpu id c)
    (htrap : u.trap c = (answer, u')) (hok : decodeResult answer = .ok v) :
    u'.Placed config frames cpu id s ∧ ∃ k₁ k₂,
      u.bed.kernel.Carried cpu id c k₁ (.ok v) k₂ u'.bed.kernel := by
  obtain ⟨hreach, rfl, rfl, ⟨f, ho⟩, hs⟩ := h
  obtain ⟨k₁, k₂, f', hsaved, hsound, hlive, hexec, hdrifts, hcpu, hprocess, hawake⟩ :=
    trap_ok hreach.sound (hreach.sync ho) ho hc hanswers htrap hok
  obtain ⟨p, hp, -⟩ := spaceOf?_eq_some_iff.1 hs
  have hcarried : u.bed.kernel.Carried u.cpu u.process c k₁ (.ok v) k₂ u'.bed.kernel :=
    ⟨hsaved.drifts hp, hsound, hlive, hexec, hdrifts⟩
  have hreach' : u'.bed.Reachable config frames := by
    have huser := hreach.userTrap c
    rwa [htrap] at huser
  obtain ⟨q, hq, -⟩ := hawake.runs
  obtain ⟨s', hs'⟩ := spaceOf?_of_live? hreach'.sound hq
  have hbefore := hkeeps hsound hlive hexec (hdrifts.living _ s' hs')
  rw [hcarried.spaceOf? hs] at hbefore
  cases hbefore
  exact ⟨⟨hreach', hcpu, hprocess, ⟨f', hawake.occupant⟩, hs'⟩, k₁, k₂, hcarried⟩

/-- **A request that succeeds** was carried out, and the process runs on. -/
lemma Placed.request (h : u.Placed config frames cpu id s) (hc : Syscall.decode c.encode = .ok c)
    (hanswers : Answers cpu id c) (hkeeps : KeepsSpace cpu id c)
    (hexec : (Program.request c).exec u = (.ok (), u')) :
    u'.Placed config frames cpu id s ∧ ∃ k₁ v k₂,
      u.bed.kernel.Carried cpu id c k₁ (.ok v) k₂ u'.bed.kernel := by
  obtain ⟨answer, v, htrap, hok⟩ := Program.exec_request_ok hexec
  obtain ⟨hplaced, k₁, k₂, hcarried⟩ := h.trap hc hanswers hkeeps htrap hok
  exact ⟨hplaced, k₁, v, k₂, hcarried⟩

/-- So is one that leaves the process table alone. -/
lemma Placed.request_leavesTable (h : u.Placed config frames cpu id s)
    (hc : Syscall.decode c.encode = .ok c) (htable : LeavesTable cpu id c)
    (hexec : (Program.request c).exec u = (.ok (), u')) :
    u'.Placed config frames cpu id s ∧ ∃ k₁ v k₂,
      u.bed.kernel.Carried cpu id c k₁ (.ok v) k₂ u'.bed.kernel := by
  refine h.request hc htable.answers (fun {k k' v s'} _ _ hexec hs => ?_) hexec
  obtain ⟨result, k₂, hexec', hsame⟩ := htable k
  rw [hexec] at hexec'
  cases hexec'
  rwa [spaceOf?, live?, hsame] at hs

/-- Who is answered with a success, is live. -/
lemma live_of_request (hreach : u.bed.Reachable config frames)
    (ho : u.bed.occupant? u.cpu = some ⟨u.process, f⟩) (hc : Syscall.decode c.encode = .ok c)
    (hanswers : Answers u.cpu u.process c)
    (hexec : (Program.request c).exec u = (.ok (), u')) :
    (u.bed.kernel.live? u.process).isSome := by
  obtain ⟨answer, v, htrap, hok⟩ := Program.exec_request_ok hexec
  obtain ⟨k₁, k₂, f', hsaved, -, hlive, -⟩ :=
    trap_ok hreach.sound (hreach.sync ho) ho hc hanswers htrap hok
  have hfind : k₁.live? u.process = (u.bed.kernel.live? u.process).map _ :=
    hsaved.find? u.process
  rwa [hfind, Option.isSome_map] at hlive

/-- A request that leaves memory alone. -/
lemma Placed.request_drifts (h : u.Placed config frames cpu id s)
    (hc : Syscall.decode c.encode = .ok c) (hanswers : Answers cpu id c)
    (hdrifts : ∀ {k k' : Kernel} {result : Except KernelError UInt32},
      k.execute cpu id c = (.answer result, k') → k.Drifts k')
    (hexec : (Program.request c).exec u = (.ok (), u')) :
    u'.Placed config frames cpu id s ∧ u.bed.kernel.Drifts u'.bed.kernel := by
  obtain ⟨hplaced, k₁, v, k₂, hcarried⟩ := h.request hc hanswers
    (fun _ _ hexec => (hdrifts hexec).living id _) hexec
  exact ⟨hplaced, hcarried.before.trans ((hdrifts hcarried.executed).trans hcarried.after)⟩

/-- **A process that runs** and makes a call that leaves the process table alone is answered at once
and runs on, whatever the answer is. -/
lemma request_awake (hk : u.bed.kernel.Sound) (h : u.bed.Awake u.cpu u.process f)
    (hc : Syscall.decode c.encode = .ok c) (htable : LeavesTable u.cpu u.process c)
    {result : Except LibError Unit} (hexec : (Program.request c).exec u = (result, u')) :
    ∃ k₁ answered k₂ f', u.bed.kernel.Carried u.cpu u.process c k₁ answered k₂ u'.bed.kernel ∧
      (result = .ok () → ∃ v, answered = .ok v) ∧ u'.cpu = u.cpu ∧ u'.process = u.process ∧
      u'.bed.Awake u.cpu u.process f' := by
  obtain ⟨k₁, answered, k₂, bed, f', hans, hcall, hkernel, hawake⟩ := h.call_returned hk hc htable
  obtain ⟨p, hp, -⟩ := h.runs
  have htrap : u.trap c = (encodeResult answered, { u with bed }) := by
    rw [trap, hcall]
  have hcarried : u.bed.kernel.Carried u.cpu u.process c k₁ answered k₂ bed.kernel := by
    refine ⟨hans.saved.drifts hp, hans.sound, ?_, hans.executed, hkernel ▸ hans.drifts⟩
    rw [hans.saved.live? hp]
    rfl
  have hhost : (Host.trap c u : Int32 × UserContext) = (encodeResult answered, { u with bed }) :=
    htrap
  rw [Program.exec_request, hhost] at hexec
  dsimp only at hexec
  cases hdecode : decodeResult (encodeResult answered) with
  | error e =>
    rw [hdecode] at hexec
    cases hexec
    exact ⟨k₁, answered, k₂, f', hcarried, by rintro ⟨⟩, rfl, rfl, hawake⟩
  | ok v =>
    rw [hdecode] at hexec
    cases hexec
    exact ⟨k₁, answered, k₂, f', hcarried, fun _ => ⟨v, ok_of_decodeResult hdecode⟩, rfl, rfl,
      hawake⟩

end Exokernel.UserContext
