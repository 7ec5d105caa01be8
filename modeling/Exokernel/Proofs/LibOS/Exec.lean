/-
How user code runs.

* `exec_bind`, `exec_raw`, `exec_request` and their like: what running a program comes to, piece by
  piece;
* `exec_bind_ok`, `exec_request_ok`, `exec_exofork_ok`: **a program that succeeds** succeeds in its
  parts.
-/
import Mathlib.Tactic.Common
import Exokernel.LibOS.Fork

namespace Exokernel.Program

variable {σ : Type} [Host σ] {α β : Type} {s s' : σ}

omit [Host σ] in
/-- One program after the other. -/
lemma exec_bind (p : Program σ α) (f : α → Program σ β) (s : σ) :
    (p >>= f).exec s = match p.exec s with
      | (.error e, s) => (.error e, s)
      | (.ok a, s) => (f a).exec s := by
  simp only [exec, ExceptT.run, bind, ExceptT.bind, ExceptT.mk, StateT.run, StateT.bind]
  rcases p s with ⟨_ | a, s'⟩ <;> rfl

omit [Host σ] in
/-- **A program that succeeds** succeeds in both its parts. -/
lemma exec_bind_ok {p : Program σ α} {f : α → Program σ β} {b : β}
    (h : (p >>= f).exec s = (.ok b, s')) :
    ∃ a s₁, p.exec s = (.ok a, s₁) ∧ (f a).exec s₁ = (.ok b, s') := by
  rw [exec_bind] at h
  rcases hp : p.exec s with ⟨_ | a, s₁⟩
  · rw [hp] at h
    cases h
  · rw [hp] at h
    exact ⟨a, s₁, rfl, h⟩

omit [Host σ] in
/-- What comes of the first part of a program decides whether there is a second. -/
lemma exec_bind_cases {p : Program σ α} {f : α → Program σ β} {r : Except LibError β}
    (h : (p >>= f).exec s = (r, s')) : ∃ r₁ s₁, p.exec s = (r₁, s₁) ∧
      ((∃ e, r₁ = .error e ∧ r = .error e ∧ s' = s₁) ∨
        ∃ a, r₁ = .ok a ∧ (f a).exec s₁ = (r, s')) := by
  rw [exec_bind] at h
  rcases hp : p.exec s with ⟨e | a, s₁⟩
  · rw [hp] at h
    cases h
    exact ⟨_, _, rfl, .inl ⟨e, rfl, rfl, rfl⟩⟩
  · rw [hp] at h
    exact ⟨_, _, rfl, .inr ⟨a, rfl, h⟩⟩

@[simp] lemma exec_raw (c : Syscall) (s : σ) :
    (raw c : Program σ Int32).exec s = (.ok (Host.trap c s).1, (Host.trap c s).2) := rfl

@[simp] lemma exec_perm? (va : VirtAddr) (s : σ) :
    (perm? va : Program σ (Option Perm)).exec s = (.ok (Host.perm? s va), s) := rfl

@[simp] lemma exec_handlerEntry (s : σ) :
    (handlerEntry : Program σ VirtAddr).exec s = (.ok (Host.handlerEntry s), s) := rfl

/-- A system call whose answer is no more than that it succeeded. -/
lemma exec_request (c : Syscall) (s : σ) :
    (request c : Program σ Unit).exec s = match decodeResult (Host.trap c s).1 with
      | .ok _ => (.ok (), (Host.trap c s).2)
      | .error e => (.error (.kernel e), (Host.trap c s).2) := by
  rw [request, exec_bind, ask, exec_bind, exec_raw]
  dsimp only
  cases decodeResult (Host.trap c s).1 <;> rfl

/-- A system call that succeeds was answered with a success. -/
lemma exec_request_ok {c : Syscall} (h : (request c : Program σ Unit).exec s = (.ok (), s')) :
    ∃ answer v, Host.trap c s = (answer, s') ∧ decodeResult answer = .ok v := by
  rw [exec_request] at h
  cases hv : decodeResult (Host.trap c s).1 with
  | error e =>
    rw [hv] at h
    cases h
  | ok v =>
    rw [hv] at h
    cases h
    exact ⟨_, v, rfl, hv⟩

/-- An exofork finds itself where its answer says. -/
lemma exec_exofork (s : σ) : (exofork : Program σ Fork).exec s =
    ((Fork.ofAnswer (Host.trap .exofork s).1).mapError LibError.kernel,
      (Host.trap .exofork s).2) := by
  rw [exofork, exec_bind, exec_raw]
  dsimp only
  cases Fork.ofAnswer (Host.trap .exofork s).1 <;> rfl

/-- **An exofork that finds itself in the parent** was answered with the identity of the child. -/
lemma exec_exofork_ok {child : ProcessId}
    (h : (exofork : Program σ Fork).exec s = (.ok (.parent child), s')) :
    ∃ answer, Host.trap .exofork s = (answer, s') ∧ decodeResult answer = .ok child.raw ∧
      child.isSelf = false := by
  rw [exec_exofork, Prod.mk.injEq] at h
  obtain ⟨hside, rfl⟩ := h
  rw [Fork.ofAnswer] at hside
  cases hdecode : decodeResult (Host.trap .exofork s).1 with
  | error e =>
    rw [hdecode] at hside
    cases hside
  | ok w =>
    rw [hdecode, Except.mapError, Except.ok.injEq] at hside
    split at hside
    · cases hside
    · next hw =>
      cases hside
      exact ⟨_, rfl, hdecode, decide_eq_false fun hself => hw (congrArg ProcessId.raw hself)⟩

end Exokernel.Program
