/-
Sends that are tried again.

* `attemptSend_error`, `exec_sendWithin`: what one attempt comes to, and what is left then;
* `sendWithin_of_le`: **more attempts change nothing** once a send has ended;
* `sends_iff`: **a send without bound ends as one with a bound does** that is high enough;
* `Sends.unique`, `not_sends_iff`: so it ends in one way at most, and in none if every bound is too
  low.
-/
import Exokernel.LibOS.Messages
import Exokernel.Proofs.LibOS.Exec

namespace Exokernel.Program

variable {σ : Type} [Host σ] {s s₁ s₂ s' s'' : σ} {target : ProcessId} {value : UInt32}
  {srcVa : Option VirtAddr} {perm : Perm} {result result' : Except LibError Delivery}
  {n m : Nat} {page : Option (VirtAddr × Perm)}

/-- What a send tells whose last attempt was refused. -/
def refusal : Except LibError Delivery := .error (.kernel .receiverNotWaiting)

/-! ### One attempt -/

/-- An attempt that fails does so for another reason than that the receiver does not wait. -/
lemma attemptSend_error {e : LibError}
    (h : (attemptSend target value srcVa perm).exec s = (.error e, s')) :
    e ≠ .kernel .receiverNotWaiting := by
  rw [attemptSend, exec_bind, exec_raw] at h
  dsimp only at h
  split at h
  · cases h
  · cases h
  · next hother _ =>
    cases h
    rintro ⟨⟩
    exact hother rfl

/-- **Attempts within a bound**: the first decides, unless it is refused. -/
lemma exec_sendWithin (n : Nat) (s : σ) : (sendWithin target value srcVa perm n).exec s =
    match (attemptSend target value srcVa perm).exec s with
    | (.ok (some delivery), s₁) => (.ok delivery, s₁)
    | (.ok none, s₁) =>
      match n with
      | 0 => (refusal, s₁)
      | n + 1 => (sendWithin target value srcVa perm n).exec (Host.trap .yield s₁).2
    | (.error e, s₁) => (.error e, s₁) := by
  cases n <;>
  · rw [sendWithin, exec_bind]
    rcases (attemptSend target value srcVa perm).exec s with ⟨e | delivery | delivery, s₁⟩ <;> rfl

/-! ### Sends with and without a bound -/

/-- **More attempts change nothing** once a send has ended. -/
lemma sendWithin_of_le (hle : n ≤ m) (hend : result ≠ refusal)
    (h : (sendWithin target value srcVa perm n).exec s = (result, s')) :
    (sendWithin target value srcVa perm m).exec s = (result, s') := by
  induction n generalizing m s with
  | zero =>
    rw [exec_sendWithin] at h ⊢
    split at h
    · exact h
    · cases h
      exact absurd rfl hend
    · exact h
  | succ n ih =>
    obtain ⟨m, rfl⟩ := Nat.exists_eq_add_of_le' (Nat.lt_of_lt_of_le n.succ_pos hle)
    rw [exec_sendWithin] at h ⊢
    split at h
    · exact h
    · exact ih (Nat.le_of_succ_le_succ hle) h
    · exact h

/-- **A send that ends** is not refused. -/
lemma Sends.ne_refusal (h : Sends target value srcVa perm s result s') : result ≠ refusal := by
  induction h with
  | delivered h => rintro ⟨⟩
  | failed h =>
    rintro ⟨⟩
    exact attemptSend_error h rfl
  | again h hyield hrest ih => exact ih

/-- It has come to its end within some bound. -/
lemma Sends.within (h : Sends target value srcVa perm s result s') :
    ∃ n, (sendWithin target value srcVa perm n).exec s = (result, s') := by
  induction h with
  | delivered h => exact ⟨0, by rw [exec_sendWithin, h]⟩
  | failed h => exact ⟨0, by rw [exec_sendWithin, h]⟩
  | again h hyield hrest ih =>
    obtain ⟨n, hn⟩ := ih
    cases hyield
    exact ⟨n + 1, by rw [exec_sendWithin, h]; exact hn⟩

/-- A send that ends within a bound ends there without one. -/
lemma sends_of_within (hend : result ≠ refusal)
    (h : (sendWithin target value srcVa perm n).exec s = (result, s')) :
    Sends target value srcVa perm s result s' := by
  induction n generalizing s with
  | zero =>
    rw [exec_sendWithin] at h
    split at h
    · next hattempt =>
      cases h
      exact .delivered hattempt
    · cases h
      exact absurd rfl hend
    · next hattempt =>
      cases h
      exact .failed hattempt
  | succ n ih =>
    rw [exec_sendWithin] at h
    split at h
    · next hattempt =>
      cases h
      exact .delivered hattempt
    · next hattempt => exact .again hattempt rfl (ih h)
    · next hattempt =>
      cases h
      exact .failed hattempt

/-- A page is sent by its address and the permissions that it is to have. -/
lemma send_eq (retries : Nat) : (send retries target value page : Program σ Delivery) =
    sendWithin target value (page.map Prod.fst) (page.elim .none Prod.snd) retries := by
  cases page <;> rfl

/-- **A send without bound ends as one with a bound does** that is high enough: it is not refused,
and however often it may be tried again, it ends in the same way. -/
theorem sends_iff :
    Sends target value (page.map Prod.fst) (page.elim .none Prod.snd) s result s' ↔
      result ≠ refusal ∧ ∃ n, ∀ m, n ≤ m →
        (send m target value page).exec s = (result, s') := by
  constructor
  · intro h
    obtain ⟨n, hn⟩ := h.within
    refine ⟨h.ne_refusal, n, fun m hle => ?_⟩
    rw [send_eq]
    exact sendWithin_of_le hle h.ne_refusal hn
  · rintro ⟨hend, n, hall⟩
    have hn := hall n (Nat.le_refl n)
    rw [send_eq] at hn
    exact sends_of_within hend hn

/-- So it ends in one way at most. -/
theorem Sends.unique (h : Sends target value srcVa perm s result s')
    (h' : Sends target value srcVa perm s result' s'') : result = result' ∧ s' = s'' := by
  obtain ⟨n, hn⟩ := h.within
  obtain ⟨m, hm⟩ := h'.within
  have hboth := sendWithin_of_le (Nat.le_max_left n m) h.ne_refusal hn
  rw [sendWithin_of_le (Nat.le_max_right n m) h'.ne_refusal hm, Prod.mk.injEq] at hboth
  exact ⟨hboth.1.symm, hboth.2.symm⟩

/-- **A send without bound does not end** if every bound is too low. -/
theorem not_sends_iff :
    (¬ ∃ result s', Sends target value (page.map Prod.fst) (page.elim .none Prod.snd) s result s') ↔
      ∀ n, ((send n target value page).exec s).1 = refusal := by
  simp only [send_eq]
  constructor
  · intro hnever n
    by_contra hend
    exact hnever ⟨_, _, sends_of_within hend rfl⟩
  · rintro hall ⟨result, s', h⟩
    obtain ⟨n, hn⟩ := h.within
    have hrefused := hall n
    rw [hn] at hrefused
    exact h.ne_refusal hrefused

end Exokernel.Program
