/-
How waiting for a message ends.

* `Operation.Awaits.blocked`: a process that asks for a message is blocked with its mailbox open;
* `Operation.Rouses`: somebody who may do so lets a process run;
* `Affects.mailbox`: **nobody shuts an open mailbox** but by a message, or by letting its owner run;
* `Fulfilled`, `Abandoned`: what has come to a process that waited;
* `receive_ends`: **a process that waited for a message** runs again with exactly one, or because
  somebody let it run without any.
-/
import Exokernel.Proofs.Messages
import Exokernel.Proofs.Pauses

namespace Exokernel

namespace Kernel

variable {k k' : Kernel} {s t id : ProcessId} {p q : Process} {cpu : Nat} {dstVa : Option VirtAddr}

lemma receive_ok (cpu : Nat) (hp : k.live? id = some p) (hva : dstVa.all (·.isMappable)) :
    ∃ k', k.receive cpu id dstVa = .ok k' := by
  have hget : k.table.get id = .ok p := by
    rw [live?] at hp
    rw [ProcessTable.get, hp]
  rw [receive, if_pos hva, hget]
  exact ⟨_, rfl⟩

end Kernel

namespace Operation

open Kernel (Deed Moves)

variable {k : Kernel} {op : Operation} {t : ProcessId} {p p' p₁ : Process} {g : TrapFrame}

/-! ### Beginning to wait -/

/-- **A process that asks for a message** is blocked with its mailbox open, bound nowhere, and has
the last message still. -/
lemma Awaits.blocked (h : op.Awaits k t) (hk : k.Sound) (hp' : (op.apply k).live? t = some p') :
    ∃ p, k.live? t = some p ∧ p'.mailbox.receiving ∧ p'.resident = none ∧
      p'.mailbox.mail = p.mailbox.mail := by
  cases h with
  | @trap cpu f dstVa hcur hcalls hva =>
    obtain ⟨p, hp⟩ := Option.isSome_iff_exists.1 hcalls.2.1
    obtain ⟨k₁, q, request, hsaved, hq, -, hres, htrap⟩ := Kernel.trap_call hk hcur hcalls
    have hk₁ := hsaved.sound hk hp
    obtain ⟨k₂, hreceive⟩ := Kernel.receive_ok cpu hq hva
    obtain ⟨-, hblocked⟩ := Kernel.live?_receive hq hres hreceive
    obtain ⟨hmoves, hnone⟩ := Kernel.receive_moves (A := Kernel.anyDeed) hk₁ hq hres hreceive
      fun _ => trivial
    have hk₂ := hmoves.sound hk₁
    rw [Kernel.execute, hreceive] at htrap
    -- the processor has given up the process, and looks for another one
    have haudit : k₂.Quiet (k₂.audit t (.response request none)) := Kernel.quiet_audit _ _
    have hnone' := (haudit.current cpu).trans hnone
    have haudited := (Moves.quiet (A := Kernel.anyDeed) trivial haudit).sound hk₂
    have hclear : k₂.Quiet ((k₂.audit t (.response request none)).clearStale cpu t) :=
      haudit.trans (Kernel.quiet_clearStale haudited (by rw [hnone']; rintro ⟨⟩))
    have hleft := (hclear.live? t).trans hblocked
    obtain ⟨hrec, -, -⟩ := Kernel.live?_eq_some_iff.1 hleft
    obtain ⟨⟨p₁, hp₁, hgo⟩, -⟩ := Kernel.schedule_keeps ((hclear.current cpu).trans hnone) hrec
    have hsound : (k.trap cpu f).2.Sound := (Kernel.trap_moves hk).sound hk
    obtain ⟨hrec', -, -⟩ := Kernel.live?_eq_some_iff.1 hp'
    have hblocks := (hsound.tables.sound _ p' hrec').blocked
    rw [apply, htrap] at hrec'
    obtain rfl : p₁ = p' := Option.some.inj (hp₁.symm.trans hrec')
    rw [hsaved.live? hp, Option.some.injEq] at hq
    subst hq
    rcases hgo with rfl | ⟨-, rfl⟩
    · exact ⟨p, hp, rfl, rfl, rfl⟩
    · -- a process whose mailbox is open does not run
      cases hblocks rfl

/-- A trap that delivers a message makes the call that sends it. -/
lemma Delivers.decode {cpu : Nat} {f : TrapFrame} (h : Operation.Delivers k t (.trap cpu f)) :
    ∃ target value srcVa perm,
      Syscall.decode f.call = .ok (.trySend target value srcVa perm) := by
  obtain ⟨s, value, srcVa, perm, v, hsends⟩ := h
  cases hsends with
  | trap hcur hcalls ht hv => exact ⟨_, _, _, _, hcalls.2.2.2⟩

/-- Who asks for a message does not send one by that. -/
lemma Awaits.not_delivers (h : op.Awaits k t) : ¬ op.Delivers k t := by
  intro hdelivers
  cases h with
  | trap hcur hcalls hva =>
    obtain ⟨target, value, srcVa, perm, hc⟩ := hdelivers.decode
    rw [hcalls.2.2.2] at hc
    cases hc

/-! ### While a process waits -/

/-- An operation by which somebody who may do so lets process `t` run. -/
inductive Rouses (k : Kernel) (t : ProcessId) : Operation → Prop where
  | trap {cpu : Nat} {s target : ProcessId} {f : TrapFrame} (hcur : k.current? cpu = some s)
      (hcalls : k.Calls s f (.setStatus target .runnable))
      (ht : k.resolve s target true = .ok t) : Rouses k t (.trap cpu f)

/-- **Nobody shuts an open mailbox** but by a message, or by letting its owner run. The last message
stays there. -/
lemma Affects.mailbox (h : op.Affects k t p p₁) (hnot : ¬ op.Delivers k t) :
    p₁.mailbox = p.mailbox ∨
      op.Rouses k t ∧ p₁.mailbox = { p.mailbox with receiving := false } := by
  cases h with
  | spared => exact .inl rfl
  | call hcur hcalls hne h =>
    cases h with
    | @setStatus target status hs ht =>
      rw [Kernel.withStatus]
      split
      · exact .inl rfl
      · split
        · next hrun =>
          subst hrun
          exact .inr ⟨.trap hcur hcalls ht, rfl⟩
        · exact .inl rfl
    | told ht hv hopen => exact absurd ⟨_, _, _, _, _, .trap hcur hcalls ht hv⟩ hnot
    | yield hself | receive hself => exact absurd hself.symm hne
    | _ => exact .inl rfl

end Operation

/-! ### Any run -/

/-- A row of transitions has brought process `t` exactly one message, and its mailbox is as that has
left it. -/
inductive Fulfilled (t : ProcessId) (es : List Transition) (box : Mailbox) : Prop where
  | mk {pre post : List Transition} {e : Transition} {s : ProcessId} {value v : UInt32}
      {srcVa : Option VirtAddr} {perm : Perm} {q : Process} (hes : es = pre ++ e :: post)
      (hsends : e.op.Sends e.before s t value srcVa perm v) (hq : e.before.live? t = some q)
      (honce : ∀ e' ∈ pre ++ post, ¬ e'.op.Delivers e'.before t)
      (hbox : box = (Kernel.told q s value srcVa perm).mailbox)

/-- A row of transitions has brought process `t` no message, and its mailbox holds an old one. But
somebody has let the process run. -/
structure Abandoned (t : ProcessId) (mail : ProcessId × UInt32 × Perm) (es : List Transition)
    (box : Mailbox) : Prop where
  none : ∀ e ∈ es, ¬ e.op.Delivers e.before t
  roused : ∃ e ∈ es, e.op.Rouses e.before t
  stale : box.mail = mail

section

variable {t : ProcessId} {mail : ProcessId × UInt32 × Perm} {es : List Transition} {e : Transition}
  {box : Mailbox}

/-- Somebody has sent the message. -/
lemma Fulfilled.delivers (h : Fulfilled t es box) : ∃ e ∈ es, e.op.Delivers e.before t := by
  obtain ⟨rfl, hsends, -, -, -⟩ := h
  exact ⟨_, List.mem_append_right _ List.mem_cons_self, _, _, _, _, _, hsends⟩

lemma Fulfilled.concat (h : Fulfilled t es box) (he : ¬ e.op.Delivers e.before t) :
    Fulfilled t (es ++ [e]) box := by
  obtain ⟨rfl, hsends, hq, honce, hbox⟩ := h
  refine .mk (by rw [List.append_assoc, List.cons_append]) hsends hq ?_ hbox
  rw [← List.append_assoc]
  exact List.forall_mem_append.2 ⟨honce, List.forall_mem_singleton.2 he⟩

lemma Abandoned.concat (h : Abandoned t mail es box) (he : ¬ e.op.Delivers e.before t) :
    Abandoned t mail (es ++ [e]) box := by
  obtain ⟨e', he', hrouses⟩ := h.roused
  exact ⟨List.forall_mem_append.2 ⟨h.none, List.forall_mem_singleton.2 he⟩,
    ⟨e', List.mem_append_left _ he', hrouses⟩, h.stale⟩

end

/-- What a row of transitions may have come to for a process that waits for a message. -/
inductive Awaited (t : ProcessId) (mail : ProcessId × UInt32 × Perm) (es : List Transition)
    (box : Mailbox) : Prop where
  | waiting (hopen : box.receiving) (hnone : ∀ e ∈ es, ¬ e.op.Delivers e.before t)
      (hmail : box.mail = mail)
  | received (hshut : box.receiving = false) (h : Fulfilled t es box)
  | abandoned (hshut : box.receiving = false) (h : Abandoned t mail es box)

/-- **One more operation** while a process pauses. -/
lemma Awaited.step {k : Kernel} {op : Operation} {t : ProcessId}
    {mail : ProcessId × UInt32 × Perm} {es : List Transition} {p p' : Process}
    (h : Awaited t mail es p.mailbox) (hk : k.Sound) (hw : k.Waits) (hlegal : op.Legal k)
    (hp : k.live? t = some p) (hidle : p.resident = none) (hp' : (op.apply k).live? t = some p') :
    Awaited t mail (es ++ [⟨k, op⟩]) p'.mailbox := by
  by_cases hdelivers : op.Delivers k t
  · -- a message comes only to an open mailbox
    obtain ⟨s, value, srcVa, perm, v, hsends⟩ := hdelivers
    obtain ⟨q, q', hq, hopen, hq', hmail⟩ := hsends.told hk hw
    obtain rfl : q = p := Option.some.inj (hq.symm.trans hp)
    obtain rfl : q' = p' := Option.some.inj (hq'.symm.trans hp')
    cases h with
    | waiting _ hnone _ =>
      refine .received (by rw [hmail]; rfl) (.mk rfl hsends hq (fun e he => ?_) hmail)
      exact hnone e (by rwa [List.append_nil] at he)
    | received hshut | abandoned hshut =>
      rw [hshut] at hopen
      cases hopen
  · have hnever : (∀ e ∈ es, ¬ e.op.Delivers e.before t) →
        ∀ e ∈ es ++ [⟨k, op⟩], ¬ e.op.Delivers e.before t := fun hnone =>
      List.forall_mem_append.2 ⟨hnone, List.forall_mem_singleton.2 hdelivers⟩
    obtain ⟨p₁, haffects, hproceeds⟩ := op.affects hk hlegal hp hidle hp'
    rw [hproceeds.mailbox]
    rcases haffects.mailbox hdelivers with hsame | ⟨hrouses, hclosed⟩
    · rw [hsame]
      cases h with
      | waiting hopen hnone hmail => exact .waiting hopen (hnever hnone) hmail
      | received hshut h => exact .received hshut (h.concat hdelivers)
      | abandoned hshut h => exact .abandoned hshut (h.concat hdelivers)
    · have hsame : p.mailbox.receiving = false → p₁.mailbox = p.mailbox := fun hshut => by
        rw [hclosed, ← hshut]
      cases h with
      | waiting hopen hnone hmail =>
        rw [hclosed]
        exact .abandoned rfl ⟨hnever hnone, ⟨⟨k, op⟩, List.mem_concat_self, hrouses⟩, hmail⟩
      | received hshut h =>
        rw [hsame hshut]
        exact .received hshut (h.concat hdelivers)
      | abandoned hshut h =>
        rw [hsame hshut]
        exact .abandoned hshut (h.concat hdelivers)

/-- **How waiting for a message ends.** A process asks for a message, and is told to run again for
the first time since, whatever the others have done in between. Then its mailbox is as exactly one
send has left it that was answered with a success in between. Or there was no such send, and the
mailbox holds what it held before the process asked; but then somebody has let the process run who
may do so. -/
theorem receive_ends {config : Config} {frames : Nat} {k : Kernel} {op : Operation} {t : ProcessId}
    {g : TrapFrame} {es : List Transition} (h : Reachable config frames k) (hawaits : op.Awaits k t)
    (hpause : Pause k op t es g) : ∃ k' p p', History k es k' ∧ k.live? t = some p ∧
      k'.live? t = some p' ∧ p'.frame = g ∧
      (Fulfilled t es p'.mailbox ∨ Abandoned t p.mailbox.mail es p'.mailbox) := by
  obtain ⟨p₀, hp₀⟩ := Option.isSome_iff_exists.1 (hpause.lives _ (List.mem_of_head? hpause.first))
  obtain ⟨p, hp, -⟩ := hawaits.blocked h.sound hp₀
  have hpaused := hpause.induct (P := fun es₁ k₁ => ∃ p₁, k₁.live? t = some p₁ ∧
      p₁.resident = none ∧ Awaited t p.mailbox.mail es₁ p₁.mailbox) h
    (fun _ hinner => ?_) fun es₁ k₁ op₁ hk₁ hlegal hinner => ?_
  · -- whoever is told to run has its mailbox shut
    have hshut : ∀ {k₁ : Kernel} {p₁ : Process}, k₁.Sound → k₁.live? t = some p₁ →
        p₁.status = .running → ¬ p₁.mailbox.receiving := fun hk₁ hp₁ hrun hopen => by
      have hblocked := (hk₁.tables.sound _ _ (Kernel.live?_eq_some_iff.1 hp₁).1).blocked hopen
      rw [hrun] at hblocked
      cases hblocked
    rcases hpaused with ⟨hlegal, hres, -⟩ | ⟨es₁, k₁, op₁, hes, ⟨p₁, hp₁, hidle, hawaited⟩, hk₁,
      hlegal, hres⟩
    · obtain ⟨p', hp', hrun, -⟩ := Operation.told h.sound hlegal hres
      obtain ⟨-, -, hopen, -⟩ := hawaits.blocked h.sound hp'
      exact absurd hopen (hshut (h.step op hlegal).sound hp' hrun)
    · obtain ⟨p', hp', hrun, hframe⟩ := Operation.told hk₁.sound hlegal hres
      have hends := hawaited.step hk₁.sound hk₁.waits hlegal hp₁ hidle hp'
      rw [← hes] at hends
      obtain ⟨k', hhist⟩ := hpause.history
      have hlast : es.getLast? = some ⟨k₁, op₁⟩ := by rw [hes, List.getLast?_concat]
      refine ⟨k', p, p', hhist, hp, by rwa [hhist.eq_after hlast], hframe, ?_⟩
      cases hends with
      | waiting hopen => exact absurd hopen (hshut (hk₁.step op₁ hlegal).sound hp' hrun)
      | received _ hreceived => exact .inl hreceived
      | abandoned _ habandoned => exact .inr habandoned
  · obtain ⟨p', hp'⟩ := hinner.lives
    obtain ⟨q, hq, hopen, hidle, hmail⟩ := hawaits.blocked h.sound hp'
    obtain rfl : q = p := Option.some.inj (hq.symm.trans hp)
    refine ⟨p', hp', hidle, .waiting hopen (fun e he => ?_) hmail⟩
    rw [List.mem_singleton.1 he]
    exact hawaits.not_delivers
  · rintro ⟨p₁, hp₁, hidle, hawaited⟩
    obtain ⟨p', hp'⟩ := hinner.lives
    exact ⟨p', hp', Operation.unbound hk₁.sound hlegal hp₁ hidle hp' hinner.waits,
      hawaited.step hk₁.sound hk₁.waits hlegal hp₁ hidle hp'⟩

/-- A child waits for a message, and its parent lets it run. The child goes on with zero for an
answer, which is success, although nobody has sent it anything and its mailbox has never held a
message. -/
theorem receive_ends_abandoned : ∃ (k k' : Kernel) (f g : TrapFrame) (es : List Transition)
    (p' : Process), Reachable { maxProcesses := 2 } 16 k ∧
    Operation.Awaits k (ProcessId.self.next 1) (.trap 0 f) ∧
    Pause k (.trap 0 f) (ProcessId.self.next 1) es g ∧ g = f.withResult 0 ∧
    (∀ e ∈ es, ¬ e.op.Delivers e.before (ProcessId.self.next 1)) ∧ History k es k' ∧
    k'.live? (ProcessId.self.next 1) = some p' ∧ p'.mailbox.mail = (.self, 0, .none) := by
  have hboot : Reachable { maxProcesses := 2 } 16 _ := .boot rfl (.refl _) rfl
  let call (c : Syscall) : Operation := .trap 0 (Kernel.callFrame (.initial 7) c)
  -- a process makes a child, lets it run, and yields
  have hparent := (hboot.step (.spawn ⟨⟨0⟩, []⟩) trivial).step (.schedule 0) rfl
  have hchild := ((hparent.step (call .exofork) trivial).step
    (call (.setStatus (ProcessId.self.next 1) .runnable)) trivial).step (call .yield) trivial
  have hbegin : ∀ {k : Kernel}, Reachable { maxProcesses := 2 } 16 k → History k [] k :=
    fun _ => .nil
  have hhist := (((hbegin hchild).snoc (call (.receive none)) trivial).snoc
    (call (.setStatus (ProcessId.self.next 1) .runnable)) trivial).snoc (call .yield) trivial
  have hawaits : ∀ {k : Kernel}, k.current? 0 = some (ProcessId.self.next 1) →
      (k.live? (ProcessId.self.next 1)).isSome →
      Operation.Awaits k (ProcessId.self.next 1) (call (.receive none)) := fun hcur hlive =>
    .trap hcur ⟨rfl, hlive, rfl,
      (by decide : _ = Except.ok (Syscall.receive none))⟩ rfl
  have hpause : Pause _ _ (ProcessId.self.next 1) _
      ((Kernel.callFrame (.initial 7) (.receive none)).withResult 0) :=
    ⟨⟨_, hhist⟩, rfl, by decide +kernel, ⟨_, rfl, by decide +kernel⟩, by decide +kernel⟩
  obtain ⟨k', p, p', hhist', hp, hp', -, hends⟩ :=
    receive_ends hchild (hawaits (by decide +kernel) (by decide +kernel)) hpause
  -- nobody sends anything
  have hnever : ∀ {k : Kernel} {c : Syscall},
      Syscall.decode (Kernel.callFrame (.initial 7) c).call = .ok c →
      (∀ target value va perm, c ≠ .trySend target value va perm) →
      ¬ (call c).Delivers k (ProcessId.self.next 1) := by
    intro k c hdecode hother hdelivers
    obtain ⟨target, value, srcVa, perm, hc⟩ := hdelivers.decode
    exact hother _ _ _ _ (Except.ok.inj (hdecode.symm.trans hc))
  rcases hends with hreceived | habandoned
  · obtain ⟨e, he, hdelivers⟩ := hreceived.delivers
    simp only [List.nil_append, List.cons_append, List.mem_cons, List.not_mem_nil, or_false] at he
    rcases he with rfl | rfl | rfl
    · exact absurd hdelivers (hnever (by decide) nofun)
    · exact absurd hdelivers (hnever (by decide) nofun)
    · exact absurd hdelivers (hnever (by decide) nofun)
  · have hmail := congrArg (Option.map fun p : Process => p.mailbox.mail) hp
    have hempty : some p.mailbox.mail = some (.self, 0, .none) :=
      hmail.symm.trans (by decide +kernel)
    exact ⟨_, k', _, _, _, p', hchild, hawaits (by decide +kernel) (by decide +kernel), hpause, rfl,
      habandoned.none, hhist', hp', habandoned.stale.trans (Option.some.inj hempty)⟩

end Exokernel
