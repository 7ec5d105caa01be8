/-
What becomes of messages.

* `Kernel.Waits`, `Reachable.waits`: who waits for a message is bound nowhere;
* `Operation.Does`: what an operation may come to;
* `Operation.shut`: **nobody opens a mailbox** but its owner, who asks for a message;
* `Operation.keeps_mail`: **a message stays in the mailbox** until the next one;
* `Operation.Sends.told`: what a message that is sent by a trap leaves in the mailbox;
* `delivery_exact`: **a send delivers all or nothing**, and once for each time that the receiver
  waits.
-/
import Exokernel.Proofs.Kernel.Sends
import Exokernel.Proofs.Runs

namespace Exokernel

namespace Kernel

variable {k k' : Kernel} {t : ProcessId} {p p' : Process} {d : Deed} {A : Deed → Prop}

/-! ### Who waits -/

/-- Whoever waits for a message is bound nowhere. -/
def Waits (k : Kernel) : Prop :=
  ∀ (slot : Nat) (q : Process), k.table.records[slot]? = some q → q.mailbox.receiving →
    q.resident = none

/-- A process that is ready waits for nothing. -/
lemma receiving_of_dispatchable {slot : Nat} (hp : p.Sound slot) (hready : p.dispatchable) :
    p.mailbox.receiving = false := by
  rw [Bool.eq_false_iff]
  intro hopen
  simp only [Process.dispatchable, Bool.and_eq_true, decide_eq_true_eq] at hready
  rw [hp.blocked hopen] at hready
  cases hready.1

lemma Move.waits (h : k.Move d k') (hk : k.Sound) (hw : k.Waits) : k'.Waits := by
  intro slot q' hq' hopen
  obtain ⟨q, hq, hchange⟩ := h.change hk hq'
  cases hchange with
  | same => exact hw slot _ hq hopen
  | edit hslot hlive hf hkept => exact hf.resident.trans (hw slot q hq (hkept hopen))
  | await | unbind | clear => rfl
  | bind hready =>
    have hshut := receiving_of_dispatchable (hk.tables.sound slot q hq) hready
    change q.mailbox.receiving = true at hopen
    rw [hshut] at hopen
    cases hopen
  | doom => cases hopen
  | make hfree hres hmail => exact hres
  | deliver hslot hlive hwaited hshut =>
    change Mailbox.receiving _ = true at hopen
    rw [hshut] at hopen
    cases hopen

lemma Moves.waits (h : Moves A k k') (hk : k.Sound) (hw : k.Waits) : k'.Waits :=
  (h.induct (P := fun k₁ => k₁.Sound ∧ k₁.Waits) ⟨hk, hw⟩
    fun _ _ _ hk₁ _ hmove => ⟨hmove.sound hk₁.1, hmove.waits hk₁.1 hk₁.2⟩).2

/-! ### Mailboxes that are shut -/

/-- The mailbox of a process is shut, if the process is there. -/
def Shut (k : Kernel) (t : ProcessId) : Prop :=
  ∀ p, k.live? t = some p → p.mailbox.receiving = false

/-- **Only a process that begins to wait** opens its mailbox. -/
lemma Move.shut (h : k.Move d k') (hk : k.Sound) (hd : d ≠ .await t) (hs : k.Shut t) :
    k'.Shut t := by
  intro p' hp'
  obtain ⟨hrec, hid, hlive'⟩ := live?_eq_some_iff.1 hp'
  obtain ⟨p, hp, hchange⟩ := h.change hk hrec
  have hold : p.id = p'.id → p.status.isLive → p.mailbox.receiving = false := fun hsame hlive =>
    hs p (live?_eq_some_iff.2 ⟨hp, hsame.trans hid, hlive⟩)
  cases hchange with
  | same => exact hold rfl hlive'
  | edit hslot hlive hf hkept =>
    have hshut := hold hf.id.symm hlive
    rw [Bool.eq_false_iff] at hshut ⊢
    exact fun hopen => hshut (hkept hopen)
  | await hslot hlive hf hres hrun => exact absurd (congrArg Deed.await (hf.id.symm.trans hid)) hd
  | unbind hslot hlive hres hrun => exact hold rfl hlive
  | bind hready =>
    have hshut := receiving_of_dispatchable (hk.tables.sound _ p hp) hready
    exact hshut
  | doom | clear => cases hlive'
  | make hfree hres hmail => rw [hmail]
  | deliver hslot hlive hwaited hshut => exact hshut

lemma Moves.shut (h : Moves A k k') (hk : k.Sound) (hA : ¬ A (.await t)) (hs : k.Shut t) :
    k'.Shut t := by
  refine (h.induct (P := fun k₁ => k₁.Sound ∧ k₁.Shut t) ⟨hk, hs⟩ ?_).2
  rintro k₁ d k₂ ⟨hk₁, hs₁⟩ hd hmove
  exact ⟨hmove.sound hk₁, hmove.shut hk₁ (fun heq => hA (heq ▸ hd)) hs₁⟩

/-! ### Messages that stay -/

/-- **A message stays in the mailbox** until the next one, or the end of the process. -/
lemma Move.keeps_mail (h : k.Move d k') (hk : k.Sound) (hd : d ≠ .deliver t)
    (hp : k.live? t = some p) (hp' : k'.live? t = some p') :
    p'.mailbox.mail = p.mailbox.mail := by
  obtain ⟨hrec, hid, hlive⟩ := live?_eq_some_iff.1 hp
  obtain ⟨hrec', hid', hlive'⟩ := live?_eq_some_iff.1 hp'
  obtain ⟨q, hq, hchange⟩ := h.change hk hrec'
  rw [hrec] at hq
  cases hq
  cases hchange with
  | same | unbind | bind => rfl
  | edit hslot hlive hf hkept => exact hf.mail
  | await hslot hlive hf hres hrun => exact hf.mail
  | doom | clear => cases hlive'
  | make hfree => exact absurd hfree (ProcessStatus.ne_free_of_isLive hlive)
  | deliver => exact absurd (congrArg Deed.deliver hid) hd

/-- **So it does by a row of moves** in which nobody is made, or only by the process itself, or
nothing ends the process. -/
lemma Moves.keeps_mail (h : Moves A k k') (hk : k.Sound) (hA : ¬ A (.deliver t))
    (hmake : ∀ caller number, A (.make caller number) →
      caller = some t ∨ ∀ d, A d → ¬ d.Ends t)
    (hp : k.live? t = some p) (hp' : k'.live? t = some p') :
    p'.mailbox.mail = p.mailbox.mail := by
  -- the process has its message, or something has ended it
  let Kept (k₁ : Kernel) : Prop := (∃ q, k₁.live? t = some q ∧ q.mailbox.mail = p.mailbox.mail) ∨
    k₁.live? t = none ∧ ∃ d, A d ∧ d.Ends t
  have hkept : k'.Sound ∧ Kept k' := by
    refine h.induct (P := fun k₁ => k₁.Sound ∧ Kept k₁) ⟨hk, .inl ⟨p, hp, rfl⟩⟩ ?_
    rintro k₁ d k₂ ⟨hk₁, hbefore⟩ hd hmove
    refine ⟨hmove.sound hk₁, ?_⟩
    rcases hbefore with ⟨q, hq, hmail⟩ | ⟨hnone, last, hlast, hends⟩
    · cases hq' : k₂.live? t with
      | some q' =>
        exact .inl ⟨q', hq', (hmove.keeps_mail hk₁ (fun heq => hA (heq ▸ hd)) hq hq').trans hmail⟩
      | none =>
        refine .inr ⟨hq', d, hd, ?_⟩
        by_contra hnot
        obtain ⟨q', hq''⟩ := hmove.live? hk₁ hnot hq
        rw [hq'] at hq''
        cases hq''
    · refine .inr ⟨hmove.gone hk₁ (fun caller number heq => ?_) hnone, last, hlast, hends⟩
      subst heq
      rcases hmake caller number hd with hself | hnever
      · cases hmove with
        | make hcaller =>
          have hlives := hcaller t hself
          rw [hnone] at hlives
          cases hlives
      · exact hnever last hlast hends
  rcases hkept.2 with ⟨q, hq, hmail⟩ | ⟨hnone, -⟩
  · rw [hp'] at hq
    cases hq
    exact hmail
  · rw [hp'] at hnone
    cases hnone

end Kernel

/-! ### Operations -/

namespace Operation

open Kernel (Deed)

variable {k : Kernel} {op : Operation} {s t : ProcessId} {p p' : Process} {d : Deed}
  {value v : UInt32} {srcVa : Option VirtAddr} {perm : Perm}

/-- What an operation may come to. -/
inductive Does (k : Kernel) : Operation → Deed → Prop where
  | spawn {image : Image} {d : Deed} (hd : k.SpawnDeed d) : Does k (.spawn image) d
  | allocate {parent : ProcessId} {d : Deed} (hd : k.SpawnDeed d) : Does k (.allocate parent) d
  | destroy {cpu : Nat} {id : ProcessId} {d : Deed} (hd : k.DestroyDeed cpu id d) :
      Does k (.destroy cpu id) d
  | trap {cpu : Nat} {id : ProcessId} {f : TrapFrame} {d : Deed} (hcur : k.current? cpu = some id)
      (hd : k.TrapDeed id f d) : Does k (.trap cpu f) d
  | goOn {cpu : Nat} {f : TrapFrame} {d : Deed} (hd : d.Dispatch) : Does k (.trap cpu f) d
  | schedule {cpu : Nat} {d : Deed} (hd : d.Dispatch) : Does k (.schedule cpu) d

/-- **An operation comes to such deeds only**, or it leaves the table of processes alone. -/
lemma does (hk : k.Sound) (hlegal : op.Legal k) :
    Kernel.Moves (Does k op) k (op.apply k) ∨ (op.apply k).table = k.table := by
  cases op with
  | spawn image => exact .inl ((Kernel.spawn_moves hk image).mono fun _ => .spawn)
  | allocate parent => exact .inl (allocate_moves (.allocate .quiet) (.allocate .make) parent)
  | destroy cpu id => exact .inl ((destroy_moves hk cpu id).mono fun _ => .destroy)
  | trap cpu f =>
    refine .inl ?_
    rw [apply]
    cases hcur : k.current? cpu with
    | none =>
      rcases Kernel.trap_idle (f := f) hcur with ⟨k₁, hk₁, heq⟩ | ⟨k₁, panic, hk₁, heq⟩
      · rw [heq]
        exact (Kernel.Moves.quiet (.goOn .quiet) hk₁).trans (Kernel.schedule_moves
          ((hk₁.current cpu).trans hcur) (.goOn .quiet) fun slot => .goOn (.bind slot))
      · rw [heq]
        exact .quiet (.goOn .quiet) hk₁
    | some id =>
      obtain ⟨k₁, hmoves, hend⟩ := Kernel.trap_cases (f := f) hk hcur
      have hdeeds : Kernel.Moves (Does k (.trap cpu f)) k k₁ := hmoves.mono fun _ => .trap hcur
      rcases hend with hgoes | ⟨panic, heq⟩
      · exact hdeeds.trans (hgoes.moves.mono fun _ => .goOn)
      · rwa [heq]
  | schedule cpu =>
    exact .inl (Kernel.schedule_moves hlegal (.schedule .quiet) fun slot => .schedule (.bind slot))
  | latch cpu va => exact .inr rfl
  | store s va data => exact .inr rfl

/-- By an operation, process `s` sends process `t` a message that it gets, and is answered `v`. -/
inductive Sends (k : Kernel) (s t : ProcessId) (value : UInt32) (srcVa : Option VirtAddr)
    (perm : Perm) (v : UInt32) : Operation → Prop where
  | trap {cpu : Nat} {f : TrapFrame} {target : ProcessId} (hcur : k.current? cpu = some s)
      (hcalls : k.Calls s f (.trySend target value srcVa perm))
      (ht : k.resolve s target false = .ok t)
      (hv : (k.trySend s target value srcVa perm).1 = .ok v) :
      Sends k s t value srcVa perm v (.trap cpu f)

/-- An operation delivers a message to process `t`. -/
def Delivers (k : Kernel) (t : ProcessId) (op : Operation) : Prop :=
  ∃ s value srcVa perm v, op.Sends k s t value srcVa perm v

/-- By an operation, process `t` asks for a message and blocks. -/
inductive Awaits (k : Kernel) (t : ProcessId) : Operation → Prop where
  | trap {cpu : Nat} {f : TrapFrame} {dstVa : Option VirtAddr} (hcur : k.current? cpu = some t)
      (hcalls : k.Calls t f (.receive dstVa)) (hva : dstVa.all (·.isMappable)) :
      Awaits k t (.trap cpu f)

/-- A process begins to wait only by its own call. -/
lemma Does.awaits (h : Does k op (.await t)) : op.Awaits k t := by
  cases h with
  | trap hcur hd =>
    cases hd with
    | own hd => cases hd
    | call huser hlive hcause hsaved hc hd =>
      cases hd with
      | own hd => cases hd
      | await hva => exact .trap hcur ⟨huser, hlive, hcause, hc⟩ hva
  | spawn hd | allocate hd | destroy hd | goOn hd | schedule hd => cases hd

/-- A message is delivered only by a send. -/
lemma Does.delivers (h : Does k op (.deliver t)) : op.Delivers k t := by
  cases h with
  | trap hcur hd =>
    cases hd with
    | own hd => cases hd
    | call huser hlive hcause hsaved hc hd =>
      cases hd with
      | own hd => cases hd
      | deliver hid hv =>
        exact ⟨_, _, _, _, _, .trap hcur ⟨huser, hlive, hcause, hc⟩ (hsaved.resolve .. ▸ hid)
          (hsaved.trySend.symm.trans hv)⟩
  | spawn hd | allocate hd | destroy hd | goOn hd | schedule hd => cases hd

/-- An operation by which a process is made ends nobody but who asks for it. -/
lemma Does.make {caller : Option ProcessId} {number : UInt32} (h : Does k op (.make caller number))
    (hp : k.live? t = some p) : caller = some t ∨ ∀ d, Does k op d → ¬ d.Ends t := by
  cases h with
  | spawn hd =>
    refine .inr fun d hd' => ?_
    cases hd' with
    | spawn hd' => exact hd'.not_ends hp
  | allocate hd =>
    refine .inr fun d hd' => ?_
    cases hd' with
    | allocate hd' => exact hd'.not_ends hp
  | destroy hd => cases hd
  | trap hcur hd =>
    cases hd with
    | own hd => cases hd
    | @call k₁ c _ huser hlive hcause hsaved hc hd =>
      cases hd with
      | own hd => cases hd
      | make =>
        refine (em (_ = t)).imp (congrArg some) fun hne d hd' hends => ?_
        cases hd' with
        | trap hcur' hd' =>
          rw [hcur, Option.some.injEq] at hcur'
          subst hcur'
          rcases hd'.ends hends with ⟨-, heq⟩ | ⟨target, ⟨-, -, -, hc'⟩, -⟩
          · exact hne heq.symm
          · rw [hc] at hc'
            cases hc'
        | goOn hd' => cases hd' <;> cases hends
  | goOn hd | schedule hd => cases hd

/-- **Nobody opens a mailbox** but its owner, who asks for a message. -/
lemma shut (hk : k.Sound) (hlegal : op.Legal k) (hop : ¬ op.Awaits k t) (hs : k.Shut t) :
    (op.apply k).Shut t := by
  rcases op.does hk hlegal with hmoves | heq
  · exact hmoves.shut hk (fun h => hop h.awaits) hs
  · rwa [Kernel.Shut, Kernel.live?, heq]

/-- **A message stays in the mailbox** until the next one. -/
lemma keeps_mail (hk : k.Sound) (hlegal : op.Legal k) (hop : ¬ op.Delivers k t)
    (hp : k.live? t = some p) (hp' : (op.apply k).live? t = some p') :
    p'.mailbox.mail = p.mailbox.mail := by
  rcases op.does hk hlegal with hmoves | heq
  · exact hmoves.keeps_mail hk (fun h => hop h.delivers) (fun _ _ h => h.make hp) hp hp'
  · rw [Kernel.live?, heq] at hp'
    cases hp.symm.trans hp'
    rfl

/-- Whoever waits stays unbound. -/
lemma waits (hk : k.Sound) (hlegal : op.Legal k) (hw : k.Waits) : (op.apply k).Waits := by
  rcases op.does hk hlegal with hmoves | heq
  · exact hmoves.waits hk hw
  · rwa [Kernel.Waits, heq]

/-- **What a message that is sent by a trap leaves in the mailbox**: the receiver waited for it, and
has it when the trap is over. -/
lemma Sends.told (h : op.Sends k s t value srcVa perm v) (hk : k.Sound) (hw : k.Waits) : ∃ q q',
    k.live? t = some q ∧ q.mailbox.receiving ∧ (op.apply k).live? t = some q' ∧
      q'.mailbox = (Kernel.told q s value srcVa perm).mailbox := by
  cases h with
  | @trap cpu f target hcur hcalls ht hv =>
    obtain ⟨k₁, p, k₂, hsaved, hk₁, hp, -, hres, hmoves, hgoes⟩ :=
      Kernel.call_stages hk hcur hcalls
    obtain ⟨p₀, hp₀⟩ := Option.isSome_iff_exists.1 hcalls.2.1
    have hw₁ : k₁.Waits :=
      (hsaved.moves (A := Kernel.anyDeed) hp₀ fun _ _ => trivial).waits hk hw
    change Kernel.Moves (Deed.Own s) (k₁.trySend s target value srcVa perm).2 k₂ at hmoves
    obtain ⟨t', q, hres', hconveys⟩ := Kernel.trySend_ok hk₁ (hsaved.trySend.trans hv)
    rw [hsaved.resolve, ht, Except.ok.injEq] at hres'
    subst hres'
    have hq := hconveys.live
    obtain ⟨hrec, hqid, -⟩ := Kernel.live?_eq_some_iff.1 hq
    -- the sender runs, so it is not the one that waits
    have hslot : s.slot ≠ t.slot := fun heq => by
      have hunbound := hw₁ _ q hrec hconveys.waiting
      rw [← heq, (Kernel.live?_eq_some_iff.1 hp).1] at hrec
      cases hrec
      rw [hres] at hunbound
      cases hunbound
    have hsent : Kernel.Moves Kernel.anyDeed k₁ (k₁.trySend s target value srcVa perm).2 :=
      (Kernel.execute_moves (c := .trySend target value srcVa perm) hk₁ hp hres).1.mono
        fun _ _ => trivial
    have hsame : k.live? t = some q := by
      rw [hsaved.record, if_neg hslot] at hrec
      exact Kernel.live?_eq_some_iff.2 ⟨hrec, hqid, (Kernel.live?_eq_some_iff.1 hq).2.2⟩
    have hrec' := hmoves.record (q := Kernel.told q s value srcVa perm) (hsent.sound hk₁)
      (fun d hd => by
        cases hd with
        | quiet => trivial
        | edit | unbind | clear => exact hslot)
      ((hconveys.records t.slot).trans (if_pos rfl)) nofun
    obtain ⟨⟨q', hq', hgo⟩, -⟩ := hgoes.keeps hrec'
    refine ⟨q, q', hsame, hconveys.waiting, ?_, ?_⟩
    · rcases hgo with rfl | ⟨-, rfl⟩
      · exact Kernel.live?_eq_some_iff.2 ⟨hq', hqid, rfl⟩
      · exact Kernel.live?_eq_some_iff.2 ⟨hq', hqid, rfl⟩
    · rcases hgo with rfl | ⟨-, rfl⟩ <;> rfl

end Operation

/-! ### Any run -/

/-- **Whoever waits for a message is bound nowhere.** -/
lemma Reachable.waits {config : Config} {frames : Nat} {k : Kernel}
    (h : Reachable config frames k) : k.Waits := by
  induction h with
  | boot hcreate _ hboot =>
    intro slot q hq _
    rw [Kernel.record_start hcreate hboot hq]
  | step hreach op hlegal ih => exact op.waits hreach.sound hlegal ih

namespace Run

variable {config : Config} {frames : Nat} {k k' : Kernel} {t : ProcessId} {p : Process}

/-- **A run in which a process does not ask for messages** leaves its mailbox shut. -/
lemma shut (h : Run (fun k op => ¬ op.Awaits k t) k k') (hk : Reachable config frames k)
    (hs : k.Shut t) : k'.Shut t := by
  induction h with
  | refl => exact hs
  | step hrun op hlegal hop ih => exact op.shut (hrun.reachable hk).sound hlegal hop ih

/-- **A run in which a process gets no message** leaves the last one in its mailbox. -/
lemma keeps_mail
    (h : Run (fun k op => ¬ op.Delivers k t ∧ ((op.apply k).live? t).isSome) k k')
    (hk : Reachable config frames k) (hp : k.live? t = some p) :
    ∃ p', k'.live? t = some p' ∧ p'.mailbox.mail = p.mailbox.mail := by
  induction h with
  | refl => exact ⟨p, hp, rfl⟩
  | step hrun op hlegal hop ih =>
    obtain ⟨q, hq, hmail⟩ := ih
    obtain ⟨q', hq'⟩ := Option.isSome_iff_exists.1 hop.2
    exact ⟨q', hq', (op.keeps_mail (hrun.reachable hk).sound hlegal hop.1 hq hq').trans hmail⟩

end Run

/-- A kernel that may carry out a call of process `s` in state `k`: that one, or one that has saved
the registers of the process. -/
def Kernel.Serves (k : Kernel) (s : ProcessId) (k₁ : Kernel) : Prop :=
  k₁ = k ∨ (k.live? s).isSome ∧ ∃ f, k.Saved s f k₁

/-- **A send delivers all or nothing, and once for each time that the receiver waits.** A send that
fails changes nothing at all. One that succeeds goes to a process that waited, blocked and bound
nowhere: that one has the message in its mailbox and is ready to run, and if a page goes with the
message, it shows the frame that the sender shows, counted once more, and nothing else changes. What
a trap has put into a mailbox stays there until the next delivery, and there is no next delivery
unless the receiver waits for a message once more. -/
theorem delivery_exact {config : Config} {frames : Nat} {k : Kernel}
    (h : Reachable config frames k) :
    (∀ (s : ProcessId) (k₁ : Kernel) target value srcVa perm, k.Serves s k₁ →
      (∀ e, (k₁.trySend s target value srcVa perm).1 = .error e →
        (k₁.trySend s target value srcVa perm).2 = k₁) ∧
      ∀ v, (k₁.trySend s target value srcVa perm).1 = .ok v → ∃ t q,
        k₁.resolve s target false = .ok t ∧ q.status = .notRunnable ∧ q.resident = none ∧
          k₁.Conveys s t q value srcVa perm v (k₁.trySend s target value srcVa perm).2) ∧
    ∀ (op : Operation) s t value srcVa perm v, op.Sends k s t value srcVa perm v → ∃ q q',
      k.live? t = some q ∧ (op.apply k).live? t = some q' ∧
      q'.mailbox = (Kernel.told q s value srcVa perm).mailbox ∧
      (∀ k', Run (fun k op => ¬ op.Delivers k t ∧ ((op.apply k).live? t).isSome) (op.apply k) k' →
        ∃ p', k'.live? t = some p' ∧ p'.mailbox.mail = q'.mailbox.mail) ∧
      ∀ k', Run (fun k op => ¬ op.Awaits k t) (op.apply k) k' →
        ∀ op' : Operation, ¬ op'.Delivers k' t := by
  refine ⟨fun s k₁ target value srcVa perm hserves => ?_,
    fun op s t value srcVa perm v hsends => ?_⟩
  · obtain ⟨hk₁, hw₁⟩ : k₁.Sound ∧ k₁.Waits := by
      rcases hserves with rfl | ⟨hlive, f, hsaved⟩
      · exact ⟨h.sound, h.waits⟩
      · obtain ⟨p, hp⟩ := Option.isSome_iff_exists.1 hlive
        have hmoves := hsaved.moves (A := Kernel.anyDeed) hp fun _ _ => trivial
        exact ⟨hmoves.sound h.sound, hmoves.waits h.sound h.waits⟩
    refine ⟨fun e he => Kernel.trySend_error hk₁ he, fun v hv => ?_⟩
    obtain ⟨t, q, hres, hconveys⟩ := Kernel.trySend_ok hk₁ hv
    obtain ⟨hrec, -, -⟩ := Kernel.live?_eq_some_iff.1 hconveys.live
    exact ⟨t, q, hres, (hk₁.tables.sound _ q hrec).blocked hconveys.waiting,
      hw₁ _ q hrec hconveys.waiting, hconveys⟩
  · obtain ⟨q, q', hq, -, hq', hmail⟩ := hsends.told h.sound h.waits
    have hreach := h.step op (by cases hsends; trivial)
    refine ⟨q, q', hq, hq', hmail, fun k' hrun => hrun.keeps_mail hreach hq', fun k' hrun op' => ?_⟩
    rintro ⟨s', value', srcVa', perm', v', hsends'⟩
    have hshut : (op.apply k).Shut t := fun p hp => by
      rw [hq', Option.some.injEq] at hp
      rw [← hp, hmail]
      rfl
    have hreach' := hrun.reachable hreach
    obtain ⟨p, -, hp, hopen, -⟩ := hsends'.told hreach'.sound hreach'.waits
    rw [hrun.shut hreach hshut p hp] at hopen
    cases hopen

/-- A program sends its text to one that waits for a page. The receiver may read it then, and gets
no second message before it waits again. -/
theorem delivery_exact_text : ∃ (k : Kernel) (op : Operation) (q' : Process) (s s' : Nat)
    (e : Mapping), Reachable { maxProcesses := 2 } 16 k ∧
    op.Sends k (ProcessId.self.next 0) (ProcessId.self.next 1) 7 (some (.ofNat Layout.textBase))
      .userRead 1 ∧
    (op.apply k).live? (ProcessId.self.next 1) = some q' ∧
    q'.mailbox.mail = (ProcessId.self.next 0, 7, .userRead) ∧
    k.spaceOf? (ProcessId.self.next 0) = some s ∧
    k.machine.mapping? s (VirtAddr.ofNat Layout.textBase).page = some e ∧
    (k.trySend (ProcessId.self.next 0) (ProcessId.self.next 1) 7 (some (.ofNat Layout.textBase))
      .userRead).2.machine.mapping? s' 16 = some ⟨e.frame, .userRead⟩ ∧
    ∀ op' : Operation, ¬ op'.Delivers (op.apply k) (ProcessId.self.next 1) := by
  have hboot : Reachable { maxProcesses := 2 } 16 _ := .boot rfl (.refl _) rfl
  have hfirst := hboot.step
    (.spawn ⟨.ofNat Layout.textBase, [.readOnly (.ofNat Layout.textBase) [7]]⟩) trivial
  have hsecond := hfirst.step (.spawn ⟨⟨0⟩, []⟩) trivial
  have hrun := hsecond.step (.schedule 0) rfl
  have hwait := hrun.step (.trap 0 { (TrapFrame.initial 0).withCall
    (Syscall.receive (some ⟨0x10000⟩)).encode with trapno := TrapNumber.syscall }) trivial
  obtain ⟨hsend, htrap⟩ := delivery_exact hwait
  -- the send itself
  obtain ⟨-, hok⟩ := hsend (ProcessId.self.next 0) _ (ProcessId.self.next 1) 7
    (some (.ofNat Layout.textBase)) .userRead (.inl rfl)
  obtain ⟨t, q, ht, -, -, hconveys⟩ := hok 1 (by decide +kernel)
  obtain rfl : ProcessId.self.next 1 = t := Except.ok.inj ((show Kernel.resolve _ _ _ false =
    .ok (ProcessId.self.next 1) by decide +kernel).symm.trans ht)
  have hdst : q.mailbox.dstVa = some ⟨0x10000⟩ := by
    have hmail := congrArg (Option.map fun p : Process => p.mailbox.dstVa) hconveys.live
    exact (Option.some.inj hmail).symm.trans (by decide +kernel)
  obtain ⟨s, s', hs, -, ⟨e, he, hmapping⟩, -⟩ := hconveys.page _ _ rfl hdst
  -- the trap that it is made by
  have hsends : Operation.Sends _ (ProcessId.self.next 0) (ProcessId.self.next 1) 7
      (some (.ofNat Layout.textBase)) .userRead 1 (.trap 0 { (TrapFrame.initial 0).withCall
        (Syscall.trySend (ProcessId.self.next 1) 7 (some (.ofNat Layout.textBase))
          .userRead).encode with trapno := TrapNumber.syscall }) :=
    .trap rfl ⟨by decide +kernel, by decide +kernel, by decide +kernel, by decide +kernel⟩ ht
      (by decide +kernel)
  obtain ⟨q₀, q', hq₀, hq', hmail, -, honce⟩ := htrap _ _ _ _ _ _ _ hsends
  rw [hconveys.live, Option.some.injEq] at hq₀
  subst hq₀
  refine ⟨_, _, q', s, s', e, hwait, hsends, hq', ?_, hs, he, ?_, honce _ .refl⟩
  · rw [hmail, Kernel.told, hdst]
    rfl
  · exact (hmapping s' 16).trans (if_pos ⟨rfl, by decide⟩)

end Exokernel
