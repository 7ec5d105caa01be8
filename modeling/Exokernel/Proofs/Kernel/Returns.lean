/-
Whether calls return.

* `Kernel.answer_stays`: **a call that is answered** leaves the caller live, on its processor;
* `Syscall.ReadsBuffer`, `Kernel.giveUp_cases`, `Kernel.badBuffer_cases`: the calls that are not
  answered;
* `Kernel.leave_live`, `Kernel.trap_live`: what a processor does next changes neither the registers
  nor the mailbox of the process that trapped;
* `Kernel.trap_answered`: **a call that is answered** leaves its answer in the registers of the
  caller.
-/
import Exokernel.Proofs.Receiving
import Exokernel.Proofs.Registers

namespace Exokernel

/-- A call that reads a buffer of the caller. -/
def Syscall.ReadsBuffer : Syscall → Prop
  | .putString _ _ | .setFrame _ _ => True
  | _ => False

namespace Kernel

variable {k k' : Kernel} {id t target : ProcessId} {p q : Process} {cpu : Nat} {f : TrapFrame}
  {c : Syscall}

/-! ### Calls that are answered -/

/-- A live process is found after a record was changed, if the change keeps its record live. -/
lemma modify_lives {other : ProcessId} {g : Process → Process} (hp : k.live? id = some p)
    (hid : (g p).id = p.id) (hlive : (g p).status.isLive) :
    ∃ q, (k.modify other g).live? id = some q :=
  let ⟨q, hq, _⟩ := live?_modify_cases hp hid hlive
  ⟨q, hq⟩

/-- A process that destroys itself is not answered. -/
lemma exit_self (hp : k.live? t = some p) (hres : p.resident = some cpu)
    (ht : k.resolve t target true = .ok t) : (k.exit cpu t target).1 = .giveUp := by
  have hlog : (k.log .info s!"[{t}] exiting gracefully").live? t = some p :=
    ((quiet_log _ _).live? t).trans hp
  have hflow : ((k.log .info s!"[{t}] exiting gracefully").destroyOn cpu t).1 = .switch := by
    rw [destroyOn, beginFree?_eq hlog, hres]
    dsimp only
    rw [if_pos rfl]
  rw [exit, ht]
  dsimp only
  rw [if_pos rfl]
  split
  · rfl
  · next hend =>
    rw [hend] at hflow
    cases hflow

lemma exit_lives {result : Except KernelError UInt32} (hk : k.Sound) (hp : k.live? t = some p)
    (hres : p.resident = some cpu) (hout : (k.exit cpu t target).1 = .answer result) :
    ∃ q, (k.exit cpu t target).2.live? t = some q := by
  cases ht : k.resolve t target true with
  | error e =>
    rw [exit, ht]
    exact ⟨p, hp⟩
  | ok id =>
    have hne : id ≠ t := by
      rintro rfl
      rw [exit_self hp hres ht] at hout
      cases hout
    obtain ⟨r, hr⟩ := live?_of_resolve hp ht
    obtain ⟨k₀, hk₀, heq⟩ := exit_eq cpu ht
    have hsound : k₀.Sound := hk₀.sound hk
    have hslot := slot_ne_of_live? hr hp hne
    have hmoves : Moves (Deed.Spares t.slot) k₀ (k₀.destroyOn cpu id).2 :=
      destroyOn_moves hsound trivial (fun _ _ _ => hslot) fun _ _ _ _ _ => hslot
    rw [heq]
    exact ⟨p, hmoves.spared hsound (fun _ hd => hd) ((hk₀.live? t).trans hp)⟩

lemma Answers.lives (h : Answers cpu t c) (hk : k.Sound) (hp : k.live? t = some p) :
    ∃ q, (k.execute cpu t c).2.live? t = some q := by
  obtain ⟨result, k₂, p₂, hexec, hp₂, -, -⟩ := h k p hk hp
  exact ⟨p₂, hexec ▸ hp₂⟩

/-- Whoever is answered is live. -/
lemma answer_lives {result : Except KernelError UInt32} (hk : k.Sound) (hp : k.live? t = some p)
    (hres : p.resident = some cpu) (hout : (k.execute cpu t c).1 = .answer result) :
    ∃ q, (k.execute cpu t c).2.live? t = some q := by
  cases c with
  | putString va len =>
    rw [execute] at hout ⊢
    cases hput : k.putString t va len with
    | error e => cases e <;> exact ⟨p, hp⟩
    | ok k₁ => exact ⟨p, ((putString_quiet hput).live? t).trans hp⟩
  | getId | time => exact ⟨p, hp⟩
  | destroy target => exact exit_lives hk hp hres hout
  | yield => cases hout
  | exofork => exact answers_exofork.lives hk hp
  | setStatus target status => exact answers_setStatus.lives hk hp
  | setFrame target va =>
    rw [execute] at hout ⊢
    cases hset : k.setFrame t target va with
    | error e => cases e <;> exact ⟨p, hp⟩
    | ok k₁ =>
      obtain ⟨id, bytes, r, -, -, -, rfl⟩ := setFrame_cases hset
      exact modify_lives hp rfl (live?_eq_some_iff.1 hp).2.2
  | setFaultHandler target entry => exact answers_setFaultHandler.lives hk hp
  | pageAlloc target va perm => exact pageAlloc_leavesTable.answers.lives hk hp
  | pageMap src srcVa dst dstVa perm => exact pageMap_leavesTable.answers.lives hk hp
  | pageUnmap target va => exact pageUnmap_leavesTable.answers.lives hk hp
  | trySend target value va perm =>
    change ∃ q, (k.trySend t target value va perm).2.live? t = some q
    cases hsend : (k.trySend t target value va perm).1 with
    | error e => exact ⟨p, (trySend_error hk hsend).symm ▸ hp⟩
    | ok v =>
      obtain ⟨id, r, -, hconveys⟩ := trySend_ok hk hsend
      obtain ⟨hrec, hid, hlive⟩ := live?_eq_some_iff.1 hp
      have hrec' := hconveys.records t.slot
      by_cases hslot : id.slot = t.slot
      · rw [if_pos hslot] at hrec'
        have hsame : r = p := Option.some.inj <|
          (live?_eq_some_iff.1 hconveys.live).1.symm.trans (hslot ▸ hrec)
        exact ⟨_, live?_eq_some_iff.2 ⟨hrec', hsame ▸ hid, rfl⟩⟩
      · rw [if_neg hslot] at hrec'
        exact ⟨p, live?_eq_some_iff.2 ⟨hrec'.trans hrec, hid, hlive⟩⟩
  | receive dstVa =>
    rw [execute] at hout ⊢
    cases hrec : k.receive cpu t dstVa with
    | error e => exact ⟨p, hp⟩
    | ok k₁ =>
      rw [hrec] at hout
      cases hout

/-- **A call that is answered** leaves the caller live, on its processor. -/
lemma answer_stays {result : Except KernelError UInt32} (hk : k.Sound) (hp : k.live? t = some p)
    (hres : p.resident = some cpu) (hout : (k.execute cpu t c).1 = .answer result) :
    ∃ q, (k.execute cpu t c).2.live? t = some q ∧ q.resident = some cpu := by
  obtain ⟨q, hq⟩ := answer_lives hk hp hres hout
  refine ⟨q, hq, ?_⟩
  cases execute_affects hk hp hres hp hq with
  | setStatus hs ht =>
    rw [withStatus]
    split
    · exact hres
    · split <;> exact hres
  | yield hself => cases hout
  | @receive dstVa hself hva =>
    obtain ⟨k₁, hrec⟩ := receive_ok cpu hp hva
    rw [execute, hrec] at hout
    cases hout
  | _ => exact hres

/-! ### Calls that are not answered -/

/-- A call by which the caller gives up its processor is a yield, or ends the caller, or the caller
waits for a message. -/
lemma giveUp_cases (h : (k.execute cpu t c).1 = .giveUp) : c = .yield ∨
    (∃ target, c = .destroy target) ∨
    ∃ dstVa k', c = .receive dstVa ∧ k.receive cpu t dstVa = .ok k' := by
  cases c with
  | yield => exact .inl rfl
  | destroy target => exact .inr (.inl ⟨target, rfl⟩)
  | receive dstVa =>
    rw [execute] at h
    cases hrec : k.receive cpu t dstVa with
    | error e =>
      rw [hrec] at h
      cases h
    | ok k₁ => exact .inr (.inr ⟨dstVa, k₁, rfl, hrec⟩)
  | exofork =>
    rw [execute] at h
    cases hfork : k.exofork t <;> rw [hfork] at h <;> cases h
  | putString | setFrame => exact absurd h (acknowledgeBuffer_ne_giveUp _)
  | setStatus | setFaultHandler | pageUnmap => exact absurd h (acknowledge_ne_giveUp _)
  | getId | time | pageAlloc | pageMap | trySend => cases h

/-- Only calls that read a buffer of the caller end for the sake of one. -/
lemma badBuffer_cases {va : VirtAddr} (h : (k.execute cpu t c).1 = .badBuffer va) :
    Syscall.ReadsBuffer c := by
  have hack : ∀ r, (k.acknowledge r).1 ≠ .badBuffer va := fun r => by cases r <;> nofun
  cases c with
  | putString | setFrame => trivial
  | destroy target =>
    rw [execute, exit] at h
    split at h
    · cases h
    · dsimp only at h
      split at h <;> cases h
  | exofork =>
    rw [execute] at h
    cases hfork : k.exofork t <;> rw [hfork] at h <;> cases h
  | receive dstVa =>
    rw [execute] at h
    cases hrec : k.receive cpu t dstVa <;> rw [hrec] at h <;> cases h
  | setStatus | setFaultHandler | pageUnmap => exact absurd h (hack _)
  | getId | time | yield | pageAlloc | pageMap | trySend => cases h

/-! ### The way out -/

/-- A process that a processor leaves keeps its registers and its mailbox. -/
lemma schedule_live (hnone : k.current? cpu = none) (hp : k.live? id = some p) :
    ∃ q, (k.schedule cpu).2.live? id = some q ∧ q.frame = p.frame ∧ q.mailbox = p.mailbox := by
  obtain ⟨hrec, hid, hlive⟩ := live?_eq_some_iff.1 hp
  obtain ⟨⟨q, hq, hgo⟩, -⟩ := schedule_keeps hnone hrec
  rcases hgo with rfl | ⟨-, rfl⟩
  · exact ⟨q, live?_eq_some_iff.2 ⟨hq, hid, hlive⟩, rfl, rfl⟩
  · exact ⟨_, live?_eq_some_iff.2 ⟨hq, hid, rfl⟩, rfl, rfl⟩

/-- **What a processor does next** leaves the registers and the mailbox of the process that trapped
alone. -/
lemma leave_live {flow : Flow} (hk : k.Sound)
    (hcur : k.current? cpu = some id ∨ k.current? cpu = none) (hleaves : Leaves cpu (flow, k))
    (hp : k.live? id = some p) : ∃ q, (k.leave cpu id flow).2.live? id = some q ∧
      q.frame = p.frame ∧ q.mailbox = p.mailbox := by
  cases flow with
  | switch =>
    have hnone := hleaves rfl
    have hclear : k.Quiet (k.clearStale cpu id) := quiet_clearStale hk (by rw [hnone]; nofun)
    exact schedule_live (current?_clearStale hcur) ((hclear.live? id).trans hp)
  | stay =>
    rw [leave, hp]
    dsimp only
    split
    · exact ⟨p, hp, rfl, rfl⟩
    · by_cases hres : p.resident = some cpu
      · exact schedule_live (p := { p with resident := none }) (current?_unbind hk hp hres)
          (live?_unbind hp hres)
      · -- the process is bound elsewhere, so this processor does not claim it any more
        have hne : k.current? cpu ≠ some id := fun h => hres ((hk.current?_iff hp).1 h)
        have hsame : k.unbind cpu id = k.dropClaim cpu id := by
          rw [unbind, (live?_eq_some_iff.1 hp).1, Option.bind_some, if_neg hres]
        have hquiet : k.Quiet (k.unbind cpu id) := hsame ▸ quiet_dropClaim hne
        exact schedule_live ((hquiet.current cpu).trans (hcur.resolve_left hne))
          ((hquiet.live? id).trans hp)

/-- **After a trap that was handled**, the process that took it is live as it was when it was
handled, with the same registers and the same mailbox, or gone if it was gone then. -/
lemma trap_live (hk : k.Sound) (hcur : k.current? cpu = some id) (hp : k.live? id = some p)
    (hres : p.resident = some cpu) (huser : f.isUser) :
    match ((k.entered cpu id f).handle cpu id f).2.live? id with
    | none => (k.trap cpu f).2.live? id = none
    | some q => ∃ q', (k.trap cpu f).2.live? id = some q' ∧ q'.frame = q.frame ∧
        q'.mailbox = q.mailbox := by
  obtain ⟨hk₁, hcur₁, hleaves⟩ := handle_claims (f := f) hk hp hres huser
  rw [trap_entered hcur hp hres huser]
  cases hq : ((k.entered cpu id f).handle cpu id f).2.live? id with
  | some q => exact leave_live hk₁ hcur₁ hleaves hq
  | none =>
    refine Option.eq_none_iff_forall_ne_some.2 fun q' hq' => ?_
    obtain ⟨q, hq₁, -⟩ := leave_frame hk₁ hcur₁ hleaves hq'
    rw [hq] at hq₁
    cases hq₁

/-! ### Calls by a trap -/

/-- **A call that is answered** leaves its answer in the registers of the caller, which lives on. -/
lemma trap_answered {result : Except KernelError UInt32} (hk : k.Sound)
    (hcur : k.current? cpu = some id) (hp : k.live? id = some p) (hres : p.resident = some cpu)
    (huser : f.isUser) (hcause : TrapCause.ofNumber f.trapno = .syscall)
    (hout : (k.performed cpu id f).1 = .answer result) :
    ∃ q, (k.trap cpu f).2.live? id = some q ∧
      q.frame.regs.eax = (encodeResult result).toUInt32 := by
  obtain ⟨q, hq, hqres⟩ : ∃ q, (k.performed cpu id f).2.live? id = some q ∧
      q.resident = some cpu := by
    cases hc : Syscall.decode f.call with
    | error e =>
      obtain ⟨k₁, hsaved, heq⟩ := performed_error k id cpu hc
      exact ⟨{ p with frame := f }, by rw [heq]; exact hsaved.live? hp, hres⟩
    | ok c =>
      obtain ⟨k₁, hsaved, heq⟩ := performed_ok k id cpu hc
      rw [heq] at hout ⊢
      exact answer_stays (hsaved.sound hk hp) (hsaved.live? hp) hres hout
  obtain ⟨request, hhandle⟩ := handle_performed cpu hp hcause
  have hlive := trap_live hk hcur hp hres huser
  have hanswered : ((k.entered cpu id f).handle cpu id f).2.live? id =
      some { q with frame := q.frame.withResult (encodeResult result).toUInt32 } := by
    rw [hhandle, hout]
    exact live?_setAnswer _ hq hqres
  rw [hanswered] at hlive
  obtain ⟨q', hq', hframe, -⟩ := hlive
  exact ⟨q', hq', by rw [hframe]; rfl⟩

end Kernel

end Exokernel
