/-
What a trap of one process may do to another.

* `Deed.Within`, `TrapDeed.within`: a trap that sends no message is about what its process owns;
* `Message`, `trap_within`: one that does is that before, the message, and that again after it;
* `Delivered`: what a message does to the process that waits for it;
* `trap_isolated`: **a trap of a process leaves all others alone**, except its children, one that it
  sends a message to, and the one that is dispatched next.
-/
import Exokernel.Proofs.Histories
import Exokernel.Proofs.Memory.Ranges

namespace Exokernel

open Layout

namespace Kernel

variable {k k' : Kernel} {id : ProcessId} {p q : Process} {cpu slot : Nat} {n : UInt32}
  {f : TrapFrame}

/-! ### What a process does on its own -/

lemma Saved.owns {caller : ProcessId} (h : k.Saved id f k') (howns : k'.Owns caller slot) :
    k.Owns caller slot := fun p hp => by
  have hget := h.record slot
  rw [hp] at hget
  split at hget
  · have hsaved := howns _ hget
    exact hsaved
  · exact howns p hget

/-- A message that a process sends by a trap. -/
def Sends (k : Kernel) (id : ProcessId) (f : TrapFrame) : Prop :=
  ∃ target value va perm, k.Calls id f (.trySend target value va perm)

/-- A deed that is about certain slots and sends nobody a message. It makes no address space but one
with number `n`. -/
def Deed.Within (owns : Nat → Prop) (n : UInt32) : Deed → Prop
  | .quiet => True
  | .make _ number => number = n
  | .edit id | .await id | .unbind id | .doom id | .clear id | .remap id | .work id _ _ =>
    owns id.slot
  | .bind _ | .deliver _ => False

lemma Deed.Within.spares {owns : Nat → Prop} {d : Deed} (hd : d.Within owns n)
    (hslot : ¬ owns slot) : d.Spares slot := by
  have hne : ∀ {id : ProcessId}, owns id.slot → id.slot ≠ slot :=
    fun howns heq => hslot (heq ▸ howns)
  cases d with
  | quiet | make => trivial
  | bind other => cases hd
  | deliver id => cases hd
  | edit id | await id | unbind id | doom id | clear id | remap id | work id before after =>
    exact hne hd

lemma Deed.Within.not_bind {owns : Nat → Prop} (slot : Nat) :
    ¬ (Deed.bind slot).Within owns n := nofun

lemma Deed.Within.numbered {owns : Nat → Prop} {d : Deed} (hd : d.Within owns n) :
    d.Numbered n := by
  cases d with
  | make => exact hd
  | _ => trivial

lemma Deed.Own.within {owns : Nat → Prop} {d : Deed} (hd : d.Own id) (hown : owns id.slot) :
    d.Within owns n := by
  cases hd with
  | quiet => trivial
  | edit | unbind | clear => exact hown

/-- A process owns itself. -/
lemma owns_self (hk : k.Sound) (hcur : k.current? cpu = some id) : k.Owns id id.slot :=
  fun p hp => by
    obtain ⟨q, hq, hid, -⟩ := (hk.tables.claim_iff cpu id).1 hcur
    rw [hq] at hp
    cases hp
    exact .inr (.inl hid)

/-- **A call that sends no message** is about slots that its caller owns. -/
lemma CallDeed.within {c : Syscall} {d : Deed} (hp : k.live? id = some p)
    (hd : k.CallDeed id c d) (hsends : ∀ target value va perm, c ≠ .trySend target value va perm) :
    d.Within (k.Owns id) k.machine.spaces.nextId := by
  have hself : k.Owns id id.slot :=
    owns_of_resolve hp (show k.resolve id .self true = .ok id from rfl)
  cases hd with
  | own hd => exact hd.within hself
  | await => exact hself
  | make => rfl
  | child hq hs =>
    intro q' hq'
    rw [hq] at hq'
    cases hq'
    exact .inl hs
  | destroy hid | doom hid | setStatus hid | setFrame hid | setFaultHandler hid | pageAlloc _ hid
  | pageMap hid | pageUnmap hid => exact owns_of_resolve hp hid
  | refused | deliver hid hv => exact absurd rfl (hsends _ _ _ _)

/-- **A trap that sends no message** is about slots that its process owns. -/
lemma TrapDeed.within {d : Deed} (hk : k.Sound) (hcur : k.current? cpu = some id)
    (hsends : ¬ k.Sends id f) (hd : k.TrapDeed id f d) :
    d.Within (k.Owns id) k.machine.spaces.nextId := by
  have hself := owns_self hk hcur
  cases hd with
  | own hd => exact hd.within hself
  | fault hcause hsaved hm => exact hself
  | call huser hlive hcause hsaved hc hd =>
    obtain ⟨p, hp⟩ := Option.isSome_iff_exists.1 hlive
    have hwithin := hd.within (hsaved.live? hp) fun target value va perm heq =>
      hsends ⟨target, value, va, perm, huser, hlive, hcause, heq ▸ hc⟩
    cases d with
    | quiet => trivial
    | make caller number => exact hsaved.memory.2.1 ▸ hwithin
    | bind other => cases hwithin
    | deliver other => cases hwithin
    | edit other | await other | unbind other | doom other | clear other | remap other
    | work other before after => exact hsaved.owns hwithin

/-! ### A process that sends a message -/

/-- A live process keeps its registers and its processor when somebody is sent a message. -/
lemma Sent.live? {caller target : ProcessId} {value : UInt32} (h : k.Sent caller target value k')
    (hp : k.live? id = some p) :
    ∃ p', k'.live? id = some p' ∧ p'.frame = p.frame ∧ p'.resident = p.resident := by
  obtain ⟨q, m, shown, hq, -, -, hquiet⟩ := h.sent
  obtain ⟨hrec, hid, hlive⟩ := live?_eq_some_iff.1 hp
  obtain ⟨hqrec, hqid, -⟩ := live?_eq_some_iff.1 hq
  have hget : k'.table.records[id.slot]? = if target.slot = id.slot then
      some { p with mailbox := deliveredMail caller value shown, status := .runnable }
      else some p := by
    rw [hquiet.records, modify, ProcessTable.getElem?_modify]
    change (if _ then k.table.records[id.slot]?.map _ else k.table.records[id.slot]?) = _
    rw [hrec]
    rfl
  split at hget
  · exact ⟨_, live?_eq_some_iff.2 ⟨hget, hid, rfl⟩, rfl, rfl⟩
  · exact ⟨p, live?_eq_some_iff.2 ⟨hget, hid, hlive⟩, rfl, rfl⟩

/-- The message that a process sends by a trap: what it does before, what comes of the message, and
what it does after. -/
structure Message (k : Kernel) (cpu : Nat) (id : ProcessId) (f : TrapFrame) (target : ProcessId)
    (value : UInt32) (k₁ k₂ k₃ : Kernel) : Prop where
  before : Moves (Deed.Within (k.Owns id) k.machine.spaces.nextId) k k₁
  sent : k₁.Sent id target value k₂
  after : Moves (Deed.Within (k.Owns id) k.machine.spaces.nextId) k₂ k₃
  goes : GoesOn cpu id k₃ (k.trap cpu f)
  /-- The sender is told of its success. -/
  answered : ∃ p v, k₃.live? id = some p ∧ (v = 0 ∨ v = 1) ∧ p.frame = f.withResult v

/-- **A process that sends a message** is refused, or is told of its success. -/
lemma trySend_trap {target : ProcessId} {value : UInt32} {va : Option VirtAddr} {perm : Perm}
    (hk : k.Sound) (hcur : k.current? cpu = some id)
    (hcalls : k.Calls id f (.trySend target value va perm)) :
    (∃ k₁, Moves (Deed.Within (k.Owns id) k.machine.spaces.nextId) k k₁ ∧
      GoesOn cpu id k₁ (k.trap cpu f)) ∨
    ∃ receiver k₁ k₂ k₃, (receiver = id ∨ receiver = target) ∧
      k.Message cpu id f receiver value k₁ k₂ k₃ := by
  have hA : ∀ d, Deed.Own id d → d.Within (k.Owns id) k.machine.spaces.nextId :=
    fun _ hd => hd.within (owns_self hk hcur)
  obtain ⟨k₁, p, request, hsaved, hp, hframe, hres, htrap⟩ := trap_call hk hcur hcalls
  obtain ⟨p₀, hp₀⟩ := Option.isSome_iff_exists.1 hcalls.2.1
  have hbefore : Moves (Deed.Within (k.Owns id) k.machine.spaces.nextId) k k₁ := hsaved.moves hp₀ hA
  have hk₁ := hbefore.sound hk
  have hcur₁ := (hk₁.current?_iff hp).2 hres
  let r := k₁.trySend id target value va perm
  have hexec : k₁.execute cpu id (.trySend target value va perm) =
      (.answer (r.1.map fun v => v), r.2) := rfl
  rw [hexec] at htrap
  rcases trySend_cases with ⟨e, herror, hrefused⟩ | ⟨receiver, v, hid, hv, hok, hsent⟩
  · have hrefuse : Moves (Deed.Within (k.Owns id) k.machine.spaces.nextId) k₁ r.2 :=
      hrefused.moves hk₁ hp (owns_self hk hcur)
    have hrel : Released cpu (.answer (r.1.map fun v => v), r.2) := nofun
    obtain ⟨hconclude, hleaves⟩ := conclude_moves (hrefuse.sound hk₁)
      (hrefuse.onlyOn hk₁ Deed.Within.not_bind (onlyOn_of_live? hp hres)) hA request hrel
    have hall := hrefuse.trans hconclude
    obtain ⟨k₃, hleave, hgoes⟩ := leave_cases (hall.sound hk₁) hA
      (hcur₁ ▸ hall.current Deed.Within.not_bind cpu) hleaves
    exact .inl ⟨k₃, (hbefore.trans hall).trans hleave, htrap ▸ hgoes⟩
  · have hdeliver : Moves (fun d => d = .quiet ∨ d = .deliver receiver) k₁ r.2 :=
      hsent.moves (.inl rfl) (.inr rfl)
    have hk₂ := hdeliver.sound hk₁
    obtain ⟨p₂, hp₂, hframe₂, hres₂⟩ := hsent.live? hp
    have hp₃ := live?_setAnswer (encodeResult (.ok v)) hp₂ (hres₂.trans hres)
    have hanswer : Moves (Deed.Within (k.Owns id) k.machine.spaces.nextId) r.2
        ((r.2.setAnswer cpu id (encodeResult (.ok v))).audit id
          (.response request (some (encodeResult (.ok v))))) :=
      (setAnswer_moves _ (hA _ .edit)).trans (.quiet (hA _ .quiet) (quiet_audit _ _))
    have hcur₂ : r.2.current? cpu = some id ∨ r.2.current? cpu = none :=
      hcur₁ ▸ hdeliver.current (fun _ h => by rcases h with h | h <;> cases h) cpu
    have hcur₃ : Kernel.current? _ cpu = some id ∨ Kernel.current? _ cpu = none :=
      (hanswer.current Deed.Within.not_bind cpu).elim (fun h => h ▸ hcur₂) .inr
    obtain ⟨k₃, p₃, hleave, hgoes, hlive, hframe₃⟩ := leave_stay_cases (hanswer.sound hk₂)
      hA hp₃ hcur₃
    refine .inr ⟨receiver, k₁, r.2, k₃, ?_, hbefore, hsent, hanswer.trans hleave, ?_, p₃, v, hlive,
      hv, ?_⟩
    · exact (resolve_cases hid).imp_right And.left
    · rw [htrap]
      have hanswered : r.1.map (fun v => v) = .ok v := by rw [show r.1 = .ok v from hok]; rfl
      rw [hanswered]
      exact hgoes
    · have hword : (encodeResult (.ok v)).toUInt32 = v := UInt32.toUInt32_toInt32 v
      rw [hframe₃, hframe₂, hframe, hword]

/-- **What a trap comes to**: what its process does on its own, and possibly a message. -/
lemma trap_within (hk : k.Sound) (hcur : k.current? cpu = some id) :
    (∃ k₁, Moves (Deed.Within (k.Owns id) k.machine.spaces.nextId) k k₁ ∧
      (GoesOn cpu id k₁ (k.trap cpu f) ∨ ∃ panic, k.trap cpu f = (.halt panic, k₁))) ∨
    ∃ target value va perm receiver k₁ k₂ k₃, k.Calls id f (.trySend target value va perm) ∧
      (receiver = id ∨ receiver = target) ∧ k.Message cpu id f receiver value k₁ k₂ k₃ := by
  by_cases hsends : k.Sends id f
  · obtain ⟨target, value, va, perm, hcalls⟩ := hsends
    rcases trySend_trap hk hcur hcalls with ⟨k₁, hmoves, hgoes⟩ | ⟨receiver, k₁, k₂, k₃, hrec, hmsg⟩
    · exact .inl ⟨k₁, hmoves, .inl hgoes⟩
    · exact .inr ⟨target, value, va, perm, receiver, k₁, k₂, k₃, hcalls, hrec, hmsg⟩
  · obtain ⟨k₁, hmoves, hgoes⟩ := trap_cases (f := f) hk hcur
    exact .inl ⟨k₁, hmoves.mono fun _ => TrapDeed.within hk hcur hsends, hgoes⟩

/-! ### What others keep -/

/-- A message goes to one process, which waits for it, and changes nothing else. -/
lemma Sent.keeps {caller target : ProcessId} {value : UInt32} (h : k.Sent caller target value k')
    (hs : k.Separate n) (hq : k.table.records[slot]? = some q) :
    k.Keeps slot q k' ∨ q.id = target ∧ q.mailbox.receiving ∧ ∃ shown,
      k'.table.records[slot]? =
        some { q with mailbox := deliveredMail caller value shown, status := .runnable } ∧
      ∀ s page, q.space = some s → (∀ va, q.mailbox.dstVa = some va → va.page ≠ page) →
        k'.machine.mapping? s page = k.machine.mapping? s page := by
  obtain ⟨r, m, shown, hr, hopen, hshows, hquiet⟩ := h.sent
  obtain ⟨hrec, hrid, -⟩ := live?_eq_some_iff.1 hr
  have hget : k'.table.records[slot]? = if target.slot = slot then
      some { q with mailbox := deliveredMail caller value shown, status := .runnable }
      else some q := by
    rw [hquiet.records, modify, ProcessTable.getElem?_modify]
    change (if _ then k.table.records[slot]?.map _ else k.table.records[slot]?) = _
    rw [hq]
    rfl
  split at hget
  · next hslot =>
    rw [hslot, hq] at hrec
    cases hrec
    refine .inr ⟨hrid, hopen, shown, hget, fun s page _ hpage => ?_⟩
    exact (hquiet.mapping? s page).trans (hshows.mapping? fun va _ => hpage va)
  · next hslot =>
    refine .inl ⟨hget, fun s page hqs => (hquiet.mapping? s page).trans
      (hshows.mapping? fun va hrs _ => ?_)⟩
    exact absurd rfl (hs.space_ne hrec hrs hq hslot hqs)

/-- The record `q` of a process that waits becomes `q₁`, by a message that process `id` sends it by
a trap with registers `f`. The sender is told of its success. -/
structure Delivered (k : Kernel) (id : ProcessId) (f : TrapFrame) (q q₁ : Process) (k' : Kernel) :
    Prop where
  waiting : q.mailbox.receiving
  received : ∃ value va perm shown, k.Calls id f (.trySend q.id value va perm) ∧
    q₁ = { q with mailbox := deliveredMail id value shown, status := .runnable }
  answered : ∃ p v, k'.live? id = some p ∧ (v = 0 ∨ v = 1) ∧ p.frame = f.withResult v

/-- What a trap of process `id` leaves of another: its record `q` is `q'` afterwards, with the same
identity, parent, registers, fault handler and address space. If it waited for a message, it may
have got one in between, as record `q₁`, and then a page where it wanted it. If it is dispatched, it
runs on the processor that took the trap. -/
structure Left (k : Kernel) (cpu : Nat) (id : ProcessId) (f : TrapFrame) (slot : Nat)
    (q q₁ q' : Process) : Prop where
  record : (k.trap cpu f).2.table.records[slot]? = some q'
  same : q'.id = q.id ∧ q'.parent = q.parent ∧ q'.frame = q.frame ∧
    q'.faultHandler = q.faultHandler ∧ q'.space = q.space
  message : q₁ = q ∨ k.Delivered id f q q₁ (k.trap cpu f).2
  dispatch : Goes cpu q₁ (k.trap cpu f) q'
  pages : ∀ s page, q.space = some s →
    (q₁ = q ∨ ∀ va, q.mailbox.dstVa = some va → va.page ≠ page) →
    (k.trap cpu f).2.machine.mapping? s page = k.machine.mapping? s page

/-- **What a process does not own**, a trap leaves as it is, or delivers a message to it, or
dispatches it. -/
lemma trap_left (hk : k.Sound) (hs : k.Separate k.machine.spaces.nextId)
    (hcur : k.current? cpu = some id) (hq : k.table.records[slot]? = some q)
    (hused : q.status ≠ .free) (hown : ¬ k.Owns id slot) :
    ∃ q₁ q', k.Left cpu id f slot q q₁ q' := by
  have hnumbered : ∀ d, Deed.Within (k.Owns id) k.machine.spaces.nextId d →
      d.Numbered k.machine.spaces.nextId := fun _ hd => hd.numbered
  have hspares : ∀ d, Deed.Within (k.Owns id) k.machine.spaces.nextId d → d.Spares slot :=
    fun _ hd => hd.spares hown
  rcases trap_within (f := f) hk hcur with ⟨k₁, hmoves, hgoes⟩ |
    ⟨target, value, va, perm, receiver, k₁, k₂, k₃, hcalls, hrec, hmsg⟩
  · have hkeeps := hmoves.keeps hk hnumbered hs hspares hq hused
    rcases hgoes with hgoes | ⟨panic, heq⟩
    · obtain ⟨⟨q', hq', hgo⟩, -, hspaces⟩ := hgoes.keeps hkeeps.record
      refine ⟨q, q', hq', hgo.same, .inl rfl, hgo, fun s page hqs _ => ?_⟩
      rw [Machine.mapping?, Machine.space?, hspaces]
      exact hkeeps.pages s page hqs
    · rw [← Prod.eta (k.trap cpu f), Prod.mk.injEq] at heq
      exact ⟨q, q, heq.2 ▸ hkeeps.record, ⟨rfl, rfl, rfl, rfl, rfl⟩, .inl rfl, .inl rfl,
        fun s page hqs _ => heq.2 ▸ hkeeps.pages s page hqs⟩
  · have hkeeps := hmsg.before.keeps hk hnumbered hs hspares hq hused
    have hk₁ := hmsg.before.sound hk
    have hs₁ := hmsg.before.separate hk hnumbered hs
    have hsent : Moves (Deed.Numbered k.machine.spaces.nextId) k₁ k₂ :=
      hmsg.sent.moves trivial trivial
    have hk₂ := hsent.sound hk₁
    have hs₂ := hsent.separate hk₁ (fun _ hd => hd) hs₁
    obtain ⟨p, v, hp, hv, hframe⟩ := hmsg.answered
    obtain ⟨p', hp', hframe'⟩ := hmsg.goes.live? hp
    rcases hmsg.sent.keeps hs₁ hkeeps.record with hkept | ⟨hid, hopen, shown, hmail, hpages⟩
    · have hlast := (hkeeps.trans hkept).trans
        (hmsg.after.keeps hk₂ hnumbered hs₂ hspares hkept.record hused)
      obtain ⟨⟨q', hq', hgo⟩, -, hspaces⟩ := hmsg.goes.keeps hlast.record
      refine ⟨q, q', hq', hgo.same, .inl rfl, hgo, fun s page hqs _ => ?_⟩
      rw [Machine.mapping?, Machine.space?, hspaces]
      exact hlast.pages s page hqs
    · have hlast := hmsg.after.keeps hk₂ hnumbered hs₂ hspares hmail (by rintro ⟨⟩)
      obtain ⟨⟨q', hq', hgo⟩, -, hspaces⟩ := hmsg.goes.keeps hlast.record
      have hto : q.id = target := by
        rcases hrec with rfl | rfl
        · exact absurd (fun r hr => by rw [hq] at hr; cases hr; exact .inr (.inl hid)) hown
        · exact hid
      refine ⟨_, q', hq', hgo.same, .inr ⟨hopen, ⟨value, va, perm, shown, hto ▸ hcalls, rfl⟩, p', v,
        hp', hv, hframe'.trans hframe⟩, hgo, fun s page hqs hpage => ?_⟩
      rw [Machine.mapping?, Machine.space?, hspaces]
      have hpage' : ∀ va, q.mailbox.dstVa = some va → va.page ≠ page := by
        refine hpage.resolve_left fun heq => ?_
        have hclosed : q.mailbox.receiving = false := congrArg (·.mailbox.receiving) heq.symm
        rw [hclosed] at hopen
        cases hopen
      exact (hlast.pages s page hqs).trans ((hpages s page hqs hpage').trans
        (hkeeps.pages s page hqs))

/-! ### Memory of others -/

variable {frame : Nat}

/-- A page of process `id` shows a frame. -/
def Maps (k : Kernel) (id : ProcessId) (frame : Nat) : Prop :=
  ∃ s page e, k.spaceOf? id = some s ∧ k.machine.mapping? s page = some e ∧ e.frame = frame

/-- The kernel reaches a frame for a process only through a page that shows it. -/
lemma mappedFrame_ne {s : Nat} {va : VirtAddr} (hs : k.spaceOf? id = some s)
    (hn : ¬ k.Maps id frame) {address : Nat} (hlt : address < userTop) :
    k.machine.mappedFrame s va address ≠ .ok frame := fun h => by
  obtain ⟨e, he, hframe⟩ := (Machine.mappedFrame_ok_iff hlt).1 h
  exact hn ⟨s, _, e, hs, he, hframe⟩

/-- A fault frame goes to memory of the process that took the fault. -/
lemma contents?_faultFrame {s : Nat} {plan : UpcallPlan} {data : List UInt8}
    (hs : k.spaceOf? id = some s) (hn : ¬ k.Maps id frame)
    (hplan : UpcallPlan.ofStackPointer f.esp = .ok plan) (hlen : data.length = FaultFrame.size) :
    (k.machine.copyOut s plan.frameVa data).2.frames.contents? frame =
      k.machine.frames.contents? frame := by
  refine Machine.contents?_copyOut data fun p hp => mappedFrame_ne hs hn ?_
  rw [hlen] at hp
  exact Nat.lt_of_lt_of_le (start_lt_of_mem_pieces hp).2 (UpcallPlan.frameVa_bounds hplan).2

/-- Work that a trap does on memory changes no frame but those that its process maps. -/
lemma TrapDeed.contents? {other : ProcessId} {before after : Machine} (hk : k.Sound)
    (hin : (k.machine.frames.allocated? frame).isSome) (hn : ¬ k.Maps id frame)
    (hd : k.TrapDeed id f (.work other before after)) :
    after.frames.contents? frame = before.frames.contents? frame := by
  cases hd with
  | own hd => cases hd
  | call huser hlive hcause hsaved hc hd =>
    cases hd with
    | own hd => cases hd
    | pageAlloc s hid =>
      obtain ⟨hframes, hspaces, hwindows⟩ := hsaved.memory
      exact Machine.contents?_mapZeroed (hk.accounted.congr hframes hspaces hwindows)
        (hframes ▸ hin)
  | fault hcause hsaved hm =>
    cases hm with
    | mk hs hplan hlen =>
      refine contents?_faultFrame hs (fun ⟨s', page, e, hs', he, hframe⟩ => hn ?_)
        (planUpcall_ok hplan).1 hlen
      refine ⟨s', page, e, hsaved.spaceOf? hs', ?_, hframe⟩
      rwa [Machine.mapping?, Machine.space?, hsaved.memory.2.1] at he

/-- **A trap changes no memory but that of its process.** -/
lemma trap_contents (hk : k.Sound) (hcur : k.current? cpu = some id)
    (hin : (k.machine.frames.allocated? frame).isSome) (hn : ¬ k.Maps id frame) :
    (k.trap cpu f).2.machine.frames.contents? frame = k.machine.frames.contents? frame := by
  obtain ⟨k₁, hmoves, hgoes⟩ := trap_cases (f := f) hk hcur
  have hsame : k₁.machine.frames.contents? frame = k.machine.frames.contents? frame :=
    hmoves.contents? fun _ _ _ hd => hd.contents? hk hin hn
  rcases hgoes with hgoes | ⟨panic, heq⟩
  · cases hgoes with
    | resume hp hrun hres heq => rwa [heq]
    | schedule hnone heq =>
      have hlast : Moves (fun d => d = .quiet ∨ ∃ slot, d = .bind slot) k₁ (k₁.schedule cpu).2 :=
        schedule_moves hnone (.inl rfl) fun slot => .inr ⟨slot, rfl⟩
      rw [heq, ← hsame]
      refine hlast.contents? fun _ _ _ h => ?_
      rcases h with h | ⟨slot, h⟩ <;> cases h
  · rwa [heq]

end Kernel

/-! ### Any state before the numbers of address spaces come round -/

/-- **A trap of a process leaves all others alone**, apart from its children, as long as fewer than
`2 ^ 32 - 1` address spaces have been made. Another process keeps
its identity, its parent, its registers, its fault handler, its address space and its pages; only if
it waits for a message and the trap is one that sends it, the message changes its mailbox, its
status and the page where it wanted one, and only if it is dispatched, that changes its status, its
processor and the count of its runs. No frame changes that was in use and that the process does not
map. -/
theorem trap_isolated {config : Config} {frames : Nat} {k : Kernel}
    (h : Early config frames k) {cpu : Nat} {id : ProcessId} (hcur : k.current? cpu = some id)
    (f : TrapFrame) :
    (∀ (slot : Nat) (q : Process), k.table.records[slot]? = some q → q.status ≠ .free →
      q.id ≠ id → q.parent ≠ id → ∃ q₁ q', k.Left cpu id f slot q q₁ q') ∧
    ∀ n, (k.machine.frames.allocated? n).isSome → ¬ k.Maps id n →
      (k.trap cpu f).2.machine.frames.contents? n = k.machine.frames.contents? n := by
  have hk := h.reachable.sound
  refine ⟨fun slot q hq hs hid hparent => ?_, fun n => Kernel.trap_contents hk hcur⟩
  refine Kernel.trap_left hk h.separate hcur hq hs fun howns => ?_
  rcases howns q hq with hfree | hself | hchild
  · exact hs hfree
  · exact hid hself
  · exact hparent hchild

/-- A process that waits gets the message that another sends it. -/
theorem trap_isolated_message : ∃ (k : Kernel) (f : TrapFrame) (q q₁ q' : Process),
    Early { maxProcesses := 2 } 16 k ∧ k.current? 0 = some (ProcessId.self.next 0) ∧
    k.table.records[1]? = some q ∧ k.Left 0 (ProcessId.self.next 0) f 1 q q₁ q' ∧
    q'.mailbox.value = 7 := by
  have hboot : Booted { maxProcesses := 2 } 16 _ := ⟨_, [0], rfl, .refl _, rfl⟩
  have hfirst := hboot.history.snoc (.spawn ⟨⟨0⟩, []⟩) trivial
  have hsecond := hfirst.snoc (.spawn ⟨⟨0⟩, []⟩) trivial
  have hrun := hsecond.snoc (.schedule 0) rfl
  have hwaits := hrun.snoc (.trap 0 { (TrapFrame.initial 0).withCall
    (Syscall.receive none).encode with trapno := TrapNumber.syscall }) trivial
  have hwait := hwaits.early hboot (by decide)
  obtain ⟨hothers, -⟩ := trap_isolated hwait
    (show Kernel.current? _ 0 = some (ProcessId.self.next 0) from rfl)
    { (TrapFrame.initial 0).withCall
      (Syscall.trySend (ProcessId.self.next 1) 7 none .none).encode with
      trapno := TrapNumber.syscall }
  obtain ⟨q₁, q', hleft⟩ := hothers 1 _ rfl (by decide) (by decide) (by decide)
  refine ⟨_, _, _, q₁, q', hwait, rfl, rfl, hleft, ?_⟩
  have hmail := congrArg (Option.map fun p : Process => p.mailbox.value) hleft.record
  exact (Option.some.inj hmail).symm.trans rfl

end Exokernel
