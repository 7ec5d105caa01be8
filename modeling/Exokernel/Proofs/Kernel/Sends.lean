/-
Sending a message, down to the last reference.

* `Kernel.trySend_error`: **a send that fails changes nothing** at all;
* `Kernel.Conveys`, `Kernel.trySend_ok`: **what a send that succeeds does**;
* `Saved.trySend`: that the registers of a process were saved makes no difference to a send.
-/
import Exokernel.Proofs.Kernel.Lives
import Exokernel.Proofs.Memory.Counts

namespace Exokernel.Kernel

variable {k k' : Kernel} {id sender target t : ProcessId} {p q : Process} {slot frame : Nat}
  {f : TrapFrame} {d : Deed} {A : Deed → Prop} {value v : UInt32} {va : VirtAddr}
  {srcVa : Option VirtAddr} {perm : Perm}

/-! ### Sends that fail -/

/-- **A send that fails changes nothing**: what it kept meanwhile, it let go. -/
lemma trySend_error (hk : k.Sound) {e : KernelError}
    (he : (k.trySend sender target value srcVa perm).1 = .error e) :
    (k.trySend sender target value srcVa perm).2 = k := by
  rcases trySend_cases (k := k) with ⟨_, -, heq | ⟨frame, hframe, heq⟩⟩ | ⟨_, v, -, -, hok, -⟩
  · exact heq
  · rw [heq, hk.accounted.release_retain hframe]
  · rw [hok] at he
    cases he

/-! ### Sends that succeed -/

/-- Whether a page goes with a message: the sender gives one, and the receiver takes one. -/
def carries (srcVa dstVa : Option VirtAddr) : Bool := srcVa.isSome && dstVa.isSome

/-- The record of a process that was sent a message. -/
def told (q : Process) (sender : ProcessId) (value : UInt32) (srcVa : Option VirtAddr)
    (perm : Perm) : Process :=
  { q with
    mailbox := deliveredMail sender value (if carries srcVa q.mailbox.dstVa then perm else .none)
    status := .runnable }

/-- **What a send that succeeds does**: the process `t` with record `q`, which waited, has the
message in its mailbox and is ready to run, and the sender is answered `v`. If a page goes with the
message, then what the sender shows at its address is shown where the receiver wants it. -/
structure Conveys (k : Kernel) (sender t : ProcessId) (q : Process) (value : UInt32)
    (srcVa : Option VirtAddr) (perm : Perm) (v : UInt32) (k' : Kernel) : Prop where
  live : k.live? t = some q
  waiting : q.mailbox.receiving
  records : ∀ slot : Nat, k'.table.records[slot]? =
    if t.slot = slot then some (told q sender value srcVa perm) else k.table.records[slot]?
  answer : v = if carries srcVa q.mailbox.dstVa then 1 else 0
  page : ∀ src dst, srcVa = some src → q.mailbox.dstVa = some dst → ∃ s s',
    k.spaceOf? sender = some s ∧ q.space = some s' ∧
      k.machine.Hands s src s' dst perm k'.machine
  nothing : carries srcVa q.mailbox.dstVa = false →
    k'.machine.frames = k.machine.frames ∧ k'.machine.spaces = k.machine.spaces

/-- A receiver that waits. -/
lemma records_told (srcVa : Option VirtAddr) (perm : Perm) (hq : k.live? t = some q) {m : Machine}
    {shown : Perm}
    (hshown : shown = if carries srcVa q.mailbox.dstVa then perm else .none)
    (h : ({ k with machine := m }.modify t fun p => { p with
      mailbox := deliveredMail sender value shown, status := .runnable }).Quiet k') (slot : Nat) :
    k'.table.records[slot]? =
      if t.slot = slot then some (told q sender value srcVa perm) else k.table.records[slot]? := by
  obtain ⟨hrec, -, -⟩ := live?_eq_some_iff.1 hq
  rw [h.records, modify, ProcessTable.getElem?_modify]
  split
  · next heq =>
    change k.table.records[slot]?.map _ = _
    rw [← heq, hrec, hshown]
    rfl
  · rfl

/-- What the sender offers, it shows at its address. -/
lemma offered_mapping? (h : k.offered sender va perm = .ok frame) : ∃ s e,
    k.spaceOf? sender = some s ∧ k.machine.mapping? s va.page = some e ∧ e.frame = frame ∧
      k.machine.Offers frame perm := by
  obtain ⟨hva, -, hshare⟩ := offered_ok_iff.1 h
  obtain ⟨s, e, hs, he, hframe, -⟩ :=
    (sharable_ok_iff (lt_userTop_of_isMappable hva)).1 hshare
  exact ⟨s, e, hs, he, hframe, offers_of_offered h⟩

/-- A message without a page. -/
lemma deliverTelling_alone (h : (k.deliverTelling sender t value none perm).1 = .ok v) : ∃ q,
    k.Conveys sender t q value none perm v (k.deliverTelling sender t value none perm).2 := by
  rw [deliverTelling] at h ⊢
  cases hdel : k.deliver sender t value none perm with
  | error e =>
    rw [hdel] at h
    cases h
  | ok r =>
    obtain ⟨shown, k₁⟩ := r
    rw [hdel] at h
    obtain ⟨q, m, hq, hopen, hquiet, ⟨rfl, rfl, -⟩ | ⟨_, _, _, _, _, hframe, _⟩⟩ := deliver_ok hdel
    · cases h
      have hrecords := records_told none perm hq rfl hquiet
      exact ⟨q, hq, hopen, hrecords, rfl, by rintro _ _ ⟨⟩, fun _ => ⟨hquiet.frames, hquiet.spaces⟩⟩
    · cases hframe

/-- A message with a page that is kept meanwhile. -/
lemma deliverTelling_page (hk : k.Sound) {s : Nat} {e : Mapping} (hs : k.spaceOf? sender = some s)
    (he : k.machine.mapping? s va.page = some e) (hoffers : k.machine.Offers e.frame perm)
    (h : (k.holding e.frame fun k => k.deliverTelling sender t value (some e.frame) perm).1 =
      .ok v) :
    ∃ q, k.Conveys sender t q value (some va) perm v
      (k.holding e.frame fun k => k.deliverTelling sender t value (some e.frame) perm).2 := by
  rw [holding, deliverTelling] at h ⊢
  cases hdel : deliver { k with machine := k.machine.retain e.frame } sender t value
    (some e.frame) perm with
  | error e' =>
    rw [hdel] at h
    cases h
  | ok r =>
    obtain ⟨shown, k₁⟩ := r
    rw [hdel] at h
    cases h
    dsimp only
    obtain ⟨q, m, hq, hopen, hquiet, hshown⟩ := deliver_ok hdel
    have hlet : (k₁.machine.release e.frame).frames = (m.release e.frame).frames :=
      congrArg (·.release e.frame) hquiet.frames
    refine ⟨q, ?_⟩
    rcases hshown with ⟨rfl, rfl, hnone⟩ | ⟨s', _, dst, hs', hdst, hframe, rfl, hm⟩
    · -- the receiver takes no page
      have hcarries : carries (some va) q.mailbox.dstVa = false := hnone
      have hrecords := records_told (k := k) (some va) perm hq
        (by rw [hcarries]; rfl) hquiet
      have hmachine := hk.accounted.release_retain hoffers.shown
      exact {
        live := hq
        waiting := hopen
        records := hrecords
        answer := by rw [hcarries]; rfl
        page := fun _ dst _ hdst => by
          rw [hdst] at hcarries
          cases hcarries
        nothing := fun _ => ⟨hlet.trans (congrArg (·.frames) hmachine), hquiet.spaces⟩ }
    · cases hframe
      have hcarries : carries (some va) q.mailbox.dstVa = true := by rw [hdst]; rfl
      have hrecords := records_told (k := k) (some va) shown hq
        (by rw [hcarries]; rfl) hquiet
      exact {
        live := hq
        waiting := hopen
        records := hrecords
        answer := by
          rw [hcarries, Perm.isEmpty_of_isRequestable hoffers.requestable]
          rfl
        page := fun src dst' hsrc hdst' => by
          cases hsrc
          rw [hdst, Option.some.injEq] at hdst'
          subst hdst'
          exact ⟨s, s', hs, hs', (hk.accounted.hands he hoffers hm).congr hlet hquiet.spaces
            hquiet.windows⟩
        nothing := fun hnone => by
          rw [hcarries] at hnone
          cases hnone }

/-- **What a send that succeeds does.** -/
lemma trySend_ok (hk : k.Sound) (h : (k.trySend sender target value srcVa perm).1 = .ok v) :
    ∃ t q, k.resolve sender target false = .ok t ∧
      k.Conveys sender t q value srcVa perm v (k.trySend sender target value srcVa perm).2 := by
  rw [trySend] at h ⊢
  cases hreceiver : k.receiverOf sender target with
  | error e =>
    rw [hreceiver] at h
    cases h
  | ok t =>
    rw [hreceiver] at h
    cases srcVa with
    | none =>
      obtain ⟨q, hq⟩ := deliverTelling_alone h
      exact ⟨t, q, (receiverOf_ok hreceiver).1, hq⟩
    | some va =>
      dsimp only at h ⊢
      cases hoffer : k.offered sender va perm with
      | error e =>
        rw [hoffer] at h
        cases h
      | ok frame =>
        obtain ⟨s, e, hs, he, rfl, hoffers⟩ := offered_mapping? hoffer
        rw [hoffer] at h
        obtain ⟨q, hq⟩ := deliverTelling_page hk hs he hoffers h
        exact ⟨t, q, (receiverOf_ok hreceiver).1, hq⟩

/-! ### Registers do not matter -/

/-- A machine with other processors maps the same pages. -/
lemma map_congr {m m' : Machine} (hframes : m'.frames = m.frames) (hspaces : m'.spaces = m.spaces)
    (s frame : Nat) (va : VirtAddr) (perm : Perm) :
    (m'.map s frame va perm).map (fun _ => ()) = (m.map s frame va perm).map fun _ => () := by
  simp only [Machine.map, Machine.ensureTable, Machine.space?, Machine.allocOwned, hframes, hspaces]
  split
  · rfl
  · cases m.spaces.spaces.find? s with
    | none => rfl
    | some space =>
      dsimp only
      cases space.tables.find? (va.toNat / Layout.tableSpan) with
      | some _ => rfl
      | none => cases m.frames.allocOwned? <;> rfl

/-- Its mailbox is the same with other registers. -/
lemma mailbox_reframed {p : Process} {c : Prop} [Decidable c] :
    (if c then { p with frame := f } else p).mailbox = p.mailbox := by
  split <;> rfl

namespace Saved

/-- The record of a process may have other registers. -/
lemma get (h : k.Saved id f k') (other : ProcessId) : k'.table.get other =
    (k.table.get other).map fun p => if id.slot = other.slot then { p with frame := f } else p := by
  rw [ProcessTable.get, ProcessTable.get, h.find?]
  cases k.table.find? other <;> rfl

lemma spaceOf (h : k.Saved id f k') (other : ProcessId) : k'.spaceOf other = k.spaceOf other := by
  rw [Kernel.spaceOf, Kernel.spaceOf, Kernel.spaceOf?, Kernel.spaceOf?, Kernel.live?, Kernel.live?,
    h.find?]
  cases k.table.find? other with
  | none => rfl
  | some p => by_cases hslot : id.slot = other.slot <;> simp [hslot]

lemma receiverOf (h : k.Saved id f k') :
    k'.receiverOf sender target = k.receiverOf sender target := by
  rw [Kernel.receiverOf, Kernel.receiverOf, h.resolve]
  cases k.resolve sender target false with
  | error e => rfl
  | ok t =>
    change (k'.table.get t >>= _) = (k.table.get t >>= _)
    rw [h.get]
    cases k.table.get t with
    | error e => rfl
    | ok p =>
      change (if (if id.slot = t.slot then _ else p).mailbox.receiving then _ else _) = _
      rw [mailbox_reframed]
      rfl

lemma offered (h : k.Saved id f k') : k'.offered sender va perm = k.offered sender va perm := by
  obtain ⟨-, hspaces, hwindows⟩ := h.memory
  simp only [Kernel.offered, sharable, h.spaceOf, Machine.lookup?, Machine.space?, hspaces,
    hwindows]

lemma retain (h : k.Saved id f k') (n : Nat) : Saved { k with machine := k.machine.retain n } id f
    { k' with machine := k'.machine.retain n } := by
  obtain ⟨k₀, h₀, h'⟩ := h
  have hkeep : ∀ {k₁ k₂ : Kernel}, k₁.Quiet k₂ → Quiet { k₁ with machine := k₁.machine.retain n }
      { k₂ with machine := k₂.machine.retain n } := fun h =>
    ⟨h.records, h.free, h.current, congrArg (·.retain n) h.frames, h.spaces, h.windows,
      ⟨h.same.cpus, h.same.processors, h.same.received⟩, h.active⟩
  exact ⟨_, hkeep h₀, hkeep h'⟩

lemma deliver (h : k.Saved id f k') (page : Option Nat) :
    (k'.deliver sender t value page perm).map (·.1) =
      (k.deliver sender t value page perm).map (·.1) := by
  rw [Kernel.deliver, Kernel.deliver, h.get]
  cases k.table.get t with
  | error e => rfl
  | ok p =>
    have hmail := mailbox_reframed (f := f) (p := p) (c := id.slot = t.slot)
    cases hopen : p.mailbox.receiving with
    | false => simp only [Except.map, Except.bind, bind, hmail, hopen, Bool.false_eq_true, if_false]
    | true =>
      simp only [Except.map, Except.bind, bind, hmail, hopen, if_true]
      cases page with
      | none => rfl
      | some frame =>
        cases p.mailbox.dstVa with
        | none => rfl
        | some dst =>
          simp only [h.spaceOf]
          cases k.spaceOf t with
          | error e => rfl
          | ok s =>
            obtain ⟨hframes, hspaces, -⟩ := h.memory
            have hmap := map_congr hframes hspaces s frame dst perm
            dsimp only
            cases hm : k.machine.map s frame dst perm <;>
              cases hm' : k'.machine.map s frame dst perm <;> rw [hm, hm'] at hmap
            · cases hmap
              rfl
            · cases hmap
            · cases hmap
            · rfl

lemma deliverTelling (h : k.Saved id f k') (page : Option Nat) :
    (k'.deliverTelling sender t value page perm).1 =
      (k.deliverTelling sender t value page perm).1 := by
  have hdeliver : (k'.deliver sender t value page perm).map (·.1) =
      (k.deliver sender t value page perm).map (·.1) := h.deliver page
  rw [Kernel.deliverTelling, Kernel.deliverTelling]
  cases hd : k.deliver sender t value page perm with
  | error e =>
    cases hd' : k'.deliver sender t value page perm with
    | error e' =>
      rw [hd, hd'] at hdeliver
      exact congrArg Except.error (Except.error.inj hdeliver)
    | ok r' =>
      rw [hd, hd'] at hdeliver
      cases hdeliver
  | ok r =>
    cases hd' : k'.deliver sender t value page perm with
    | error e' =>
      rw [hd, hd'] at hdeliver
      cases hdeliver
    | ok r' =>
      rw [hd, hd'] at hdeliver
      have hshown : r'.1 = r.1 := Except.ok.inj hdeliver
      dsimp only
      rw [hshown]

/-- **A kernel that has saved registers sends** with the same result. -/
lemma trySend (h : k.Saved id f k') : (k'.trySend sender target value srcVa perm).1 =
    (k.trySend sender target value srcVa perm).1 := by
  rw [Kernel.trySend, Kernel.trySend, h.receiverOf]
  cases k.receiverOf sender target with
  | error e => rfl
  | ok t =>
    cases srcVa with
    | none => exact h.deliverTelling none
    | some va =>
      dsimp only
      rw [h.offered]
      cases k.offered sender va perm with
      | error e => rfl
      | ok frame => exact (h.retain frame).deliverTelling (some frame)

end Saved

end Exokernel.Kernel
