/-
Page faults that a process handles.

* `Machine.copyOut_frame`: **a fault frame** that is written on an exception stack is there to be
  read, and no other frame changes;
* `Kernel.Handles`: a process that can be told of its faults;
* `Kernel.trap_told`, `Handles.trap`, `Active.fault`: **a page fault** of such a process resumes it
  at its handler.
-/
import Exokernel.Bench.Memory
import Exokernel.Proofs.Authority
import Exokernel.Proofs.Bench.Active
import Exokernel.Proofs.Memory.Checks
import Exokernel.Proofs.Memory.Provisions

namespace Exokernel

open Layout

namespace Machine

variable {m : Machine} {s n address : Nat} {va : VirtAddr} {e : Mapping} {perm : Perm}
  {kept : List Nat}
  {data : List UInt8}

/-- User code may use a byte of a page that shows something. -/
lemma checkUser_byte (hlt : va.toNat < userTop) (he : m.mapping? s va.page = some e)
    (hallowed : e.perm.contains (perm ||| .userRead) = true) :
    m.checkUser s va 1 perm = .ok () := by
  have hlimit : userTop < userLimit := by decide
  exact checkUser_byte_iff.2 ⟨Nat.lt_trans hlt hlimit, e, (lookup?_of_lt hlt).trans he, hallowed⟩

/-- The kernel writes through one page: what it wrote is there, and nothing else changes. -/
lemma byte?_copyOut_page {page i : Nat} (hacc : m.Accounted kept [])
    (he : m.mapping? s page = some e) (hpieces : ∀ p ∈ pieces va.toNat data.length,
      p.page = page ∧ m.mappedFrame s va p.start = .ok e.frame) (hi : i < pageSize) :
    (m.copyOut s va data).2.frames.byte? e.frame i =
      if va.toNat ≤ page * pageSize + i ∧ page * pageSize + i < va.toNat + data.length then
        data[page * pageSize + i - va.toNat]? else m.frames.byte? e.frame i := by
  obtain ⟨hcont, htotal⟩ := contiguous_pieces va.toNat data.length
  have hok : (m.copyOut s va data).1 = .ok () :=
    (writePieces_eq_checkPieces ..).trans (checkPieces_ok fun p hp => ⟨_, (hpieces p hp).2⟩)
  have hwritten : writtenBytes (m.mappedFrame s va) (pieces va.toNat data.length) = data.length :=
    (writtenBytes_of_ok hok).trans htotal
  have hiff : ∀ p ∈ pieces va.toNat data.length, ∀ k, m.mappedFrame s va p.start = .ok k →
      (p.page = page ↔ k = e.frame) := fun p hp k hk => by
    rw [(hpieces p hp).2, Except.ok.injEq] at hk
    exact ⟨fun _ => hk.symm, fun _ => (hpieces p hp).1⟩
  have hbyte := byte?_writePieces hcont (Nat.le_of_eq htotal) (hacc.isSome_of_mapping? he) hiff hi
  rwa [hwritten] at hbyte

/-- A range on an exception stack. -/
lemma covered_exceptionStack {len : Nat} (he : m.mapping? s Kernel.exceptionPage = some e)
    (hperm : e.perm.isRequestable = true) (hlow : exceptionStackBottom ≤ va.toNat)
    (hhigh : va.toNat + len ≤ exceptionStackTop) : m.Covered s va len := by
  refine ⟨hhigh, fun page hpage => ⟨e, ?_, hperm⟩⟩
  obtain ⟨hlen, hfirst, hlast⟩ := mem_pagesOf_iff.1 hpage
  have hstart : va.toNat / pageSize = Kernel.exceptionPage :=
    Kernel.div_exceptionStack hlow (by omega)
  have hend : (va.toNat + len - 1) / pageSize = Kernel.exceptionPage :=
    Kernel.div_exceptionStack (by omega) (by omega)
  obtain rfl : page = Kernel.exceptionPage := by omega
  exact he

/-- **A fault frame that is written** on an exception stack is there afterwards. Beside it nothing
changes on the frame of the exception stack, and no other frame does. -/
lemma copyOut_frame (hacc : m.Accounted kept [])
    (he : m.mapping? s Kernel.exceptionPage = some e) (hlow : exceptionStackBottom ≤ va.toNat)
    (hhigh : va.toNat + data.length ≤ exceptionStackTop) :
    (m.copyOut s va data).1 = .ok () ∧
      (∀ j < data.length, (m.copyOut s va data).2.byte? s (va.toNat + j) = data[j]?) ∧
      (∀ i < pageSize, ¬ (va.toNat ≤ Kernel.exceptionPage * pageSize + i ∧
          Kernel.exceptionPage * pageSize + i < va.toNat + data.length) →
        (m.copyOut s va data).2.frames.byte? e.frame i = m.frames.byte? e.frame i) ∧
      ∀ n, n ≠ e.frame → (m.copyOut s va data).2.frames.contents? n = m.frames.contents? n := by
  have hin : ∀ a, va.toNat ≤ a → a < va.toNat + data.length →
      a < userTop ∧ a / pageSize = Kernel.exceptionPage := fun a hfirst hlast =>
    ⟨Nat.lt_of_lt_of_le hlast hhigh, Kernel.div_exceptionStack (Nat.le_trans hlow hfirst)
      (Nat.lt_of_lt_of_le hlast hhigh)⟩
  have hpieces : ∀ p ∈ pieces va.toNat data.length, p.page = Kernel.exceptionPage ∧
      m.mappedFrame s va p.start = .ok e.frame := fun p hp => by
    obtain ⟨hlt, hpage⟩ := hin _ (start_lt_of_mem_pieces hp).1 (start_lt_of_mem_pieces hp).2
    exact ⟨hpage, (mappedFrame_ok_iff hlt).2 ⟨e, hpage ▸ he, rfl⟩⟩
  have he' : (m.copyOut s va data).2.mapping? s Kernel.exceptionPage = some e := he
  refine ⟨(writePieces_eq_checkPieces ..).trans (checkPieces_ok fun p hp => ⟨_, (hpieces p hp).2⟩),
    fun j hj => ?_, fun i hi hout => ?_, fun n hn => contents?_copyOut data fun p hp hc => hn ?_⟩
  · have hlt : (va.toNat + j) % pageSize < pageSize := Nat.mod_lt _ (by decide)
    have hplace : Kernel.exceptionPage * pageSize + (va.toNat + j) % pageSize = va.toNat + j := by
      rw [← (hin (va.toNat + j) (Nat.le_add_right _ _) (Nat.add_lt_add_left hj _)).2]
      exact Nat.div_add_mod' _ _
    have hbyte := byte?_copyOut_page hacc he hpieces hlt
    rw [← byte?_of_mapping? he' hlt, hplace, if_pos (by omega), Nat.add_sub_cancel_left] at hbyte
    exact hbyte
  · rw [byte?_copyOut_page hacc he hpieces hi, if_neg hout]
  · rw [(hpieces p hp).2] at hc
    cases hc
    rfl

end Machine

/-- The places of a page that a fault frame takes, on the page of the exception stack. -/
def UpcallPlan.Takes (plan : UpcallPlan) (i : Nat) : Prop :=
  plan.frameVa.toNat ≤ Kernel.exceptionPage * pageSize + i ∧
    Kernel.exceptionPage * pageSize + i < plan.frameVa.toNat + FaultFrame.size

namespace UserContext

/-- The registers with which a process takes a page fault. -/
def faultFrame (f : TrapFrame) (err : UInt32) : TrapFrame :=
  { f with trapno := TrapNumber.pageFault, err }

/-- The registers with which it enters its fault handler. -/
def handlerFrame (f : TrapFrame) (err : UInt32) (plan : UpcallPlan) : TrapFrame :=
  { faultFrame f err with
    eip := (VirtAddr.ofNat Bench.handlerEntry).word
    esp := plan.frameVa.word }

end UserContext

/-! ### The kernel -/

namespace Kernel

open UserContext

variable {k k' : Kernel} {id : ProcessId} {p : Process} {cpu s : Nat} {f : TrapFrame}
  {entry va : VirtAddr} {plan : UpcallPlan} {e e' : Mapping}

/-- **A process can be told of a fault** if its exception stack can be written, its handler's code
is there, and there is room for the frame. -/
lemma planUpcall_of_mapping {m : Machine} (he : m.mapping? s exceptionPage = some e)
    (hstack : e.perm.isRequestable = true) (hwrite : e.perm.contains .writable = true)
    (hlt : entry.toNat < userTop) (he' : m.mapping? s entry.page = some e')
    (hcode : e'.perm.isRequestable = true) (hplan : UpcallPlan.ofStackPointer f.esp = .ok plan) :
    planUpcall m s entry f = .ok plan := by
  have htop : (VirtAddr.ofNat (exceptionStackTop - 1)).toNat < userTop := by decide
  have hpage : (VirtAddr.ofNat (exceptionStackTop - 1)).page = exceptionPage := by decide
  have hallowed : e.perm.contains (.writable ||| .userRead) = true := by
    have hread := (Machine.contains_accessPerm hstack true).trans hwrite
    exact Perm.contains_trans hread (by decide)
  rw [planUpcall, Machine.checkUser_byte htop (by rw [hpage, he]) hallowed,
    Machine.checkUser_byte hlt he'
      (Perm.contains_trans (Perm.isRequestable_iff.1 hcode).1 (by decide)),
    hplan]

/-- What the kernel leaves that tells a process of a fault. -/
lemma reflectFault_eq {m : Machine} (hp : k.live? id = some p)
    (hentry : p.faultHandler = some entry)
    (hs : p.space = some s) (hplan : planUpcall k.machine s entry f = .ok plan)
    (hcopy : k.machine.copyOut s plan.frameVa (FaultFrame.ofTrap f va.word).toBytes = (.ok (), m)) :
    k.reflectFault id f va = (.ok plan.frameVa, { k with machine := m }.modify id fun p =>
      { p with frame := { p.frame with eip := entry.word, esp := plan.frameVa.word } }) := by
  rw [reflectFault, hp]
  dsimp only
  rw [hentry, hs]
  dsimp only
  rw [hplan]
  dsimp only
  rw [hcopy]

/-- What the kernel does about a page fault that it can tell the process of. -/
lemma handle_told {m : Machine} (hp : k.live? id = some p)
    (hcause : TrapCause.ofNumber f.trapno = .pageFault) (hentry : p.faultHandler = some entry)
    (hs : p.space = some s) (hplan : planUpcall k.machine s entry f = .ok plan)
    (hcopy : k.machine.copyOut s plan.frameVa
      (FaultFrame.ofTrap f (k.machine.faultAddress cpu).word).toBytes = (.ok (), m)) :
    ∃ text, (k.entered cpu id f).handle cpu id f =
      (.stay, ({ k.entered cpu id f with machine := m }.modify id fun p => { p with
        frame := { p.frame with eip := entry.word, esp := plan.frameVa.word } }).log .debug
          text) := by
  have hreflect := reflectFault_eq ((entered_saved k cpu id f).live? hp) hentry hs hplan hcopy
  have haddress : (k.entered cpu id f).machine.faultAddress cpu = k.machine.faultAddress cpu := rfl
  rw [handle, hcause]
  dsimp only
  rw [pageFault, haddress, hreflect]
  exact ⟨_, rfl⟩

/-- **A page fault of a process that runs and can be told of it** resumes the process at its
handler, with a fault frame on its exception stack. -/
lemma trap_told (hk : k.Sound) (hp : k.live? id = some p) (hrun : p.status = .running)
    (hres : p.resident = some cpu) (huser : f.isUser = true)
    (hcause : TrapCause.ofNumber f.trapno = .pageFault) (hentry : p.faultHandler = some entry)
    (hs : p.space = some s) (hplan : planUpcall k.machine s entry f = .ok plan)
    (hok : (k.machine.copyOut s plan.frameVa
      (FaultFrame.ofTrap f (k.machine.faultAddress cpu).word).toBytes).1 = .ok ()) :
    ∃ k', k.trap cpu f = (.user id { f with eip := entry.word, esp := plan.frameVa.word }, k') ∧
      Renews id k k' ∧ k'.machine.spaces = k.machine.spaces ∧
      k'.machine.frames = (k.machine.copyOut s plan.frameVa
        (FaultFrame.ofTrap f (k.machine.faultAddress cpu).word).toBytes).2.frames := by
  obtain ⟨m, hcopy⟩ : ∃ m, k.machine.copyOut s plan.frameVa
      (FaultFrame.ofTrap f (k.machine.faultAddress cpu).word).toBytes = (.ok (), m) :=
    ⟨_, Prod.ext hok rfl⟩
  have hspaces : m.spaces = k.machine.spaces := by
    obtain rfl : (k.machine.copyOut s plan.frameVa _).2 = m := congrArg Prod.snd hcopy
    rfl
  have hentered := (entered_saved k cpu id f).live? hp
  obtain ⟨text, hhandle⟩ := handle_told hp hcause hentry hs hplan hcopy
  have hlog := quiet_log (k := { k.entered cpu id f with machine := m }.modify id fun p => { p with
    frame := { p.frame with eip := entry.word, esp := plan.frameVa.word } }) .debug text
  have hlive := live?_modify (k := { k.entered cpu id f with machine := m })
    (f := fun p => { p with frame := { p.frame with eip := entry.word, esp := plan.frameVa.word } })
    hentered rfl (live?_eq_some_iff.1 hp).2.2
  have hleave := leave_running ((hlog.live? id).trans hlive) hrun hres
  refine ⟨_, ?_, ?_, hlog.spaces.trans hspaces, ?_⟩
  · rw [trap_entered (hk.current?_iff hp |>.2 hres) hp hres huser, hhandle]
    exact hleave
  · have hsaved : Renews id k { k.entered cpu id f with machine := m } :=
      (Renews.of_saved (entered_saved k cpu id f)).trans (.of_table rfl)
    exact (hsaved.trans (.of_modify _)).trans (.of_records hlog.records)
  · rw [hlog.frames, hcopy]
    rfl

/-- **A process that handles its faults**: its handler is the one that makes copies of pages, and
its exception stack, which shows frame `x`, can be written. -/
structure Handles (k : Kernel) (id : ProcessId) (s x : Nat) : Prop where
  handler : ∃ p, k.live? id = some p ∧ p.faultHandler = some (.ofNat Bench.handlerEntry)
  code : ∃ e, k.machine.mapping? s (VirtAddr.ofNat Bench.handlerEntry).page = some e
  stack : ∃ e, k.machine.mapping? s exceptionPage = some e ∧ e.frame = x ∧
    e.perm.contains .writable = true

instance {x : Nat} : Decidable (k.Handles id s x) :=
  decidable_of_iff ((∃ p, p ∈ k.live? id ∧ p.faultHandler = some (.ofNat Bench.handlerEntry)) ∧
    (k.machine.mapping? s (VirtAddr.ofNat Bench.handlerEntry).page).isSome ∧
    ∃ e, e ∈ k.machine.mapping? s exceptionPage ∧
      (e.frame = x ∧ e.perm.contains .writable = true))
    ⟨fun ⟨hhandler, hcode, hstack⟩ => ⟨hhandler, Option.isSome_iff_exists.1 hcode, hstack⟩,
      fun h => ⟨h.handler, Option.isSome_iff_exists.2 h.code, h.stack⟩⟩

/-- **A page fault of a process that handles its faults**: the kernel resumes it at its handler,
with a fault frame that it can read on its exception stack, and changes nothing else. -/
lemma Handles.trap {x : Nat} (h : k.Handles id s x) (hk : k.Sound)
    (hpermitted : k.machine.Permitted)
    (hp : k.live? id = some p) (hrun : p.status = .running) (hres : p.resident = some cpu)
    (hs : p.space = some s) (huser : f.isUser = true)
    (hplan : UpcallPlan.ofStackPointer f.esp = .ok plan) (err : UInt32) :
    ∃ k', k.trap cpu (faultFrame f err) = (.user id (handlerFrame f err plan), k') ∧
      Renews id k k' ∧ k'.machine.spaces = k.machine.spaces ∧
      k'.machine.freeFrames = k.machine.freeFrames ∧
      (∀ i < pageSize, ¬ plan.Takes i →
        k'.machine.frames.byte? x i = k.machine.frames.byte? x i) ∧
      (∀ n, n ≠ x → k'.machine.frames.contents? n = k.machine.frames.contents? n) ∧
      k'.machine.userRead s plan.frameVa FaultFrame.size 0 =
        .ok (FaultFrame.ofTrap (faultFrame f err) (k.machine.faultAddress cpu).word).toBytes := by
  obtain ⟨⟨q, hq, hentry⟩, ⟨e', he'⟩, e, he, rfl, hwrite⟩ := h
  rw [hp, Option.some.injEq] at hq
  subst hq
  -- the frame has its place on the exception stack
  obtain ⟨hlow, hhigh⟩ := UpcallPlan.frameVa_bounds hplan
  have hlength := FaultFrame.length_toBytes (.ofTrap (faultFrame f err)
    (k.machine.faultAddress cpu).word)
  rw [← hlength] at hhigh ⊢
  obtain ⟨hok, hbytes, hbeside, hothers⟩ := Machine.copyOut_frame hk.accounted he hlow hhigh
  obtain ⟨k', htrap, hrenews, hspaces, hframes⟩ := trap_told (f := faultFrame f err) hk hp hrun hres
    huser rfl hentry hs (planUpcall_of_mapping he (hpermitted s _ e he) hwrite
      (by decide) he' (hpermitted s _ e' he') hplan) hok
  refine ⟨k', htrap, hrenews, hspaces, ?_, fun i hi hout => ?_, fun n hn => ?_, ?_⟩
  · rw [Machine.freeFrames, hframes]
    exact Machine.freeFrames_copyOut
  · rw [UpcallPlan.Takes, ← hlength] at hout
    rw [hframes]
    exact hbeside i hi hout
  · rw [hframes]
    exact hothers n hn
  · have hsound : (k.trap cpu (faultFrame f err)).2.Sound := (trap_moves hk).sound hk
    rw [htrap] at hsound
    have hcovered := Machine.covered_exceptionStack he (hpermitted s _ e he) hlow hhigh
    refine (hcovered.congr hspaces).userRead_eq hsound.accounted (fun j hj => ?_) 0
    exact (Machine.byte?_of_spaces (m := (k.machine.copyOut s plan.frameVa _).2) hframes hspaces s
      _).trans (hbytes j hj)

end Kernel

/-! ### The bench -/

namespace UserContext

open Bench Kernel

variable {config : Config} {frames cpu s x : Nat} {id : ProcessId} {u : UserContext}
  {f : TrapFrame} {plan : UpcallPlan}

/-- **A page fault of a process that handles its faults** resumes it at its handler, with a fault
frame that it can read on its exception stack. Nothing else changes. -/
lemma Active.fault (h : u.Active config frames cpu id s f) (hhandles : u.bed.kernel.Handles id s x)
    (hplan : UpcallPlan.ofStackPointer f.esp = .ok plan) (err : UInt32) :
    ∃ t, u.bed.enter cpu (u.bed.kernel.trap cpu (faultFrame f err)) = (.ok (some id), t) ∧
      (⟨t, cpu, id⟩ : UserContext).Active config frames cpu id s (handlerFrame f err plan) ∧
      Renews id u.bed.kernel t.kernel ∧ t.kernel.machine.spaces = u.bed.kernel.machine.spaces ∧
      t.kernel.machine.freeFrames = u.bed.kernel.machine.freeFrames ∧
      (∀ i < pageSize, ¬ plan.Takes i →
        t.kernel.machine.frames.byte? x i = u.bed.kernel.machine.frames.byte? x i) ∧
      (∀ n, n ≠ x → t.kernel.machine.frames.contents? n =
        u.bed.kernel.machine.frames.contents? n) ∧
      t.kernel.machine.userRead s plan.frameVa FaultFrame.size 0 =
        .ok (FaultFrame.ofTrap (faultFrame f err)
          (u.bed.kernel.machine.faultAddress cpu).word).toBytes := by
  obtain ⟨hreach, rfl, rfl, ⟨hocc, g, p, hp, hrun, hres, -⟩, huser, hs⟩ := h
  obtain ⟨q, hq, hspace⟩ := spaceOf?_eq_some_iff.1 hs
  rw [hp, Option.some.injEq] at hq
  subst hq
  obtain ⟨k', htrap, hrenews, hmemory⟩ :=
    hhandles.trap hreach.sound hreach.kernel.permitted hp hrun hres hspace huser hplan err
  have hresume : (u.bed.kernel.trap u.cpu (faultFrame f err)).1 =
      .user u.process (handlerFrame f err plan) := congrArg Prod.fst htrap
  obtain ⟨hnow, hocc'⟩ := occupant?_enter_user (lt_size_of_occupant? hocc) hresume
  have hkernel : (u.bed.enter u.cpu (u.bed.kernel.trap u.cpu (faultFrame f err))).2.kernel = k' :=
    kernel_enter.trans (congrArg Prod.snd htrap)
  have hruns : k'.RunsOn u.cpu u.process (handlerFrame f err plan) := by
    have htells := (trap_tells hreach.sound).user _ _ hresume
    rwa [htrap] at htells
  obtain ⟨t, hentered⟩ : ∃ t, u.bed.enter u.cpu (u.bed.kernel.trap u.cpu (faultFrame f err)) =
      (.ok (some u.process), t) := ⟨_, Prod.ext hnow rfl⟩
  have hreach' := hreach.trap u.cpu (faultFrame f err)
  rw [hentered] at hkernel hocc' hreach'
  obtain rfl : t.kernel = k' := hkernel
  exact ⟨t, hentered, ⟨hreach', rfl, rfl, ⟨hocc', _, hruns⟩, huser,
    (hrenews.spaceOf? hp _).trans hs⟩, hrenews, hmemory⟩

end UserContext

end Exokernel
