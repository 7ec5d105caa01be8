/-
Loads and stores on the bench, with the faults that they cause.

* `Bench.resumeFaulting_tracks`: **what the handler does with a fault** leaves every watched page as
  it is, and a process whose handler fails is gone;
* `Bench.accessWithin_gone`, `accessWithin_ok`, `accessWithin_refused`, `accessWithin_halted`: **one
  attempt** of an access;
* `Bench.accessWithin_tracks`: an access that is tried several times leaves them as well, but for
  what it stores;
* `Bench.store_tracks`, `Bench.load_tracks`: **a store** changes the memory in the address space of
  the process that stores, as far as it gets; **a load** gives what is in it;
* `Bench.yield_tracks`, `Bench.timer_tracks`: pauses change nothing.
-/
import Exokernel.Bench.Memory
import Exokernel.Proofs.Bench.Mending

namespace Exokernel

open Layout Kernel

variable {config : Config} {frames cpu s : Nat} {id : ProcessId} {f : TrapFrame}
  {L : ProcessId → Nat → Prop} {T : Nat → Nat → Prop} {v : Nat → Memory}

/-- A processor keeps the address of a fault. -/
lemma Kernel.Tracks.latch {k : Kernel} (h : k.Tracks L T v) (cpu : Nat) (va : VirtAddr) :
    { k with machine := k.machine.latchFault cpu va }.Tracks L T v :=
  h.of_machine fun s page hpage hshown =>
    (h.pages s page hpage hshown).of_same rfl (fun _ _ => rfl) fun _ _ _ _ hw => hw

namespace UserContext

variable {u u' : UserContext} {c : Syscall} {fault : FaultFrame} {result : Except LibError Unit}

/-- A request of a process that does not get into the kernel. -/
lemma request_stuck (hreach : u.bed.Reachable config frames)
    (ho : u.bed.occupant? u.cpu = some ⟨u.process, f⟩) (huser : f.isUser = false)
    (hexec : (Program.request c).exec u = (result, u')) :
    result ≠ .ok () ∧ u'.bed.Reachable config frames ∧ u.bed.kernel.Drifts u'.bed.kernel ∧
      u'.bed.occupant? u.cpu = none := by
  obtain ⟨panic, t, hcall, hquiet, hnone⟩ := Bench.call_halted ho (.inr huser) c
  have hhost : (Host.trap c u : Int32 × UserContext) = (goneAnswer, { u with bed := t }) := by
    change u.trap c = _
    rw [trap, hcall]
  have hreach' := hreach.userTrap c
  rw [Program.exec_request, hhost] at hexec
  rw [show u.trap c = _ from hhost] at hreach'
  cases hexec
  exact ⟨by rintro ⟨⟩, hreach', hquiet.drifts, hnone⟩

/-- Neither does its handler. -/
lemma mend_stuck (hreach : u.bed.Reachable config frames)
    (ho : u.bed.occupant? u.cpu = some ⟨u.process, f⟩) (huser : f.isUser = false)
    (hexec : (Program.mendCopyOnWrite fault).exec u = (result, u')) :
    result ≠ .ok () ∧ u'.bed.Reachable config frames ∧ u.bed.kernel.Drifts u'.bed.kernel ∧
      (u'.bed = u.bed ∨ u'.bed.occupant? u.cpu = none) := by
  rw [Program.mendCopyOnWrite, Program.exec_bind, Program.exec_perm?] at hexec
  dsimp only at hexec
  split at hexec
  · cases hexec
    exact ⟨by rintro ⟨⟩, hreach, .refl _, .inl rfl⟩
  · obtain ⟨_, u₁, hstep, hrest⟩ := Program.exec_bind_cases hexec
    obtain ⟨hfails, hreach', hdrifts, hnone⟩ := request_stuck hreach ho huser hstep
    obtain ⟨e, -, rfl, rfl⟩ | ⟨_, rfl, -⟩ := hrest
    · exact ⟨by rintro ⟨⟩, hreach', hdrifts, .inr hnone⟩
    · exact absurd rfl hfails

end UserContext

namespace Bench

variable {t t' : Bench} {va : VirtAddr} {data : List UInt8} {o : Occupant}

/-- A process that destroys itself takes its watched pages along. -/
lemma Awake.destroySelf_tracks (h : t.Awake cpu id f) (hk : t.kernel.Sound)
    (hL : ∀ s', L id s' → s' = s)
    (hothers : t.kernel.Tracks L (fun x page => x ≠ s ∧ T x page) v) :
    (t.call cpu (.destroy .self)).2.kernel.Tracks L T v := by
  obtain ⟨-, ⟨s', hs', hnone⟩, hdrifts⟩ := h.destroySelf hk
  obtain rfl := hL s' (hothers.lives id s' hs')
  have htracks := hdrifts.tracks hothers
  refine ⟨htracks.lives, fun x page hpage hshown => htracks.pages x page ⟨?_, hpage⟩ hshown⟩
  rintro rfl
  rw [Machine.mapping?, hnone] at hshown
  cases hshown

/-- A process that does not get into the kernel changes no memory by what it asks for. -/
lemma call_stuck_drifts (ho : t.occupant? cpu = some ⟨id, f⟩) (huser : f.isUser = false)
    (hstuck : t' = t ∨ t'.occupant? cpu = none) (c : Syscall) :
    t'.kernel.Drifts (t'.call cpu c).2.kernel := by
  rcases hstuck with rfl | hnone
  · obtain ⟨panic, t₁, hcall, hquiet, -⟩ := call_halted ho (.inr huser) c
    rw [hcall]
    exact hquiet.drifts
  · rw [call, hnone]
    exact .refl _

/-- **What the handler does with a fault** leaves every watched page as it is, whether it mends the
fault, or fails and the process is gone. -/
lemma resumeFaulting_tracks (hreach : t.Reachable config frames) (hL : ∀ s', L id s' → s' = s)
    (hT : Watchable T) (htracks : t.kernel.Tracks L T v) (ho : t.occupant? cpu = some ⟨id, f⟩)
    (hruns : t.kernel.RunsOn cpu id f) {result : Except AccessError Unit}
    (h : t.resumeFaulting cpu id s = (result, t')) :
    t'.Reachable config frames ∧ t'.kernel.Tracks L T v ∧
      (result = .ok () → ∃ f', t'.occupant? cpu = some ⟨id, f'⟩) := by
  rw [resumeFaulting, of?_of_occupant? ho, frame?_of_occupant? ho] at h
  dsimp only at h
  split at h
  · split at h
    · cases h
      exact ⟨hreach, htracks, nofun⟩
    · next bytes _ =>
      cases huser : f.isUser with
      | true =>
        have hstart : UserContext.Runs config frames cpu id ⟨t, cpu, id⟩ :=
          ⟨hreach, rfl, rfl, f, ho, hruns, huser⟩
        split at h
        · next e u hmend =>
          cases h
          obtain ⟨⟨hreach', rfl, rfl, f', hawake⟩, hothers, -⟩ :=
            hstart.mend hL hT htracks hmend
          exact ⟨hreach'.call _ _, hawake.destroySelf_tracks hreach'.sound hL hothers, nofun⟩
        · next u hmend =>
          obtain ⟨⟨hreach', rfl, rfl, f', hawake⟩, -, hmended⟩ :=
            hstart.mend hL hT htracks hmend
          rw [hawake.occupant] at h
          dsimp only at h
          rw [if_pos rfl] at h
          cases h
          refine ⟨hreach'.resume hawake.occupant _, hmended rfl,
            fun _ => ⟨restore f' (.ofBytes bytes), ?_⟩⟩
          rw [occupant?_setOccupant, if_pos ⟨rfl, lt_size_of_occupant? hawake.occupant⟩]
      | false =>
        split at h
        · next e u hmend =>
          cases h
          obtain ⟨-, hreach', hdrifts, hstuck⟩ :=
            UserContext.mend_stuck (u := ⟨t, cpu, id⟩) hreach ho huser hmend
          exact ⟨hreach'.call _ _,
            (hdrifts.trans (call_stuck_drifts ho huser hstuck _)).tracks htracks, nofun⟩
        · next u hmend =>
          exact absurd rfl (UserContext.mend_stuck (u := ⟨t, cpu, id⟩) hreach ho huser hmend).1
  · cases h
    exact ⟨hreach, htracks, nofun⟩

/-! ### Accesses -/

variable {α : Type} {op : Machine → Nat → Except MmuFault α × Machine}

/-- A process that is gone does not get at memory. -/
lemma accessWithin_gone {n : Nat} (ho : t.occupant? cpu = some ⟨id, f⟩)
    (hs : t.kernel.spaceOf? id = none) :
    accessWithin cpu op (n + 1) t = (.error .terminated, t) := by
  rw [accessWithin, ho]
  dsimp only
  rw [hs]

lemma store_gone (ho : t.occupant? cpu = some o) (hs : t.kernel.spaceOf? o.id = none) :
    t.store cpu va data = (.error .terminated, t) :=
  accessWithin_gone ho hs

lemma load_gone {len : Nat} (ho : t.occupant? cpu = some o)
    (hs : t.kernel.spaceOf? o.id = none) : t.load cpu va len = (.error .terminated, t) :=
  accessWithin_gone ho hs

/-- An attempt that succeeds is the last one. -/
lemma accessWithin_ok {m : Machine} {a : α} {n : Nat} (ho : t.occupant? cpu = some ⟨id, f⟩)
    (hs : t.kernel.spaceOf? id = some s) (hop : op t.kernel.machine s = (.ok a, m)) :
    accessWithin cpu op (n + 1) t = (.ok a, t.withMachine m) := by
  rw [accessWithin, ho]
  dsimp only
  rw [hs]
  dsimp only
  rw [hop]

/-- **An attempt that is refused** comes to a page fault, and to the next attempt if the process
that is told of it mends it. -/
lemma accessWithin_refused {m : Machine} {fault : MmuFault} {now : Option ProcessId} {n : Nat}
    (ho : t.occupant? cpu = some ⟨id, f⟩) (hs : t.kernel.spaceOf? id = some s)
    (hop : op t.kernel.machine s = (.error fault, m))
    (hentered : (t.withMachine (m.latchFault cpu fault.va)).enter cpu
      ((t.withMachine (m.latchFault cpu fault.va)).kernel.trap cpu
        { f with trapno := TrapNumber.pageFault, err := fault.err }) = (.ok now, t')) :
    accessWithin cpu op (n + 1) t =
      if now = some id then
        match t'.resumeFaulting cpu id s with
        | (.error e, t) => (.error e, t)
        | (.ok (), t) => accessWithin cpu op n t
      else (.error .terminated, t') := by
  rw [accessWithin, ho]
  dsimp only
  rw [hs]
  dsimp only
  rw [hop]
  dsimp only
  generalize Bench.enter _ cpu _ = entered at hentered ⊢
  subst hentered
  rfl

/-- If the fault stops the processor, that is the end of it. -/
lemma accessWithin_halted {m : Machine} {fault : MmuFault} {panic : KernelPanic} {n : Nat}
    (ho : t.occupant? cpu = some ⟨id, f⟩) (hs : t.kernel.spaceOf? id = some s)
    (hop : op t.kernel.machine s = (.error fault, m))
    (hentered : (t.withMachine (m.latchFault cpu fault.va)).enter cpu
      ((t.withMachine (m.latchFault cpu fault.va)).kernel.trap cpu
        { f with trapno := TrapNumber.pageFault, err := fault.err }) = (.error panic, t')) :
    accessWithin cpu op (n + 1) t = (.error (.halted panic), t') := by
  rw [accessWithin, ho]
  dsimp only
  rw [hs]
  dsimp only
  rw [hop]
  dsimp only
  rw [hentered]

/-- A store of a process that stored some bytes before comes to one store. -/
lemma update_store_store (v : Nat → Memory) (s start : Nat) (data : List UInt8) (i j : Nat) :
    Function.update (Function.update v s ((v s).store start (data.take i))) s
        ((Function.update v s ((v s).store start (data.take i)) s).store start (data.take j)) =
      Function.update v s ((v s).store start (data.take (max i j))) := by
  rw [Function.update_self, Function.update_idem, Memory.store_take_store_take]

/-- An attempt of a process that stored some bytes before leaves the bytes of the longer one. -/
lemma stored_tracks (hreach : t.Reachable config frames) {i : Nat}
    (htracks : t.kernel.Tracks L T
      (Function.update v s ((v s).store va.toNat (data.take i)))) :
    (t.withMachine (t.kernel.machine.userWrite s va data).2).Reachable config frames ∧
      (t.withMachine (t.kernel.machine.userWrite s va data).2).kernel.Tracks L T
        (Function.update v s ((v s).store va.toNat
          (data.take (max i (t.kernel.machine.userWritten s va data))))) := by
  rw [← update_store_store]
  exact ⟨hreach.operate (.store s va data) trivial, htracks.userWrite hreach.sound s data⟩

/-- A page fault leaves every watched page as it is. -/
lemma Reachable.fault (hreach : t.Reachable config frames) (hT : Watchable T)
    (htracks : t.kernel.Tracks L T v) (hcause : TrapCause.ofNumber f.trapno = .pageFault)
    {now : Except KernelPanic (Option ProcessId)}
    (h : t.enter cpu (t.kernel.trap cpu f) = (now, t')) :
    t'.Reachable config frames ∧ t'.kernel.Tracks L T v ∧ ∀ id, cpu < t.occupants.size →
      now = .ok (some id) → ∃ f', t'.occupant? cpu = some ⟨id, f'⟩ ∧
        t'.kernel.RunsOn cpu id f' := by
  obtain rfl : (t.enter cpu (t.kernel.trap cpu f)).2 = t' := congrArg Prod.snd h
  refine ⟨hreach.trap cpu f, ?_, fun id hsize hnow => ?_⟩
  · rw [kernel_enter]
    exact trap_tracks hreach.sound htracks hT.apart (by rw [hcause]; nofun)
  · obtain ⟨f', ho⟩ := occupant?_of_enter hsize (h.trans (by rw [hnow]))
    refine ⟨f', ho, ?_⟩
    rw [kernel_enter]
    exact (trap_tells hreach.sound).user _ _ (occupant?_enter_self ho)

/-- **An access that is tried several times** leaves every watched page as it is, but for what it
stores, as far as it gets. An access that succeeds finds memory so. -/
lemma accessWithin_tracks (hL : ∀ s', L id s' → s' = s) (hT : Watchable T)
    (hmachine : ∀ m s, (op m s).2 = (m.userWrite s va data).2)
    (hwritten : ∀ m s a, (op m s).1 = .ok a → m.userWritten s va data = data.length)
    {n i : Nat} {result : Except AccessError α} (hreach : t.Reachable config frames)
    (hi : i ≤ data.length)
    (htracks : t.kernel.Tracks L T
      (Function.update v s ((v s).store va.toNat (data.take i))))
    (ho : t.occupant? cpu = some ⟨id, f⟩) (h : accessWithin cpu op n t = (result, t')) :
    t'.Reachable config frames ∧ ∃ j ≤ data.length,
      t'.kernel.Tracks L T (Function.update v s ((v s).store va.toNat (data.take j))) ∧
      ∀ a, result = .ok a → j = data.length ∧ ∃ (k : Kernel) (i : Nat), k.Sound ∧
        k.Tracks L T (Function.update v s ((v s).store va.toNat (data.take i))) ∧
        (op k.machine s).1 = .ok a := by
  induction n generalizing t i f with
  | zero =>
    cases h
    exact ⟨hreach, i, hi, htracks, nofun⟩
  | succ n ih =>
    cases hs : t.kernel.spaceOf? id with
    | none =>
      rw [accessWithin_gone ho hs] at h
      cases h
      exact ⟨hreach, i, hi, htracks, nofun⟩
    | some s' =>
      obtain rfl := hL s' (htracks.lives id s' hs)
      -- what the attempt leaves in memory
      have hj : max i (t.kernel.machine.userWritten s' va data) ≤ data.length :=
        Nat.max_le.2 ⟨hi, Machine.userWritten_le data⟩
      have hstored := stored_tracks hreach htracks
      rw [← hmachine] at hstored
      rcases hop : op t.kernel.machine s' with ⟨fault | a, m⟩
      · rw [hop] at hstored
        have hlatched := hstored.1.operate (.latch cpu fault.va) trivial
        have htracks₀ := hstored.2.latch cpu fault.va
        rcases hentered : Bench.enter _ cpu _ with ⟨panic | now, t₁⟩
        · rw [accessWithin_halted ho hs hop hentered] at h
          cases h
          obtain ⟨hreach₁, htracks₁, -⟩ := hlatched.fault hT htracks₀ rfl hentered
          exact ⟨hreach₁, _, hj, htracks₁, nofun⟩
        · rw [accessWithin_refused ho hs hop hentered] at h
          obtain ⟨hreach₁, htracks₁, hruns⟩ := hlatched.fault hT htracks₀ rfl hentered
          split at h
          · next hnow =>
            obtain ⟨f₁, ho₁, hruns₁⟩ := hruns id (lt_size_of_occupant? ho) (by rw [hnow])
            rcases hresumed : t₁.resumeFaulting cpu id s' with ⟨e | _, t₂⟩
            · rw [hresumed] at h
              cases h
              obtain ⟨hreach₂, htracks₂, -⟩ :=
                resumeFaulting_tracks hreach₁ hL hT htracks₁ ho₁ hruns₁ hresumed
              exact ⟨hreach₂, _, hj, htracks₂, nofun⟩
            · rw [hresumed] at h
              obtain ⟨hreach₂, htracks₂, hback⟩ :=
                resumeFaulting_tracks hreach₁ hL hT htracks₁ ho₁ hruns₁ hresumed
              obtain ⟨f₂, ho₂⟩ := hback rfl
              exact ih hreach₂ hj htracks₂ ho₂ h
          · cases h
            exact ⟨hreach₁, _, hj, htracks₁, nofun⟩
      · rw [accessWithin_ok ho hs hop] at h
        rw [hop] at hstored
        cases h
        have hall := hwritten t.kernel.machine s' a (congrArg Prod.fst hop)
        refine ⟨hstored.1, _, hj, hstored.2, fun a' ha' => ⟨?_, t.kernel, i, hreach.sound,
          htracks, ?_⟩⟩
        · rw [hall, Nat.max_eq_right hi]
        · rw [hop]
          cases ha'
          rfl

/-- **A store** changes the memory in the address space of the process that stores, and in no
other, as far as it gets. -/
lemma store_tracks (hreach : t.Reachable config frames) (hL : ∀ s', L o.id s' → s' = s)
    (hT : Watchable T) (htracks : t.kernel.Tracks L T v) (ho : t.occupant? cpu = some o)
    {result : Except AccessError Unit} (h : t.store cpu va data = (result, t')) :
    t'.Reachable config frames ∧ ∃ n ≤ data.length, (result = .ok () → n = data.length) ∧
      t'.kernel.Tracks L T (Function.update v s ((v s).store va.toNat (data.take n))) := by
  have hstart : t.kernel.Tracks L T
      (Function.update v s ((v s).store va.toNat (data.take 0))) := by
    rwa [List.take_zero, Memory.store_nil, Function.update_eq_self]
  obtain ⟨hreach', n, hn, htracks', hok⟩ := accessWithin_tracks hL hT (by intros; rfl)
    (fun m s a hwrite => Machine.userWritten_of_ok hwrite) hreach (Nat.zero_le _) hstart ho h
  exact ⟨hreach', n, hn, fun hres => (hok () hres).1, htracks'⟩

/-- **A load** gives what is in the memory of the process, and changes nothing. -/
lemma load_tracks (hreach : t.Reachable config frames) (hL : ∀ s', L o.id s' → s' = s)
    (hT : Watchable T) (htracks : t.kernel.Tracks L T v) (ho : t.occupant? cpu = some o)
    {len : Nat} {result : Except AccessError (List UInt8)}
    (h : t.load cpu va len = (result, t')) :
    t'.Reachable config frames ∧ t'.kernel.Tracks L T v ∧ ∀ bytes, result = .ok bytes →
      bytes.length = len ∧ ∀ i < len, T s ((va.toNat + i) / pageSize) →
        bytes[i]? = v s (va.toNat + i) := by
  have hsame : ∀ i, Function.update v s
      ((v s).store va.toNat (([] : List UInt8).take i)) = v := fun i => by
    rw [List.take_nil, Memory.store_nil, Function.update_eq_self]
  have hstart : t.kernel.Tracks L T (Function.update v s
      ((v s).store va.toNat (([] : List UInt8).take 0))) := by
    rwa [hsame]
  obtain ⟨hreach', n, -, htracks', hok⟩ := accessWithin_tracks hL hT (by intros; rfl)
    (by intros; rfl) hreach (Nat.zero_le _) hstart ho h
  rw [hsame] at htracks'
  refine ⟨hreach', htracks', fun bytes hres => ?_⟩
  obtain ⟨-, k, i, hk, hloaded, hread⟩ := hok bytes hres
  rw [hsame] at hloaded
  obtain ⟨hlen, hbytes⟩ := hloaded.userRead hk hread
  refine ⟨hlen, fun i hi hpage => hbytes i hi ?_ hpage⟩
  have hplace := Nat.div_add_mod' (va.toNat + i) pageSize
  rw [← hplace]
  exact place_lt_userTop (hT.below _ _ hpage) (Nat.mod_lt _ (by decide))

/-! ### Pauses -/

/-- A process that gives up its processor changes no memory. -/
lemma yield_tracks (hreach : t.Reachable config frames) (htracks : t.kernel.Tracks L T v) :
    (t.call cpu .yield).2.kernel.Tracks L T v := by
  cases ho : t.occupant? cpu with
  | none =>
    rw [call, ho]
    exact htracks
  | some o =>
    rw [kernel_call ho]
    exact (call_drifts hreach.sound rfl rfl yield_calm).tracks htracks

/-- Neither does a timer that fires. -/
lemma timer_tracks (hreach : t.Reachable config frames) (hT : Watchable T)
    (htracks : t.kernel.Tracks L T v) : (t.timer cpu).2.kernel.Tracks L T v := by
  rw [timer, snd_enterNext, kernel_enter]
  refine trap_tracks hreach.sound htracks hT.apart ?_
  cases t.frame? cpu <;> rintro ⟨⟩

end Bench

end Exokernel
