/-
The system calls of a fork, on any host.

* `Host.registration`, `Host.furnishing`: the calls that register the fault handler, and those that
  give a child its memory and set it going;
* `Program.makes_fork`: a fork makes these calls, with the exofork in between;
* `ForkCalls`: in which order they come;
* `fork_calls`: **a fork makes its calls in this order, whatever they are answered**.
-/
import Exokernel.LibOS.Scripted
import Exokernel.Proofs.Bench.Forking
import Exokernel.Proofs.LibOS.Transcripts

namespace Exokernel

open Program Layout

variable {σ : Type} [Host σ]

/-! ### The calls -/

/-- Whether a page with these permissions is shared until it is written: somebody may write it, and
it is not marked as shared. -/
def Perm.isCopied (perm : Perm) : Bool :=
  !(perm &&& .requestable).contains .share &&
    (perm &&& .requestable).meets (.writable ||| .copyOnWrite)

/-- The permissions with which a child gets a page. -/
def Perm.inherited (perm : Perm) : Perm :=
  if perm.isCopied then readOnlyCopy (perm &&& .requestable) else perm &&& .requestable

/-- The calls that show a page in a child as well. -/
def duplication (child : ProcessId) (va : VirtAddr) (perm : Perm) : List Syscall :=
  .pageMap .self va child va perm.inherited ::
    if perm.isCopied then [.pageMap .self va .self va perm.inherited] else []

namespace Host

/-- The calls that register the fault handler. -/
def registration (s : σ) : List Syscall :=
  if (Host.perm? s exceptionStack).isNone then
    [.pageAlloc .self exceptionStack .userWrite, .setFaultHandler .self
      (Host.handlerEntry (after s [.pageAlloc .self exceptionStack .userWrite]))]
  else [.setFaultHandler .self (Host.handlerEntry s)]

/-- The pages that a child gets from its parent: those that the host tells of, but for the exception
stack. -/
def heritage (s : σ) : List (VirtAddr × Perm) :=
  (Host.pages s).filter fun page => page.1 ≠ exceptionStack

/-- The calls that show them in a child. -/
def duplications (s : σ) (child : ProcessId) : List Syscall :=
  (heritage s).flatMap fun page => duplication child page.1 page.2

/-- The calls that give a child its memory and its handler, and set it going. -/
def furnishing (s : σ) (child : ProcessId) : List Syscall :=
  duplications s child ++ [.pageAlloc child exceptionStack .userWrite,
    .setFaultHandler child (Host.handlerEntry
      (after s (duplications s child ++ [.pageAlloc child exceptionStack .userWrite]))),
    .setStatus child .runnable]

/-- The side of a fork that an exofork tells of; the child's, on which nothing more is done, if it
tells of an error. -/
def forkSide (s : σ) : Fork :=
  match Fork.ofAnswer (Host.trap .exofork s).1 with
  | .ok side => side
  | .error _ => .child

/-- The calls of a fork once its exofork was answered. -/
def forkRest (s : σ) : Fork → List Syscall
  | .child => []
  | .parent child => furnishing s child

/-- The calls of a fork, if none of them fails. -/
def forkRow (s : σ) : List Syscall :=
  registration s ++ .exofork ::
    forkRest (after s (registration s ++ [.exofork])) (forkSide (after s (registration s)))

end Host

/-! ### What a fork does -/

namespace Program

variable {s : σ} {child : ProcessId} {va : VirtAddr} {perm : Perm}

lemma makes_installHandler :
    Makes installHandler s (Host.registration s) () := by
  refine (makes_perm? exceptionStack).look_bind ?_
  rw [Host.registration]
  split
  · exact (makes_request _).bind (makes_handlerEntry.look_bind (makes_request _))
  · exact makes_handlerEntry.look_bind (makes_request _)

lemma makes_exofork :
    Makes exofork s [.exofork] (Host.forkSide s) := by
  refine makes_raw (fun v hv => ?_) fun e he => ?_
  · rw [Host.forkSide, Fork.ofAnswer, hv]
  · rw [Fork.ofAnswer, he]

lemma makes_duplicate : Makes (duplicate child va perm) s
    (duplication child va perm) () := by
  rw [duplicate, duplication, Perm.inherited, Perm.isCopied]
  split
  · next hshare =>
    rw [hshare]
    exact makes_request _
  · next hshare =>
    rw [Bool.not_eq_true] at hshare
    rw [hshare]
    split
    · next hmeets =>
      rw [hmeets]
      exact (makes_request _).bind (makes_request _)
    · next hmeets =>
      rw [Bool.not_eq_true] at hmeets
      rw [hmeets]
      exact makes_request _

lemma makes_duplicateAll (pages : List (VirtAddr × Perm)) (s : σ) :
    Makes (duplicateAll child pages) s
      ((pages.filter fun page => page.1 ≠ exceptionStack).flatMap
        fun page => duplication child page.1 page.2) () := by
  induction pages generalizing s with
  | nil => exact makes_pure
  | cons page pages ih =>
    obtain ⟨va, perm⟩ := page
    rw [duplicateAll]
    split
    · next hva =>
      rw [List.filter_cons_of_pos (by simpa using hva), List.flatMap_cons]
      exact makes_duplicate.bind (ih _)
    · next hva =>
      rw [List.filter_cons_of_neg (by simpa using hva)]
      exact ih s

/-- **A fork makes the calls of its row**, and tells on which side it finds itself. -/
lemma makes_fork : Makes fork s (Host.forkRow s)
    (Host.forkSide (Host.after s (Host.registration s))) := by
  refine makes_installHandler.bind (makes_exofork.bind ?_)
  rw [← Host.after_append]
  cases Host.forkSide (Host.after s (Host.registration s)) with
  | child => exact makes_pure
  | parent child =>
    refine makes_pages.look_bind ((makes_duplicateAll _ _).bind ?_)
    refine (makes_request _).bind (makes_handlerEntry.look_bind ?_)
    rw [← Host.after_append]
    exact (makes_request _).bind ((makes_request _).bind makes_pure)

/-! ### The same on the host itself -/

lemma mirrors_installHandler :
    Mirrors (installHandler : Program (Recorded σ) Unit) installHandler := by
  refine (mirrors_perm? _).bind fun perm => ?_
  split
  · exact (mirrors_request _).bind fun _ => mirrors_handlerEntry.bind fun _ => mirrors_request _
  · exact mirrors_handlerEntry.bind fun _ => mirrors_request _

lemma mirrors_exofork : Mirrors (exofork : Program (Recorded σ) Fork) exofork :=
  (mirrors_raw _).bind fun answer => by
    cases Fork.ofAnswer answer with
    | ok side => exact mirrors_pure side
    | error e => exact mirrors_throw _

lemma mirrors_duplicate :
    Mirrors (duplicate child va perm : Program (Recorded σ) Unit) (duplicate child va perm) := by
  rw [duplicate, duplicate]
  split
  · exact mirrors_request _
  · split
    · exact (mirrors_request _).bind fun _ => mirrors_request _
    · exact mirrors_request _

lemma mirrors_duplicateAll (pages : List (VirtAddr × Perm)) :
    Mirrors (duplicateAll child pages : Program (Recorded σ) Unit) (duplicateAll child pages) := by
  induction pages with
  | nil => exact mirrors_pure ()
  | cons page pages ih =>
    obtain ⟨va, perm⟩ := page
    rw [duplicateAll, duplicateAll]
    split
    · exact mirrors_duplicate.bind fun _ => ih
    · exact ih

lemma mirrors_fork : Mirrors (fork : Program (Recorded σ) Fork) fork := by
  refine mirrors_installHandler.bind fun _ => mirrors_exofork.bind fun side => ?_
  cases side with
  | child => exact mirrors_pure _
  | parent child =>
    refine mirrors_pages.bind fun _ => (mirrors_duplicateAll _).bind fun _ =>
      (mirrors_request _).bind fun _ => mirrors_handlerEntry.bind fun _ =>
      (mirrors_request _).bind fun _ => (mirrors_request _).bind fun _ => mirrors_pure _

end Program

/-! ### In which order the calls come -/

/-- A page that a call shows in `target` where the caller has it, with the permissions there. -/
def Syscall.shows? (target : ProcessId) : Syscall → Option (VirtAddr × Perm)
  | .pageMap src srcVa dst dstVa perm =>
    if src = .self ∧ dst = target ∧ srcVa = dstVa then some (dstVa, perm) else none
  | _ => none

/-- **The parent never goes first**: where it shows a page to itself, that is a page which it has
just shown in the child, with the same permissions, and which nobody may write. -/
def ChildFirst (child : ProcessId) (calls : List Syscall) : Prop :=
  ∀ earlier src srcVa va perm later,
    calls = earlier ++ .pageMap src srcVa .self va perm :: later →
    src = .self ∧ srcVa = va ∧ perm.contains .copyOnWrite = true ∧
      perm.contains .writable = false ∧
      ∃ before, earlier = before ++ [.pageMap .self va child va perm]

/-- **What a parent does for its child**, on a host in state `s`, and what comes of the fork. -/
structure ParentCalls (s : σ) (child : ProcessId) (calls : List Syscall)
    (result : Except LibError Fork) : Prop where
  /-- The calls are made in the order in which they are told, and if none fails, all of them. -/
  row : calls <+: Host.furnishing s child
  complete : ∀ side, result = .ok side → side = .parent child ∧ calls = Host.furnishing s child
  /-- The child is shown the pages that the host tells of, but for the exception stack, one after
  the other, and each of them once. -/
  shown : calls.filterMap (Syscall.shows? child) <+:
    (Host.heritage s).map fun page => (page.1, page.2.inherited)
  shown_all : ∀ side, result = .ok side → calls.filterMap (Syscall.shows? child) =
    (Host.heritage s).map fun page => (page.1, page.2.inherited)
  /-- The parent shows to itself the pages that are shared until they are written. -/
  hidden : calls.filterMap (Syscall.shows? .self) <+:
    ((Host.heritage s).filter fun page => page.2.isCopied).map
      fun page => (page.1, page.2.inherited)
  hidden_all : ∀ side, result = .ok side → calls.filterMap (Syscall.shows? .self) =
    ((Host.heritage s).filter fun page => page.2.isCopied).map
      fun page => (page.1, page.2.inherited)
  childFirst : ChildFirst child calls

/-- **The calls of a fork**, with their answers, on a host that begins in state `s`, and what comes
of the fork. -/
structure ForkCalls (s : σ) (trace : List (Syscall × Int32)) (result : Except LibError Fork) :
    Prop where
  succeeds : ∀ side, result = .ok side → ∀ x ∈ trace, Succeeds x
  /-- The first call that fails is the last, and its error is told. -/
  fails : ∀ error, result = .error error → ∃ earlier c answer e,
    trace = earlier ++ [(c, answer)] ∧ (∀ x ∈ earlier, Succeeds x) ∧
      decodeResult answer = .error e ∧ error = .kernel e
  once : (trace.map Prod.fst).count .exofork ≤ 1
  /-- A fork that succeeds has made one exofork, which told the side. -/
  issues : ∀ side, result = .ok side → (trace.map Prod.fst).count .exofork = 1 ∧
    ∃ answer, (.exofork, answer) ∈ trace ∧ Fork.ofAnswer answer = .ok side
  /-- The handler is registered before the exofork. -/
  registered : ∀ earlier answer later, trace = earlier ++ (.exofork, answer) :: later →
    earlier.map Prod.fst = Host.registration s
  unregistered : .exofork ∉ trace.map Prod.fst → trace.map Prod.fst <+: Host.registration s
  child : ∀ earlier answer later, trace = earlier ++ (.exofork, answer) :: later →
    Fork.ofAnswer answer = .ok .child → later = [] ∧ result = .ok .child
  parent : ∀ earlier answer later child, trace = earlier ++ (.exofork, answer) :: later →
    Fork.ofAnswer answer = .ok (.parent child) →
    ParentCalls (Host.after s (Host.registration s ++ [.exofork])) child (later.map Prod.fst) result
  /-- The child is set going by the very last call, if all others have succeeded. -/
  last : ∀ earlier target status answer later,
    trace = earlier ++ (.setStatus target status, answer) :: later →
    later = [] ∧ (∀ x ∈ earlier, Succeeds x) ∧ status = .runnable ∧
      ∃ answer, (.exofork, answer) ∈ earlier ∧ Fork.ofAnswer answer = .ok (.parent target)

/-! ### Where a call stands in a row -/

section Rows

variable {τ : Type} {as bs cs ds : List τ} {x y : τ}

/-- A call that comes once in a row comes at one place. -/
lemma append_cons_inj (hcs : x ∉ cs) (hds : x ∉ ds) (h : as ++ x :: bs = cs ++ x :: ds) :
    as = cs ∧ bs = ds := by
  rcases List.append_eq_append_iff.1 h with ⟨es, rfl, hes⟩ | ⟨es, rfl, hes⟩
  · cases es with
    | nil => exact ⟨(List.append_nil _).symm, (List.cons.inj hes).2⟩
    | cons z es =>
      obtain ⟨rfl, -⟩ := List.cons.inj hes
      exact absurd (List.mem_append_right _ List.mem_cons_self) hcs
  · cases es with
    | nil => exact ⟨List.append_nil _, (List.cons.inj hes).2.symm⟩
    | cons z es =>
      obtain ⟨rfl, rfl⟩ := List.cons.inj hes
      exact absurd (List.mem_append_right _ List.mem_cons_self) hds

/-- A call that does not come before the last of a row is the last. -/
lemma append_cons_eq_concat (hcs : x ∉ cs) (h : as ++ x :: bs = cs ++ [y]) :
    as = cs ∧ x = y ∧ bs = [] := by
  rcases List.eq_nil_or_concat bs with rfl | ⟨bs, z, rfl⟩
  · obtain ⟨has, hxy⟩ := List.append_inj' h rfl
    exact ⟨has, List.singleton_inj.1 hxy, rfl⟩
  · rw [List.concat_eq_append, ← List.cons_append, ← List.append_assoc] at h
    obtain ⟨rfl, -⟩ := List.append_inj' h rfl
    exact absurd (List.mem_append_right _ List.mem_cons_self) hcs

end Rows

namespace ChildFirst

variable {child : ProcessId} {cs ds : List Syscall} {va : VirtAddr} {perm : Perm}

lemma append (hcs : ChildFirst child cs) (hds : ChildFirst child ds) :
    ChildFirst child (cs ++ ds) := fun earlier src srcVa va perm later h => by
  rcases List.append_eq_append_iff.1 h with ⟨es, rfl, hes⟩ | ⟨es, rfl, hes⟩
  · obtain ⟨hsrc, hva, hcopy, hwritten, before, rfl⟩ := hds es src srcVa va perm later hes
    exact ⟨hsrc, hva, hcopy, hwritten, cs ++ before, (List.append_assoc ..).symm⟩
  · cases es with
    | nil =>
      obtain ⟨-, -, -, -, before, hnil⟩ := hds [] src srcVa va perm later hes.symm
      exact absurd hnil.symm (by simp)
    | cons c es =>
      obtain ⟨rfl, -⟩ := List.cons.inj hes
      exact hcs earlier src srcVa va perm es rfl

lemma of_row (hds : ChildFirst child ds) (h : cs <+: ds) : ChildFirst child cs := by
  obtain ⟨rest, rfl⟩ := h
  intro earlier src srcVa va perm later heq
  exact hds earlier src srcVa va perm (later ++ rest) (by rw [heq, List.append_assoc]; rfl)

/-- Calls that show the caller nothing. -/
lemma of_notMem (h : ∀ src srcVa va perm, .pageMap src srcVa .self va perm ∉ cs) :
    ChildFirst child cs := fun _ src srcVa va perm _ heq =>
  absurd (heq ▸ List.mem_append_right _ List.mem_cons_self) (h src srcVa va perm)

end ChildFirst

/-! ### The pages -/

section Pages

variable {child : ProcessId} {va : VirtAddr} {perm : Perm} {s : σ}

/-- A page that is copied when it is written is given with permissions that do not let it be
written. -/
lemma inherited_of_isCopied (h : perm.isCopied = true) :
    perm.inherited.contains .copyOnWrite = true ∧ perm.inherited.contains .writable = false := by
  rw [Perm.inherited, if_pos h]
  refine ⟨Perm.contains_iff_forall.2 fun i hi => ?_, readOnlyCopy_reads _⟩
  rw [readOnlyCopy, Perm.getLsbD_or, hi, Bool.or_true]

lemma childFirst_duplication (hne : child ≠ .self) :
    ChildFirst child (duplication child va perm) := by
  have hshown : ChildFirst child [.pageMap .self va child va perm.inherited] :=
    .of_notMem fun src srcVa va' perm' h => by
      rw [List.mem_singleton] at h
      injection h with _ _ hself
      exact hne hself.symm
  rw [duplication]
  split
  · next hcopied =>
    intro earlier src srcVa va' perm' later h
    have hother : Syscall.pageMap src srcVa .self va' perm' ∉
        [Syscall.pageMap .self va child va perm.inherited] := fun hmem => by
      rw [List.mem_singleton] at hmem
      injection hmem with _ _ hself
      exact hne hself.symm
    obtain ⟨rfl, hlast, -⟩ := append_cons_eq_concat hother h.symm
    injection hlast with hsrc hsrcVa _ hva hperm
    subst hsrc hsrcVa hva hperm
    obtain ⟨hcopy, hwritten⟩ := inherited_of_isCopied hcopied
    exact ⟨rfl, rfl, hcopy, hwritten, [], rfl⟩
  · exact hshown

lemma filterMap_duplication (hne : child ≠ .self) (va : VirtAddr) (perm : Perm) :
    (duplication child va perm).filterMap (Syscall.shows? child) = [(va, perm.inherited)] ∧
      (duplication child va perm).filterMap (Syscall.shows? .self) =
        if perm.isCopied then [(va, perm.inherited)] else [] := by
  rw [duplication]
  split <;> simp [Syscall.shows?, hne, hne.symm]

lemma childFirst_duplications (hne : child ≠ .self) (pages : List (VirtAddr × Perm)) :
    ChildFirst child (pages.flatMap fun page => duplication child page.1 page.2) := by
  induction pages with
  | nil => exact .of_notMem fun _ _ _ _ => List.not_mem_nil
  | cons page pages ih =>
    rw [List.flatMap_cons]
    exact (childFirst_duplication hne).append ih

lemma filterMap_duplications (hne : child ≠ .self) (pages : List (VirtAddr × Perm)) :
    (pages.flatMap fun page => duplication child page.1 page.2).filterMap
        (Syscall.shows? child) = pages.map (fun page => (page.1, page.2.inherited)) ∧
      (pages.flatMap fun page => duplication child page.1 page.2).filterMap
        (Syscall.shows? .self) =
          (pages.filter fun page => page.2.isCopied).map
            fun page => (page.1, page.2.inherited) := by
  induction pages with
  | nil => exact ⟨rfl, rfl⟩
  | cons page pages ih =>
    obtain ⟨hshown, hhidden⟩ := filterMap_duplication hne page.1 page.2
    rw [List.flatMap_cons, List.filterMap_append, List.filterMap_append, hshown, hhidden, ih.1,
      ih.2, List.filter_cons]
    refine ⟨rfl, ?_⟩
    split <;> rfl

/-- What a child is given besides its pages shows nothing. -/
lemma filterMap_furnishing (hne : child ≠ .self) :
    (Host.furnishing s child).filterMap (Syscall.shows? child) =
        (Host.heritage s).map (fun page => (page.1, page.2.inherited)) ∧
      (Host.furnishing s child).filterMap (Syscall.shows? .self) =
        ((Host.heritage s).filter fun page => page.2.isCopied).map
          fun page => (page.1, page.2.inherited) := by
  obtain ⟨hshown, hhidden⟩ := filterMap_duplications hne (Host.heritage s)
  rw [Host.furnishing, List.filterMap_append, List.filterMap_append, Host.duplications, hshown,
    hhidden]
  exact ⟨List.append_nil _, List.append_nil _⟩

lemma childFirst_furnishing (hne : child ≠ .self) :
    ChildFirst child (Host.furnishing s child) :=
  (childFirst_duplications hne _).append (.of_notMem fun _ _ _ _ h => by simp at h)

/-- The calls for a child make no process. -/
lemma notMem_furnishing : .exofork ∉ Host.furnishing s child := by
  simp [Host.furnishing, Host.duplications, duplication, List.mem_flatMap]

lemma notMem_registration : .exofork ∉ Host.registration s := by
  rw [Host.registration]
  split <;> simp

/-- Only the last of them sets a process going. -/
lemma setStatus_notMem {t : σ} {target : ProcessId} {status : ProcessStatus} {entry : VirtAddr} :
    .setStatus target status ∉ Host.registration s ++ .exofork ::
      (Host.duplications t child ++ [.pageAlloc child exceptionStack .userWrite,
        .setFaultHandler child entry]) := by
  rw [Host.registration]
  split <;> simp [Host.duplications, duplication, List.mem_flatMap]

end Pages

/-! ### The order -/

section Order

variable {s t : σ} {child : ProcessId} {xs earlier later : List (Syscall × Int32)}
  {r : Except KernelError Unit} {result : Except LibError Fork} {answer : Int32} {side : Fork}

/-- A side that an exofork tells of. -/
lemma forkSide_eq (h : Fork.ofAnswer (Host.trap .exofork s).1 = .ok side) :
    Host.forkSide s = side := by
  rw [Host.forkSide, h]

lemma ofAnswer_of_forkSide (h : Host.forkSide s = .parent child) :
    Fork.ofAnswer (Host.trap .exofork s).1 = .ok (.parent child) := by
  rw [Host.forkSide] at h
  split at h
  · next side hside => rw [hside, h]
  · cases h

/-- A child has an identity of its own. -/
lemma ne_self_of_ofAnswer (h : Fork.ofAnswer answer = .ok (.parent child)) : child ≠ .self := by
  rw [Fork.ofAnswer] at h
  split at h
  · cases h
  · next v _ =>
    rw [Except.ok.injEq] at h
    split at h
    · cases h
    · next hv =>
      cases h
      exact fun hself => hv (congrArg ProcessId.raw hself)

lemma notMem_forkRest : .exofork ∉ Host.forkRest s side := by
  cases side with
  | child => exact List.not_mem_nil
  | parent child => exact notMem_furnishing

/-- **What comes after the exofork** is decided by its answer. -/
lemma forkRow_exofork (h : Progress s (Host.forkRow s) xs t r)
    (hxs : xs = earlier ++ (.exofork, answer) :: later) :
    earlier.map Prod.fst = Host.registration s ∧
      answer = (Host.trap .exofork (Host.after s (Host.registration s))).1 ∧
      later.map Prod.fst <+: Host.forkRest (Host.after s (Host.registration s ++ [.exofork]))
        (Host.forkSide (Host.after s (Host.registration s))) ∧
      (r = .ok () → later.map Prod.fst =
        Host.forkRest (Host.after s (Host.registration s ++ [.exofork]))
          (Host.forkSide (Host.after s (Host.registration s)))) := by
  obtain ⟨htrace, -, more, hmore⟩ := h.eq_transcript
  have hcalls : xs.map Prod.fst =
      earlier.map Prod.fst ++ .exofork :: later.map Prod.fst := by rw [hxs, List.map_append]; rfl
  rw [hcalls, List.append_assoc, List.cons_append] at hmore
  obtain ⟨hearlier, hlater⟩ := append_cons_inj notMem_registration notMem_forkRest hmore
  refine ⟨hearlier, ?_, ⟨more, hlater⟩, fun hr => ?_⟩
  · rw [hcalls, hearlier, hxs, Host.transcript_append] at htrace
    have hlength : earlier.length = (Host.transcript s (Host.registration s)).length := by
      rw [← List.length_map (f := Prod.fst), hearlier, ← List.length_map (f := Prod.fst),
        Host.map_fst_transcript]
    obtain ⟨-, hrest⟩ := List.append_inj htrace hlength
    exact congrArg Prod.snd (List.cons.inj hrest).1
  · subst hr
    obtain ⟨hall, -, -⟩ := h.of_ok
    rw [hall, Host.map_fst_transcript] at hcalls
    exact (append_cons_inj notMem_registration notMem_forkRest hcalls.symm).2

/-- A fork makes one process. -/
lemma count_forkRow : (Host.forkRow s).count .exofork = 1 := by
  rw [Host.forkRow, List.count_append, List.count_eq_zero.2 notMem_registration,
    List.count_cons_self, List.count_eq_zero.2 notMem_forkRest]

/-- **A fork that succeeds** has made its exofork, and tells what that was answered. -/
lemma forkRow_ok (h : Progress s (Host.forkRow s) xs t (.ok ())) :
    (xs.map Prod.fst).count .exofork = 1 ∧ ∃ answer, (.exofork, answer) ∈ xs ∧
      Fork.ofAnswer answer = .ok (Host.forkSide (Host.after s (Host.registration s))) := by
  obtain ⟨hall, -, hsucceeds⟩ := h.of_ok
  have hmem : (.exofork, (Host.trap .exofork (Host.after s (Host.registration s))).1) ∈ xs := by
    rw [hall, Host.forkRow, Host.transcript_append]
    exact List.mem_append_right _ List.mem_cons_self
  refine ⟨?_, _, hmem, ?_⟩
  · rw [hall, Host.map_fst_transcript, count_forkRow]
  · obtain ⟨v, hv⟩ := hsucceeds _ hmem
    have hside : Fork.ofAnswer (Host.trap .exofork (Host.after s (Host.registration s))).1 =
        .ok (if v = 0 then .child else .parent ⟨v⟩) := by rw [Fork.ofAnswer, hv]
    rw [hside, forkSide_eq hside]

/-- **Before the exofork**, there is the handler to be registered and nothing else. -/
lemma forkRow_begin {calls : List Syscall} (hrow : calls <+: Host.forkRow s)
    (hnone : .exofork ∉ calls) : calls <+: Host.registration s := by
  have hbegin : Host.registration s ++ [.exofork] <+: Host.forkRow s :=
    ⟨_, by rw [Host.forkRow, List.append_assoc]; rfl⟩
  have hmade : ¬ Host.registration s ++ [.exofork] <+: calls := fun hmade =>
    hnone (hmade.subset (List.mem_append_right _ List.mem_cons_self))
  rcases List.prefix_or_prefix_of_prefix hbegin hrow with hlong | hshort
  · exact absurd hlong hmade
  · rcases List.prefix_concat_iff.1 hshort with heq | hshort
    · exact absurd (heq ▸ List.prefix_refl _) hmade
    · exact hshort

/-- **On the side of the child**, the exofork is the last call, and it has succeeded. -/
lemma forkRow_child (h : Progress s (Host.forkRow s) xs t r)
    (hxs : xs = earlier ++ (.exofork, answer) :: later)
    (hanswer : Fork.ofAnswer answer = .ok .child) :
    later = [] ∧ r = .ok () ∧ Host.forkSide (Host.after s (Host.registration s)) = .child := by
  obtain ⟨-, rfl, hlater, -⟩ := forkRow_exofork h hxs
  have hside := forkSide_eq hanswer
  rw [hside] at hlater
  have hnil : later = [] := List.map_eq_nil_iff.1 (List.prefix_nil.1 hlater)
  subst hnil
  refine ⟨rfl, ?_, hside⟩
  cases r with
  | ok _ => rfl
  | error e =>
    obtain ⟨before, c, a, hbefore, -, hdecode⟩ := h.of_error
    rw [hxs] at hbefore
    obtain ⟨-, hlast⟩ := List.append_inj' hbefore rfl
    cases hlast
    rw [Fork.ofAnswer, hdecode] at hanswer
    cases hanswer

/-- The calls for a child come in their order. -/
lemma parentCalls {calls : List Syscall} (hne : child ≠ .self)
    (hrow : calls <+: Host.furnishing s child)
    (hcomplete : ∀ side, result = .ok side →
      side = .parent child ∧ calls = Host.furnishing s child) :
    ParentCalls s child calls result := by
  obtain ⟨hshown, hhidden⟩ := filterMap_furnishing (s := s) hne
  refine ⟨hrow, hcomplete, hshown ▸ hrow.filterMap _, fun side hside => ?_,
    hhidden ▸ hrow.filterMap _, fun side hside => ?_,
    (childFirst_furnishing hne).of_row hrow⟩
  · rw [(hcomplete side hside).2, hshown]
  · rw [(hcomplete side hside).2, hhidden]

/-- **The child is set going last.** -/
lemma forkRow_setStatus {target : ProcessId} {status : ProcessStatus}
    (h : Progress s (Host.forkRow s) xs t r)
    (hxs : xs = earlier ++ (.setStatus target status, answer) :: later) :
    later = [] ∧ (∀ x ∈ earlier, Succeeds x) ∧ status = .runnable ∧
      ∃ answer, (.exofork, answer) ∈ earlier ∧ Fork.ofAnswer answer = .ok (.parent target) := by
  obtain ⟨-, -, more, hmore⟩ := h.eq_transcript
  have hcalls : xs.map Prod.fst = earlier.map Prod.fst ++
      .setStatus target status :: later.map Prod.fst := by rw [hxs, List.map_append]; rfl
  rw [hcalls, List.append_assoc, List.cons_append, Host.forkRow] at hmore
  cases hside : Host.forkSide (Host.after s (Host.registration s)) with
  | child =>
    rw [hside] at hmore
    have hmem : .setStatus target status ∈ Host.registration s ++ [.exofork] :=
      hmore ▸ List.mem_append_right _ List.mem_cons_self
    rw [Host.registration] at hmem
    split at hmem <;> simp at hmem
  | parent child =>
    have hassoc : ∀ (as bs : List Syscall) (c d e f : Syscall),
        as ++ c :: (bs ++ [d, e, f]) = (as ++ c :: (bs ++ [d, e])) ++ [f] := fun as bs c d e f => by
      simp
    rw [hside, Host.forkRest, Host.furnishing, hassoc] at hmore
    obtain ⟨hearlier, hlast, hnone⟩ := append_cons_eq_concat setStatus_notMem hmore
    injection hlast with htarget hstatus
    subst htarget hstatus
    obtain ⟨hlater, -⟩ := List.append_eq_nil_iff.1 hnone
    rw [List.map_eq_nil_iff] at hlater
    subst hlater
    refine ⟨rfl, fun x hx => ?_, rfl, ?_⟩
    · cases r with
      | ok _ => exact h.of_ok.2.2 x (hxs ▸ List.mem_append_left _ hx)
      | error e =>
        obtain ⟨before, c, a, hbefore, hall, -⟩ := h.of_error
        rw [hxs] at hbefore
        obtain ⟨rfl, -⟩ := List.append_inj' hbefore rfl
        exact hall x hx
    · have hmem : .exofork ∈ earlier.map Prod.fst :=
        hearlier ▸ List.mem_append_right _ List.mem_cons_self
      obtain ⟨⟨c, a⟩, hx, rfl⟩ := List.mem_map.1 hmem
      refine ⟨a, hx, ?_⟩
      obtain ⟨before, behind, rfl⟩ := List.append_of_mem hx
      rw [List.append_assoc, List.cons_append] at hxs
      obtain ⟨-, rfl, -⟩ := forkRow_exofork h hxs
      exact ofAnswer_of_forkSide hside

end Order

/-- **A fork makes its calls in this order, on any host**, whatever pages the host tells of and
whatever it answers: it registers its fault handler, makes one exofork, and does nothing more on the
side of the child. On the side of the parent it shows every page but the exception stack to the
child, once and in the order in which the host tells of them. A page that is copied when it is
written it shows to itself right after, with the same permissions. The child is set going by the
very last call. The first call that fails is the last one, and its error is what the fork tells. -/
theorem fork_calls (s : σ) : ∃ result host trace,
    (fork : Program σ Fork).exec s = (result, host) ∧
    (fork : Program (Recorded σ) Fork).exec ⟨s, []⟩ = (result, ⟨host, trace⟩) ∧
    ForkCalls s trace result := by
  obtain ⟨xs, t, r, hprogress, hexec⟩ := makes_fork (s := s) []
  obtain ⟨hresult, hhost⟩ := mirrors_fork (⟨s, []⟩ : Recorded σ)
  rw [hexec] at hresult hhost
  rw [List.nil_append] at hexec
  refine ⟨_, t, xs, Prod.ext hresult.symm hhost.symm, hexec, ?_⟩
  have hrow : xs.map Prod.fst <+: Host.forkRow s := hprogress.eq_transcript.2.2
  have hok : ∀ side, told (Host.forkSide (Host.after s (Host.registration s))) r = .ok side →
      r = .ok () ∧ side = Host.forkSide (Host.after s (Host.registration s)) := fun side h => by
    cases r with
    | ok _ => exact ⟨rfl, (Except.ok.inj h).symm⟩
    | error e => cases h
  refine ⟨fun side hside => ?_, fun error herror => ?_, ?_, fun side hside => ?_,
    fun earlier answer later hxs => ?_, fun hnone => ?_,
    fun earlier answer later hxs hanswer => ?_,
    fun earlier answer later child hxs hanswer => ?_,
    fun earlier target status answer later hxs => forkRow_setStatus hprogress hxs⟩
  · obtain ⟨rfl, -⟩ := hok side hside
    exact hprogress.of_ok.2.2
  · cases r with
    | ok _ => cases herror
    | error e =>
      cases herror
      obtain ⟨earlier, c, answer, hxs, hall, hdecode⟩ := hprogress.of_error
      exact ⟨earlier, c, answer, e, hxs, hall, hdecode, rfl⟩
  · calc (xs.map Prod.fst).count Syscall.exofork
        ≤ (Host.forkRow s).count .exofork := hrow.sublist.count_le _
      _ = 1 := count_forkRow
  · obtain ⟨rfl, rfl⟩ := hok side hside
    exact forkRow_ok hprogress
  · exact (forkRow_exofork hprogress hxs).1
  · exact forkRow_begin hrow hnone
  · obtain ⟨hnil, rfl, hside⟩ := forkRow_child hprogress hxs hanswer
    rw [hside]
    exact ⟨hnil, rfl⟩
  · obtain ⟨-, rfl, hlater, hall⟩ := forkRow_exofork hprogress hxs
    rw [forkSide_eq hanswer] at hlater hall hok ⊢
    refine parentCalls (ne_self_of_ofAnswer hanswer) hlater fun side hside => ?_
    obtain ⟨hr, rfl⟩ := hok side hside
    exact ⟨rfl, hall hr⟩

/-- What a process with one page does for its child, after the exofork. -/
example : (((fork : Program (Recorded ScriptedProcess) Fork).exec
      ⟨{ exoforkAnswer := 7, pages := SortedMap.empty.insert textBase .userWrite },
        []⟩).2.calls.drop 3).map Prod.fst =
    [.pageMap .self (.ofNat textBase) ⟨7⟩ (.ofNat textBase) (.userRead ||| .copyOnWrite),
      .pageMap .self (.ofNat textBase) .self (.ofNat textBase) (.userRead ||| .copyOnWrite),
      .pageAlloc ⟨7⟩ exceptionStack .userWrite,
      .setFaultHandler ⟨7⟩ (.ofNat (textBase + 0x100)), .setStatus ⟨7⟩ .runnable] := by
  decide +kernel

end Exokernel
