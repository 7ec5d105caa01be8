/-
The system calls that user code makes.

* `Recorded`: a host whose calls are taken down, each with its answer;
* `Program.Mirrors`: user code does there what it does on the host itself;
* `Host.after`, `Host.transcript`: a row of calls, and the answers of the host;
* `Progress`: how far user code comes in a row of calls, which is up to the first that fails;
* `Program.Makes`: **user code that makes the calls of a row and no others**; `Makes.bind` puts two
  such pieces together.
-/
import Exokernel.Proofs.LibOS.Exec

namespace Exokernel

/-- A host whose calls are taken down. -/
structure Recorded (σ : Type) where
  host : σ
  /-- The calls with their answers, oldest first. -/
  calls : List (Syscall × Int32) := []

variable {σ : Type} [Host σ] {α β : Type}

namespace Recorded

/-- A call, which is taken down with its answer. -/
def trap (c : Syscall) (r : Recorded σ) : Int32 × Recorded σ :=
  ((Host.trap c r.host).1,
    ⟨(Host.trap c r.host).2, r.calls ++ [(c, (Host.trap c r.host).1)]⟩)

instance : Host (Recorded σ) where
  trap := trap
  perm? r := Host.perm? r.host
  pages r := Host.pages r.host
  copyPage dst src r :=
    ((Host.copyPage dst src r.host).1, { r with host := (Host.copyPage dst src r.host).2 })
  mailbox r := Host.mailbox r.host
  handlerEntry r := Host.handlerEntry r.host

end Recorded

/-! ### Taking down changes nothing -/

namespace Program

/-- User code gives the same and leaves the host the same where its calls are taken down. -/
def Mirrors (p : Program (Recorded σ) α) (q : Program σ α) : Prop :=
  ∀ r : Recorded σ, (p.exec r).1 = (q.exec r.host).1 ∧ (p.exec r).2.host = (q.exec r.host).2

omit [Host σ] in
lemma mirrors_pure (a : α) :
    Mirrors (pure a : Program (Recorded σ) α) (pure a : Program σ α) := fun _ => ⟨rfl, rfl⟩

omit [Host σ] in
lemma mirrors_throw (e : LibError) :
    Mirrors (throw e : Program (Recorded σ) α) (throw e : Program σ α) := fun _ => ⟨rfl, rfl⟩

omit [Host σ] in
lemma Mirrors.bind {p : Program (Recorded σ) α} {q : Program σ α}
    {f : α → Program (Recorded σ) β} {g : α → Program σ β} (h : Mirrors p q)
    (hf : ∀ a, Mirrors (f a) (g a)) : Mirrors (p >>= f) (q >>= g) := fun r => by
  obtain ⟨hresult, hhost⟩ := h r
  rw [exec_bind, exec_bind]
  rcases hp : p.exec r with ⟨_ | a, r₁⟩ <;> rcases hq : q.exec r.host with ⟨_ | b, s₁⟩ <;>
    rw [hp, hq] at hresult hhost <;> cases hresult <;> cases hhost
  · exact ⟨rfl, rfl⟩
  · exact hf a r₁

lemma mirrors_raw (c : Syscall) : Mirrors (raw c : Program (Recorded σ) Int32) (raw c) :=
  fun _ => ⟨rfl, rfl⟩

lemma mirrors_request (c : Syscall) :
    Mirrors (request c : Program (Recorded σ) Unit) (request c) := by
  have hask : Mirrors (ask c : Program (Recorded σ) UInt32) (ask c) :=
    (mirrors_raw c).bind fun answer => by
      cases decodeResult answer with
      | error e => exact mirrors_throw _
      | ok v => exact mirrors_pure v
  exact hask.bind fun _ => mirrors_pure ()

lemma mirrors_perm? (va : VirtAddr) :
    Mirrors (perm? va : Program (Recorded σ) (Option Perm)) (perm? va) := fun _ => ⟨rfl, rfl⟩

lemma mirrors_pages : Mirrors (pages : Program (Recorded σ) (List (VirtAddr × Perm))) pages :=
  fun _ => ⟨rfl, rfl⟩

lemma mirrors_handlerEntry :
    Mirrors (handlerEntry : Program (Recorded σ) VirtAddr) handlerEntry := fun _ => ⟨rfl, rfl⟩

lemma mirrors_copyPage (dst src : VirtAddr) :
    Mirrors (copyPage dst src : Program (Recorded σ) Unit) (copyPage dst src) :=
  fun _ => ⟨rfl, rfl⟩

end Program

/-! ### A row of calls -/

namespace Host

variable {s : σ} {c : Syscall} {cs ds : List Syscall}

/-- The host once it has answered several calls. -/
def after (s : σ) (cs : List Syscall) : σ := cs.foldl (fun s c => (Host.trap c s).2) s

/-- Several calls with the answers of the host. -/
def transcript (s : σ) : List Syscall → List (Syscall × Int32)
  | [] => []
  | c :: cs => (c, (Host.trap c s).1) :: transcript (Host.trap c s).2 cs

lemma after_append : after s (cs ++ ds) = after (after s cs) ds := List.foldl_append

lemma transcript_append :
    transcript s (cs ++ ds) = transcript s cs ++ transcript (after s cs) ds := by
  induction cs generalizing s with
  | nil => rfl
  | cons c cs ih => exact congrArg _ ih

@[simp] lemma map_fst_transcript : (transcript s cs).map Prod.fst = cs := by
  induction cs generalizing s with
  | nil => rfl
  | cons c cs ih => exact congrArg _ ih

end Host

/-- A call that succeeds, with its answer. -/
def Succeeds (x : Syscall × Int32) : Prop := ∃ v, decodeResult x.2 = .ok v

open Host in
/-- **How far user code comes in a row of calls**, on a host in state `s`: it makes all of them, or
stops at the first that fails. It is told which calls are made with which answers, the state of the
host afterwards, and the error if there is one. -/
inductive Progress (s : σ) :
    List Syscall → List (Syscall × Int32) → σ → Except KernelError Unit → Prop where
  | done {cs : List Syscall} (hall : ∀ x ∈ transcript s cs, Succeeds x) :
      Progress s cs (transcript s cs) (after s cs) (.ok ())
  | failed {cs ds : List Syscall} {c : Syscall} {e : KernelError}
      (hall : ∀ x ∈ transcript s cs, Succeeds x)
      (herror : decodeResult (trap c (after s cs)).1 = .error e) :
      Progress s (cs ++ c :: ds) (transcript s (cs ++ [c])) (after s (cs ++ [c])) (.error e)

namespace Progress

variable {s t u : σ} {cs ds : List Syscall} {xs ys : List (Syscall × Int32)} {e : KernelError}
  {r : Except KernelError Unit}

lemma nil : Progress s [] [] s (.ok ()) := done fun _ hx => nomatch hx

/-- A single call that succeeds. -/
lemma single_ok {c : Syscall} {v : UInt32} (h : decodeResult (Host.trap c s).1 = .ok v) :
    Progress s [c] [(c, (Host.trap c s).1)] (Host.trap c s).2 (.ok ()) :=
  done fun x hx => by
    obtain rfl := List.mem_singleton.1 hx
    exact ⟨v, h⟩

/-- A single call that fails. -/
lemma single_error {c : Syscall} (h : decodeResult (Host.trap c s).1 = .error e) :
    Progress s [c] [(c, (Host.trap c s).1)] (Host.trap c s).2 (.error e) :=
  @failed σ _ s [] [] c e (fun _ hx => nomatch hx) h

/-- The calls are made in their order, and their answers are those of the host. -/
lemma eq_transcript (h : Progress s cs xs t r) :
    xs = Host.transcript s (xs.map Prod.fst) ∧ t = Host.after s (xs.map Prod.fst) ∧
      xs.map Prod.fst <+: cs := by
  cases h with
  | done hall => rw [Host.map_fst_transcript]; exact ⟨rfl, rfl, List.prefix_refl _⟩
  | @failed cs ds c e hall herror =>
    rw [Host.map_fst_transcript]
    exact ⟨rfl, rfl, ds, by rw [List.append_assoc]; rfl⟩

/-- If none fails, all are made. -/
lemma of_ok (h : Progress s cs xs t (.ok ())) :
    xs = Host.transcript s cs ∧ t = Host.after s cs ∧ ∀ x ∈ xs, Succeeds x := by
  cases h with
  | done hall => exact ⟨rfl, rfl, hall⟩

/-- If one fails, it is the last that is made. -/
lemma of_error (h : Progress s cs xs t (.error e)) : ∃ earlier c answer,
    xs = earlier ++ [(c, answer)] ∧ (∀ x ∈ earlier, Succeeds x) ∧
      decodeResult answer = .error e := by
  cases h with
  | failed hall herror => exact ⟨_, _, _, Host.transcript_append, hall, herror⟩

/-- After an error, no more calls are made. -/
lemma stop (h : Progress s cs xs t (.error e)) (ds : List Syscall) :
    Progress s (cs ++ ds) xs t (.error e) := by
  cases h with
  | failed hall herror =>
    rw [List.append_assoc]
    exact .failed hall herror

/-- Without an error, more calls may be made. -/
lemma append (h : Progress s cs xs t (.ok ())) (h' : Progress t ds ys u r) :
    Progress s (cs ++ ds) (xs ++ ys) u r := by
  obtain ⟨rfl, rfl, hall⟩ := h.of_ok
  have hboth : ∀ {ds}, (∀ x ∈ Host.transcript (Host.after s cs) ds, Succeeds x) →
      ∀ x ∈ Host.transcript s (cs ++ ds), Succeeds x := fun hds x hx => by
    rw [Host.transcript_append] at hx
    exact (List.mem_append.1 hx).elim (hall x) (hds x)
  cases h' with
  | done hds =>
    rw [← Host.transcript_append, ← Host.after_append]
    exact .done (hboth hds)
  | failed hds herror =>
    rw [← Host.after_append] at herror
    rw [← Host.transcript_append, ← Host.after_append, ← List.append_assoc, ← List.append_assoc]
    exact .failed (hboth hds) herror

end Progress

/-! ### User code that makes a row of calls -/

namespace Program

variable {s : σ} {cs ds : List Syscall} {a : α} {b : β}

/-- What user code gives that makes a row of calls: `a`, or the error of the call that failed. -/
def told (a : α) : Except KernelError Unit → Except LibError α
  | .ok () => .ok a
  | .error e => .error (.kernel e)

/-- **User code makes the calls `cs` and no others**, one after the other, on a host in state `s`.
At the first that fails it stops and tells the error; otherwise it gives `a`. -/
def Makes (p : Program (Recorded σ) α) (s : σ) (cs : List Syscall) (a : α) : Prop :=
  ∀ earlier, ∃ xs t r, Progress s cs xs t r ∧ p.exec ⟨s, earlier⟩ = (told a r, ⟨t, earlier ++ xs⟩)

/-- What user code looks at without a call. -/
lemma Makes.of_look {p : Program (Recorded σ) α}
    (h : ∀ earlier, p.exec ⟨s, earlier⟩ = (.ok a, ⟨s, earlier⟩)) : Makes p s [] a :=
  fun earlier => ⟨[], s, .ok (), .nil, by rw [h, List.append_nil]; rfl⟩

lemma makes_pure : Makes (pure a : Program (Recorded σ) α) s [] a := .of_look fun _ => rfl

/-- **One piece of user code after the other**; the second may depend on what the first left. -/
lemma Makes.bind {p : Program (Recorded σ) α} {f : α → Program (Recorded σ) β}
    (hp : Makes p s cs a) (hf : Makes (f a) (Host.after s cs) ds b) :
    Makes (p >>= f) s (cs ++ ds) b := fun earlier => by
  obtain ⟨xs, t, r, hout, hexec⟩ := hp earlier
  rw [exec_bind, hexec]
  cases r with
  | error e => exact ⟨xs, t, .error e, hout.stop ds, rfl⟩
  | ok _ =>
    obtain ⟨-, rfl, -⟩ := hout.of_ok
    obtain ⟨ys, u, r', hout', hexec'⟩ := hf (earlier ++ xs)
    rw [List.append_assoc] at hexec'
    exact ⟨xs ++ ys, u, r', hout.append hout', hexec'⟩

/-- A look, and then the calls. -/
lemma Makes.look_bind {p : Program (Recorded σ) α} {f : α → Program (Recorded σ) β}
    (hp : Makes p s [] a) (hf : Makes (f a) s ds b) : Makes (p >>= f) s ds b :=
  hp.bind hf

/-- A call whose answer may be made something of, if it is a success. -/
lemma makes_raw {c : Syscall} {f : Int32 → Program (Recorded σ) β}
    (hok : ∀ v, decodeResult (Host.trap c s).1 = .ok v →
      f (Host.trap c s).1 = (pure b : Program (Recorded σ) β))
    (herror : ∀ e, decodeResult (Host.trap c s).1 = .error e →
      f (Host.trap c s).1 = (throw (.kernel e) : Program (Recorded σ) β)) :
    Makes (raw c >>= f) s [c] b := fun earlier => by
  have hexec : (raw c >>= f).exec (⟨s, earlier⟩ : Recorded σ) = (f (Host.trap c s).1).exec
      ⟨(Host.trap c s).2, earlier ++ [(c, (Host.trap c s).1)]⟩ := by
    rw [exec_bind, exec_raw]
    rfl
  rw [hexec]
  cases hdecode : decodeResult (Host.trap c s).1 with
  | ok v =>
    rw [hok v hdecode]
    exact ⟨_, _, .ok (), .single_ok hdecode, rfl⟩
  | error e =>
    rw [herror e hdecode]
    exact ⟨_, _, .error e, .single_error hdecode, rfl⟩

lemma makes_request (c : Syscall) : Makes (request c) s [c] () := by
  rw [request, ask, bind_assoc]
  exact makes_raw (fun v hv => by rw [hv]; rfl) fun e he => by rw [he]; rfl

lemma makes_perm? (va : VirtAddr) :
    Makes (perm? va) s [] (Host.perm? s va) := .of_look fun _ => rfl

lemma makes_pages : Makes pages s [] (Host.pages s) := .of_look fun _ => rfl

lemma makes_handlerEntry :
    Makes handlerEntry s [] (Host.handlerEntry s) := .of_look fun _ => rfl

end Program

end Exokernel
