/-
Programs that are loaded.

* `Kernel.fresh_of_allocateAs`: a process that is made has an identity that nobody has;
* `Kernel.load_ok`, `Kernel.spawn_ok`: the record and the memory of a process that a program was
  loaded into;
* `byteOf_eq`: segments that share no byte keep theirs;
* `spawn_loads`: **a program that is loaded is there as it was given**, and nothing else is.
-/
import Exokernel.Proofs.Identities
import Exokernel.Proofs.Memory.Programs

namespace Exokernel

open Layout

/-! ### A process that is made -/

namespace Kernel

variable {k k' : Kernel} {id : ProcessId} {p : Process} {image : Image} {s : Nat}

/-- **A process that is made** has an identity that no other process has, live or dying, and that is
not the last one which its slot has issued. -/
lemma fresh_of_allocateAs (hk : k.Sound) {parent : ProcessId} {status : ProcessStatus}
    (h : k.allocateAs parent status = .ok (id, k')) :
    (∀ (slot : Nat) (q : Process), k.table.records[slot]? = some q → q.status ≠ .free →
      q.id ≠ id) ∧ k.table.lastId id.slot ≠ id := by
  obtain ⟨r, hr, hfree⟩ := free_of_allocateAs hk h
  refine ⟨fun slot q hq hused hsame => ?_, ?_⟩
  · have hslot := (hk.tables.sound slot q hq).slot_eq hused
    rw [hsame] at hslot
    rw [hslot, hq] at hr
    cases hr
    exact hused hfree
  · obtain ⟨_, _, _, _, -, -, -, -, hid, -⟩ := allocateAs_takes hk h
    exact fun hsame => ProcessId.next_ne _ _ (hid.symm.trans hsame.symm)

/-- A process that is to begin a program, at its entry and with the top of the stack. -/
def beginning (image : Image) (p : Process) : Process :=
  { p with frame := { p.frame with eip := image.entry.word, esp := UInt32.ofNat stackTop } }

/-- A program that is loaded, in the memory of a process and in its registers. -/
lemma load_ok (hp : k.live? id = some p) (hs : p.space = some s)
    (hok : (k.load id image).1 = .ok ()) :
    (k.machine.load s image).1 = .ok () ∧
      (k.load id image).2 =
        { k with machine := (k.machine.load s image).2 }.modify id (beginning image) := by
  rw [load, spaceOf?_eq_some_iff.2 ⟨p, hp, hs⟩] at hok ⊢
  dsimp only at hok ⊢
  cases hr : k.machine.load s image with
  | mk result machine =>
    rw [hr] at hok
    cases result with
    | error e => cases hok
    | ok u => exact ⟨rfl, rfl⟩

/-- The record of a process that a program was loaded into. -/
def spawned (id : ProcessId) (s : Nat) (image : Image) : Process :=
  { id, parent := .self, status := .runnable, space := some s,
    frame := { TrapFrame.initial (UInt32.ofNat stackTop) with
      eip := image.entry.word, esp := UInt32.ofNat stackTop } }

/-- The address space of a process that is made shows nothing. -/
lemma mapping?_of_allocateAs (hk : k.Sound) {parent : ProcessId} {status : ProcessStatus}
    (hmade : k.allocateAs parent status = .ok (id, k')) {s : Nat} (hs : k'.spaceOf? id = some s)
    (page : Nat) : k'.machine.mapping? s page = none := by
  obtain ⟨hgone, hspaces, hmap, -⟩ := allocateAs_effect hk hmade
  rcases hspaces id s hs with ⟨-, rfl⟩ | hold
  · exact (hmap _ page).trans (if_pos rfl)
  · obtain ⟨q, hq, -⟩ := spaceOf?_eq_some_iff.1 hold
    cases hgone.symm.trans hq

/-- **A program that a process is made for**: the process, and the machine that the program was
loaded into. -/
lemma spawn_ok (hk : k.Sound) (h : k.spawn image = (.ok id, k')) :
    image.isLoadable = true ∧ ∃ k₁ s, k.allocateAs .self .notRunnable = .ok (id, k₁) ∧
      (∀ page, k₁.machine.mapping? s page = none) ∧ (k₁.machine.load s image).1 = .ok () ∧
      k'.live? id = some (spawned id s image) ∧
      k'.machine.frames = (k₁.machine.load s image).2.frames ∧
      k'.machine.spaces = (k₁.machine.load s image).2.spaces ∧
      k'.machine.windows = (k₁.machine.load s image).2.windows := by
  rw [spawn] at h
  split at h
  · next hloadable =>
    refine ⟨hloadable, ?_⟩
    cases hmade : k.allocateAs .self .notRunnable with
    | error e =>
      rw [hmade] at h
      cases h
    | ok r =>
      obtain ⟨id₁, k₁⟩ := r
      rw [hmade] at h
      dsimp only at h
      obtain ⟨s, hp⟩ := live?_of_allocateAs hk rfl hmade
      cases hload : k₁.load id₁ image with
      | mk result k₂ =>
        rw [hload] at h
        cases result with
        | error e => cases h
        | ok u =>
          cases h
          obtain ⟨hok, heq⟩ := load_ok hp rfl (congrArg Prod.fst hload)
          rw [hload] at heq
          dsimp only at heq
          subst heq
          -- the registers are set, and then the process is ready to run
          have hset := live?_modify (k := { k₁ with machine := (k₁.machine.load s image).2 })
            (f := beginning image) hp rfl rfl
          have hready := live?_modify (f := fun p => { p with status := .runnable }) hset rfl rfl
          have hquiet := quiet_log (k := ({ k₁ with machine := (k₁.machine.load s image).2 }.modify
            id (beginning image)).modify id fun p => { p with status := .runnable }) .info
            s!"[{id}] spawned at {image.entry}"
          have hs : k₁.spaceOf? id = some s := spaceOf?_eq_some_iff.2 ⟨_, hp, rfl⟩
          exact ⟨k₁, s, rfl, mapping?_of_allocateAs hk hmade hs, hok,
            (hquiet.live? id).trans hready, hquiet.frames, hquiet.spaces, hquiet.windows⟩
  · cases h

end Kernel

/-! ### Segments that share no byte -/

/-- **A segment has its bytes**, if no other holds one of them. -/
lemma byteOf_eq {segments : List Segment} {g : Segment} {a : Nat}
    (hapart : segments.Pairwise fun x y => ∀ a, ¬ (x.Holds a ∧ y.Holds a)) (hg : g ∈ segments)
    (hholds : g.Holds a) : byteOf segments a = g.byteAt a := by
  induction segments with
  | nil => cases hg
  | cons x segments ih =>
    obtain ⟨hx, hrest⟩ := List.pairwise_cons.1 hapart
    rw [byteOf]
    rcases List.mem_cons.1 hg with rfl | hg
    · rw [List.find?_cons_of_pos (by simpa using hholds)]
    · have hother : ¬ x.Holds a := fun hc => hx g hg a ⟨hc, hholds⟩
      rw [List.find?_cons_of_neg (by simpa using hother)]
      exact ih hrest hg

/-- **A program that is loaded is there as it was given, and nothing else is.** If the segments of a
program share no byte, in whatever order they come, and a process is made for it, then that process
is new: nobody has its identity, and the slot has not issued it last. It is ready to run, made by
nobody, and begins at the entry of the program with the top of the stack. Its pages are those
between the page boundaries around some segment, and the page of the stack. Each is on a frame of
its own, may be read, and may be written exactly if it is the stack or a segment that covers it is
written. The memory of a segment is its data and zeros behind, and every other byte of the pages is
zero. -/
theorem spawn_loads {config : Config} {frames : Nat} {k k' : Kernel} {image : Image}
    {id : ProcessId} (h : Reachable config frames k)
    (hapart : image.segments.Pairwise fun x y => ∀ a, ¬ (x.Holds a ∧ y.Holds a))
    (hok : k.spawn image = (.ok id, k')) :
    ((∀ (slot : Nat) (q : Process), k.table.records[slot]? = some q → q.status ≠ .free →
      q.id ≠ id) ∧ k.table.lastId id.slot ≠ id) ∧
    ∃ s, k'.live? id = some
      { id, parent := .self, status := .runnable, space := some s
        frame := { TrapFrame.initial (UInt32.ofNat stackTop) with
          eip := image.entry.word, esp := UInt32.ofNat stackTop } } ∧
      (∀ page, (k'.machine.mapping? s page).isSome = true ↔
        page = stackPage / pageSize ∨ ∃ g ∈ image.segments, g.Covers page) ∧
      (∀ page e, k'.machine.mapping? s page = some e →
        (e.perm = if page = stackPage / pageSize ∨
            ∃ g ∈ image.segments, g.Covers page ∧ g.writable = true
          then .userWrite else .userRead) ∧
        k'.machine.SoleAt e.frame s page ∧ e.frame ∉ k'.machine.tableFrames) ∧
      (∀ g ∈ image.segments, ∀ i < g.memSize.toNat,
        k'.machine.byte? s (g.va.toNat + i) = some (g.data.getD i 0)) ∧
      ∀ a, (k'.machine.mapping? s (a / pageSize)).isSome = true →
        (∀ g ∈ image.segments, ¬ g.Holds a) → k'.machine.byte? s a = some 0 := by
  obtain ⟨hloadable, k₁, s, hmade, hnone, hload, hlive, hframes, hspaces, hwindows⟩ :=
    Kernel.spawn_ok h.sound hok
  rw [Image.isLoadable, Bool.and_eq_true, List.all_eq_true] at hloadable
  obtain ⟨-, hfit⟩ := hloadable
  have hmake : k.Move (.make none k.machine.spaces.nextId) k₁ :=
    .make nofun (.inr rfl) hmade
  have hk₁ := hmake.sound h.sound
  have hloaded := ((Machine.Furnished.empty (B := fun _ => 0) hk₁.accounted hnone).load hfit hapart
    hload).of_same hframes hspaces hwindows
  have hbytes : ∀ a, (k'.machine.mapping? s (a / pageSize)).isSome = true →
      k'.machine.byte? s a = some (byteOf image.segments a) := fun a ha => by
    obtain ⟨e, he⟩ := Option.isSome_iff_exists.1 ha
    rw [Machine.byte?, he, Option.bind_some, hloaded.bytes _ e he _ (Nat.mod_lt _ (by decide)),
      Nat.div_add_mod']
  have hpages : ∀ page, (k'.machine.mapping? s page).isSome = true ↔
      page = stackPage / pageSize ∨ ∃ g ∈ image.segments, g.Covers page := fun page => by
    rw [← Option.isSome_map (f := (·.perm)), hloaded.perms]
    exact isSome_update_permOf?
  refine ⟨Kernel.fresh_of_allocateAs h.sound hmade, s, hlive, hpages, fun page e he => ⟨?_,
    hloaded.sole page e he, hloaded.accounted.notMem_tableFrames he⟩, fun g hg i hi => ?_,
    fun a ha hout => ?_⟩
  · have hperm := hloaded.perms page
    rw [he, Option.map_some] at hperm
    exact eq_of_update_permOf? hperm.symm
  · have hholds : g.Holds (g.va.toNat + i) := ⟨Nat.le_add_right _ _, Nat.add_lt_add_left hi _⟩
    rw [hbytes _ ((hpages _).2 (.inr ⟨g, hg, Segment.covers_of_holds (hfit g hg) hholds⟩)),
      byteOf_eq hapart hg hholds, Segment.byteAt, Nat.add_sub_cancel_left]
  · rw [hbytes a ha, byteOf_eq_zero hout]

/-- A program whose text begins a page that its data ends, with the data first: the page may be
written, and holds the text, the data and zeros. -/
theorem spawn_loads_shared_page : ∃ (k k' : Kernel) (image : Image) (s : Nat) (e : Mapping),
    Reachable { maxProcesses := 2 } 16 k ∧
    image.segments = [.readWrite (.ofNat (textBase + 8)) [9] 4096,
      .readOnly (.ofNat textBase) [1, 2, 3]] ∧
    image.segments.Pairwise (fun x y => ∀ a, ¬ (x.Holds a ∧ y.Holds a)) ∧
    k.spawn image = (.ok (ProcessId.self.next 0), k') ∧
    k'.spaceOf? (ProcessId.self.next 0) = some s ∧
    k'.machine.mapping? s (textBase / pageSize) = some e ∧ e.perm = .userWrite ∧
    k'.machine.byte? s (textBase + 1) = some 2 ∧ k'.machine.byte? s (textBase + 5) = some 0 ∧
    k'.machine.byte? s (textBase + 8) = some 9 ∧ k'.machine.byte? s (textBase + 9) = some 0 := by
  obtain ⟨k, image, hk, himage, hok⟩ : ∃ (k : Kernel) (image : Image),
      Reachable { maxProcesses := 2 } 16 k ∧
      image.segments = [.readWrite (.ofNat (textBase + 8)) [9] 4096,
        .readOnly (.ofNat textBase) [1, 2, 3]] ∧
      (k.spawn image).1 = .ok (ProcessId.self.next 0) :=
    ⟨_, ⟨.ofNat textBase, _⟩, .boot rfl (.refl _) rfl, rfl, by decide +kernel⟩
  have hdata : (Segment.readWrite (.ofNat (textBase + 8)) [9] 4096).va.toNat = textBase + 8 := by
    decide
  have htext : (Segment.readOnly (.ofNat textBase) [1, 2, 3]).va.toNat = textBase := by decide
  have hstop : (Segment.readOnly (.ofNat textBase) [1, 2, 3]).stop = textBase + 3 := by decide
  have hapart : image.segments.Pairwise fun x y => ∀ a, ¬ (x.Holds a ∧ y.Holds a) := by
    rw [himage]
    refine .cons (fun y hy a hc => ?_) (.cons (fun y hy => nomatch hy) .nil)
    obtain rfl := List.mem_singleton.1 hy
    obtain ⟨⟨hlow, -⟩, -, hhigh⟩ := hc
    rw [hdata] at hlow
    rw [hstop] at hhigh
    omega
  obtain ⟨-, s, hlive, hpages, hshown, hbytes, hzeros⟩ :=
    spawn_loads hk hapart (Prod.ext hok rfl)
  rw [himage] at hpages hshown hbytes hzeros
  have hthere := (hpages (textBase / pageSize)).2 (.inr ⟨_, List.mem_cons_self, by decide⟩)
  obtain ⟨e, he⟩ := Option.isSome_iff_exists.1 hthere
  have hwritten := hbytes _ List.mem_cons_self
  have hread := hbytes _ (List.mem_cons_of_mem _ List.mem_cons_self)
  rw [hdata] at hwritten
  rw [htext] at hread
  refine ⟨k, _, image, s, e, hk, himage, hapart, Prod.ext hok rfl,
    Kernel.spaceOf?_eq_some_iff.2 ⟨_, hlive, rfl⟩, he, ?_, hread 1 (by decide), ?_,
    hwritten 0 (by decide), hwritten 1 (by decide)⟩
  · rw [(hshown _ e he).1, if_pos (.inr ⟨_, List.mem_cons_self, by decide, rfl⟩)]
  · refine hzeros _ hthere fun g hg hholds => ?_
    rcases List.mem_cons.1 hg with rfl | hg
    · have hlow := hholds.1
      rw [hdata] at hlow
      omega
    · obtain rfl := List.mem_singleton.1 hg
      have hhigh := hholds.2
      rw [hstop] at hhigh
      omega

end Exokernel
