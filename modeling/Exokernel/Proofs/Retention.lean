/-
What the audit log keeps of its history.

* `AuditCall`: a call that has something recorded, and `AuditLog.after`: the log after a row of
  them;
* `AuditCall.history`: the events of a row of calls, every one numbered by its place in the row;
* `AuditLog.after_eq`: a row of calls records these events, and `AuditLog.events_after`: the last of
  them are kept;
* `AuditLog.mem_events_after_iff`: how long an event is kept;
* `log_slides`: **the log is a window that slides over its history**.
-/
import Exokernel.Proofs.Kernel.Trails
import Mathlib.Data.List.Basic

namespace Exokernel

/-- A call that has something recorded. -/
inductive AuditCall where
  | request (process number : UInt32) (args : List UInt32) (timestamp : UInt32)
  | response (process : UInt32) (answered : Nat) (result : Option Int32) (timestamp : UInt32)
  | termination (process : UInt32) (cause : TerminationCause) (timestamp : UInt32)
  deriving DecidableEq

namespace AuditCall

/-- The log after the call. -/
def apply (log : AuditLog) : AuditCall → AuditLog
  | .request process number args timestamp => (log.request process number args timestamp).2
  | .response process answered result timestamp => log.response process answered result timestamp
  | .termination process cause timestamp => log.termination process cause timestamp

/-- The event of the call, under the number `id`. -/
def event (id : Nat) : AuditCall → AuditEvent
  | .request process number args timestamp => ⟨id, process, timestamp, .request number args⟩
  | .response process answered result timestamp =>
    ⟨id, process, timestamp, .response answered result⟩
  | .termination process cause timestamp => ⟨id, process, timestamp, .terminated cause⟩

/-- The events of a row of calls, in the order of the calls and numbered by their places. -/
def history (calls : List AuditCall) : List AuditEvent := calls.mapIdx event

variable {calls more : List AuditCall} {i k : Nat}

@[simp] lemma id_event (id : Nat) (c : AuditCall) : (c.event id).id = id := by
  cases c <;> rfl

/-- Every call records its event under the next number. -/
lemma apply_eq (log : AuditLog) (c : AuditCall) : c.apply log =
    log.record (c.event log.nextId).process (c.event log.nextId).kind
      (c.event log.nextId).timestamp := by
  cases c <;> rfl

@[simp] lemma length_history (calls : List AuditCall) : (history calls).length = calls.length := by
  simp [history]

lemma getElem?_history : (history calls)[i]? = calls[i]?.map (event i) := by
  simp [history]

/-- Every event has its place for its number. -/
lemma id_of_getElem?_history {e : AuditEvent} (h : (history calls)[i]? = some e) : e.id = i := by
  rw [getElem?_history, Option.map_eq_some_iff] at h
  obtain ⟨c, -, rfl⟩ := h
  exact id_event i c

lemma mem_history_iff {e : AuditEvent} : e ∈ history calls ↔ (history calls)[e.id]? = some e := by
  refine ⟨fun he => ?_, List.mem_of_getElem?⟩
  obtain ⟨i, hi⟩ := List.mem_iff_getElem?.mp he
  rwa [id_of_getElem?_history hi]

/-- Calls that come later leave the history as it is. -/
lemma getElem?_history_append (hi : i < calls.length) :
    (history (calls ++ more))[i]? = (history calls)[i]? := by
  rw [getElem?_history, getElem?_history, List.getElem?_append_left hi]

lemma numbered_mapIdx (n : Nat) (calls : List AuditCall) :
    AuditLog.Numbered n (calls.mapIdx fun i c => c.event (i + n)) := by
  refine List.ext_getElem (by simp) fun i _ _ => ?_
  simp [Nat.add_comm]

lemma numbered_history (calls : List AuditCall) : AuditLog.Numbered 0 (history calls) :=
  numbered_mapIdx 0 calls

end AuditCall

open AuditCall (history)

namespace AuditLog

variable {calls more : List AuditCall} {k : Nat}

/-- The log after a row of calls. -/
def after (log : AuditLog) (calls : List AuditCall) : AuditLog := calls.foldl AuditCall.apply log

/-- **A row of calls records its events** one after the other. -/
lemma after_eq (log : AuditLog) (calls : List AuditCall) : log.after calls =
    log.recordAll (calls.mapIdx fun i c => c.event (i + log.nextId)) := by
  induction calls generalizing log with
  | nil => rfl
  | cons c calls ih =>
    have hnext : (c.apply log).nextId = log.nextId + 1 := by
      rw [AuditCall.apply_eq, nextId_record]
    have hrest : (fun i (c : AuditCall) => c.event (i + (log.nextId + 1))) =
        fun i c => c.event (i + 1 + log.nextId) := by
      funext i c
      congr 1
      omega
    rw [after, List.foldl_cons, ← after, ih, hnext, hrest, List.mapIdx_cons, recordAll_cons,
      Nat.zero_add, ← AuditCall.apply_eq]

lemma nextId_after (k : Nat) (calls : List AuditCall) :
    ((empty k).after calls).nextId = calls.length := by
  rw [after_eq, nextId_recordAll, List.length_mapIdx]
  exact Nat.zero_add _

/-- No more can be kept than there is. -/
lemma lastN_min {α : Type} (n : Nat) (xs : List α) : lastN (min n xs.length) xs = lastN n xs := by
  rw [lastN, lastN]
  congr 1
  omega

/-- **A log that begins without events keeps the last ones** of its history. -/
lemma events_after (k : Nat) (calls : List AuditCall) :
    ((empty k).after calls).events = lastN (min k calls.length) (history calls) := by
  have hnumbered : Numbered (empty k).nextId (history calls) := AuditCall.numbered_history calls
  have hkept : ((empty k).recordAll (history calls)).events = lastN k (history calls) :=
    events_recordAll (Nat.zero_le _) hnumbered
  rw [after_eq]
  exact hkept.trans (by rw [← AuditCall.length_history calls, lastN_min])

/-- The events that are kept are numbered up to the next number. -/
lemma ids_after (k : Nat) (calls : List AuditCall) :
    ((empty k).after calls).events.map (·.id) =
      List.range' (calls.length - min k calls.length) (min k calls.length) := by
  have hids : (history calls).map (·.id) = List.range' 0 (history calls).length :=
    AuditCall.numbered_history calls
  have hall : calls.length - (calls.length - min k calls.length) = min k calls.length := by omega
  rw [events_after, lastN, List.map_drop, hids, AuditCall.length_history, List.drop_range', hall,
    Nat.zero_add, Nat.mul_one]

/-- **An event is kept** as long as it is no further from the end of the history than the log has
room. -/
lemma mem_events_after_iff {e : AuditEvent} : e ∈ ((empty k).after calls).events ↔
    e ∈ history calls ∧ calls.length ≤ e.id + k := by
  rw [events_after, lastN, AuditCall.length_history, AuditCall.mem_history_iff,
    List.mem_iff_getElem?]
  simp only [List.getElem?_drop]
  constructor
  · rintro ⟨i, hi⟩
    have hid := AuditCall.id_of_getElem?_history hi
    rw [hid]
    exact ⟨hi, by omega⟩
  · rintro ⟨hplace, hnear⟩
    have hfrom : calls.length - min k calls.length ≤ e.id := by omega
    refine ⟨e.id - (calls.length - min k calls.length), ?_⟩
    rw [Nat.add_sub_cancel' hfrom]
    exact hplace

end AuditLog

/-- **The audit log is a window that slides over its history.** After `n` calls a log with room for
`k` events, none maybe, keeps the last `min k n` events of these calls in their order, numbered from
`n - min k n` to `n - 1`, and `n` is the next number. A request is told the place of its own event,
and what is kept of a process are the kept events of this process. Whatever calls come then: of the
events that were dropped none is there again, not even under its number, and those that are kept are
what they were. -/
theorem log_slides (k : Nat) (calls : List AuditCall) :
    ((AuditLog.empty k).after calls).events =
      AuditLog.lastN (min k calls.length) (history calls) ∧
    ((AuditLog.empty k).after calls).events.map (·.id) =
      List.range' (calls.length - min k calls.length) (min k calls.length) ∧
    ((AuditLog.empty k).after calls).nextId = calls.length ∧
    (∀ i process number args timestamp,
      calls[i]? = some (.request process number args timestamp) →
      (((AuditLog.empty k).after (calls.take i)).request process number args timestamp).1 = i ∧
      (history calls)[i]? = some ⟨i, process, timestamp, .request number args⟩) ∧
    (∀ process, ((AuditLog.empty k).after calls).ofProcess process =
      (AuditLog.lastN (min k calls.length) (history calls)).filter (·.process = process)) ∧
    ∀ more,
      (∀ e ∈ history calls, e ∉ ((AuditLog.empty k).after calls).events →
        ∀ e' ∈ ((AuditLog.empty k).after (calls ++ more)).events, e'.id ≠ e.id) ∧
      ∀ e ∈ ((AuditLog.empty k).after calls).events,
        ∀ e' ∈ ((AuditLog.empty k).after (calls ++ more)).events, e'.id = e.id → e' = e := by
  refine ⟨AuditLog.events_after k calls, AuditLog.ids_after k calls, AuditLog.nextId_after k calls,
    ?_, ?_, fun more => ⟨?_, ?_⟩⟩
  · intro i process number args timestamp hcall
    have hi : i < calls.length := (List.getElem?_eq_some_iff.mp hcall).1
    have hbefore : (calls.take i).length = i := List.length_take_of_le (Nat.le_of_lt hi)
    refine ⟨(AuditLog.nextId_after k _).trans hbefore, ?_⟩
    rw [AuditCall.getElem?_history, hcall]
    rfl
  · intro process
    rw [AuditLog.ofProcess, AuditLog.events_after]
  · intro e he hdropped e' hlater hid
    have hnear := (AuditLog.mem_events_after_iff.mp hlater).2
    rw [List.length_append] at hnear
    exact hdropped (AuditLog.mem_events_after_iff.mpr ⟨he, by omega⟩)
  · intro e hkept e' hlater hid
    have hplace := AuditCall.mem_history_iff.mp (AuditLog.mem_events_after_iff.mp hkept).1
    have hplace' := AuditCall.mem_history_iff.mp (AuditLog.mem_events_after_iff.mp hlater).1
    have hi : e.id < calls.length := by
      rw [← AuditCall.length_history calls]
      exact (List.getElem?_eq_some_iff.mp hplace).1
    rw [hid, AuditCall.getElem?_history_append hi, hplace] at hplace'
    exact (Option.some.inj hplace').symm

/-- A log with room for two events has forgotten the first of three, and after one more the second
of them. -/
theorem log_slides_three : ∃ (calls more : List AuditCall),
    calls[1]? = some (.request 9 3 [] 20) ∧
    (((AuditLog.empty 2).after (calls.take 1)).request 9 3 [] 20).1 = 1 ∧
    ((AuditLog.empty 2).after calls).events.map (·.id) = [1, 2] ∧
    ((AuditLog.empty 2).after calls).nextId = 3 ∧
    ((AuditLog.empty 2).after calls).ofProcess 9 = [⟨1, 9, 20, .request 3 []⟩] ∧
    (∃ e ∈ history calls, e ∉ ((AuditLog.empty 2).after calls).events ∧
      ∀ e' ∈ ((AuditLog.empty 2).after (calls ++ more)).events, e'.id ≠ e.id) ∧
    ∃ e ∈ ((AuditLog.empty 2).after calls).events,
      ∃ e' ∈ ((AuditLog.empty 2).after (calls ++ more)).events, e'.id = e.id ∧ e' = e := by
  let calls : List AuditCall :=
    [.request 7 1 [5] 10, .request 9 3 [] 20, .termination 7 (.badUserBuffer 0) 30]
  let more : List AuditCall := [.response 9 1 (some 0) 40]
  obtain ⟨-, hids, hnext, hrequest, hprocess, hlater⟩ := log_slides 2 calls
  obtain ⟨hdropped, hkept⟩ := hlater more
  let first : AuditEvent := ⟨0, 7, 10, .request 1 [5]⟩
  let last : AuditEvent := ⟨2, 7, 30, .terminated (.badUserBuffer 0)⟩
  exact ⟨calls, more, rfl, (hrequest 1 9 3 [] 20 rfl).1, hids, hnext, hprocess 9,
    ⟨first, by decide, by decide, hdropped first (by decide) (by decide)⟩,
    last, by decide, last, by decide, rfl, hkept last (by decide) last (by decide) rfl⟩

end Exokernel
