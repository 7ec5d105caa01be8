/-
What must hold of the kernel's tables between any two operations.

* `Rule`: the five rules that a healthy table obeys;
* `Violation`: one way in which a table breaks a rule, with its text;
* `Snapshot.violations`: everything that is wrong with a table, rule by rule.
-/
import Exokernel.Snapshot

namespace Exokernel

/-- What a healthy table obeys. -/
inductive Rule where
  /-- A slot is free exactly if it is on the free list, and it is there once. -/
  | freeList
  /-- The identity of a live process is not zero and names its own slot. -/
  | identity
  /-- No two processors claim one process, and what a process says of its processor is what that
  processor says. -/
  | residency
  /-- A live process has an address space, a free slot has none, and a dying process keeps its own
  only while it is bound. -/
  | spaceLifetime
  /-- Who receives is blocked. -/
  | mailbox
  deriving DecidableEq

/-- The name of a rule in reports. -/
def Rule.name : Rule → String
  | .freeList => "free_list_consistency"
  | .identity => "identity_consistency"
  | .residency => "single_residency"
  | .spaceLifetime => "space_lifetime"
  | .mailbox => "mailbox_consistency"

/-- One way in which a table breaks a rule. -/
inductive Violation where
  /-- The free list names a slot that the table does not have. -/
  | strayFreeSlot (slot : Nat)
  /-- The free list names a slot more than once. -/
  | repeatedFreeSlot (slot times : Nat)
  /-- A slot is on the free list and not free, or the other way round. -/
  | misplacedSlot (slot : Nat) (status : ProcessStatus) (listed : Bool)
  /-- A live process has an identity that is zero or names another slot. -/
  | wrongIdentity (slot : Nat) (id : ProcessId)
  /-- Two processors claim one process. -/
  | claimedTwice (first second : Nat) (id : ProcessId)
  /-- A process is bound to a processor that claims something else. -/
  | unclaimed (id : ProcessId) (cpu : Nat) (claimed : Option ProcessId)
  /-- A process runs and is bound to no processor. -/
  | runningNowhere (id : ProcessId)
  /-- A slot has an address space that it must not have, or lacks one. -/
  | wrongSpace (slot : Nat) (status : ProcessStatus) (hasSpace : Bool)
  /-- A process receives and is not blocked. -/
  | receivingAwake (id : ProcessId) (status : ProcessStatus)
  deriving DecidableEq

namespace Violation

/-- The rule that is broken. -/
def rule : Violation → Rule
  | .strayFreeSlot _ | .repeatedFreeSlot .. | .misplacedSlot .. => .freeList
  | .wrongIdentity .. => .identity
  | .claimedTwice .. | .unclaimed .. | .runningNowhere _ => .residency
  | .wrongSpace .. => .spaceLifetime
  | .receivingAwake .. => .mailbox

/-- A truth value in reports. -/
def truth (b : Bool) : String := if b then "true" else "false"

/-- What a processor claims, in reports. -/
def claim : Option ProcessId → String
  | none => "None"
  | some id => "Some(ProcessId(" ++ id.text ++ "))"

/-- What is wrong, in words. -/
def message : Violation → String
  | .strayFreeSlot slot => s!"Free list names slot {slot} outside the table"
  | .repeatedFreeSlot slot times => s!"Slot {slot} is on the free list {times} times"
  | .misplacedSlot slot status listed =>
    s!"Slot {slot} has status {status.name} but free-list membership is {truth listed}"
  | .wrongIdentity slot id => s!"Slot {slot} holds live id {id}"
  | .claimedTwice first second id => s!"CPUs {first} and {second} both claim process {id}"
  | .unclaimed id cpu claimed =>
    s!"Process {id} says it is resident on CPU {cpu} which claims {claim claimed}"
  | .runningNowhere id => s!"Process {id} is Running on no CPU"
  | .wrongSpace slot status hasSpace =>
    s!"Slot {slot} is {status.name} with has_space = {truth hasSpace}"
  | .receivingAwake id status => s!"Process {id} is receiving while {status.name}"

end Violation

namespace Snapshot

/-! ### The free list -/

/-- How often the free list names each slot of the table. -/
def tally (slots : Nat) (freeSlots : List Nat) : Array Nat :=
  freeSlots.foldl (fun counts slot => counts.modify slot (· + 1)) (Array.replicate slots 0)

/-- What is wrong with the place of one slot, which the free list names `times` times. -/
def slotViolations (p : ProcessInfo) (times : Nat) : List Violation :=
  (if times > 1 then [.repeatedFreeSlot p.slot times] else []) ++
  (if (p.status = .free) ≠ (times > 0) then [.misplacedSlot p.slot p.status (times > 0)] else [])

/-- What is wrong with the free list. -/
def freeListViolations (s : Snapshot) : List Violation :=
  let counts := tally s.processes.length s.freeSlots
  (s.freeSlots.filter (s.processes.length ≤ ·)).map .strayFreeSlot ++
  s.processes.flatMap fun p => slotViolations p (counts.getD p.slot 0)

/-! ### Identities -/

/-- What is wrong with the identities of live processes. -/
def identityViolations (s : Snapshot) : List Violation :=
  (s.processes.filter fun p => p.status.isLive && (p.id.isSelf || p.id.slot ≠ p.slot)).map
    fun p => .wrongIdentity p.slot p.id

/-! ### Residency -/

/-- The processors among the later ones that claim the same process as an earlier one. -/
def sharedClaims : List CpuInfo → List Violation
  | [] => []
  | a :: rest =>
    (match a.current with
      | none => []
      | some id => (rest.filter (·.current = some id)).map fun b => .claimedTwice a.cpu b.cpu id) ++
    sharedClaims rest

/-- What is wrong with what a process says of its processor. -/
def residenceViolations (s : Snapshot) (p : ProcessInfo) : List Violation :=
  match p.resident with
  | some cpu =>
    let claimed := s.cpus[cpu]?.bind (·.current)
    if claimed = some p.id then [] else [.unclaimed p.id cpu claimed]
  | none => if p.status = .running then [.runningNowhere p.id] else []

/-- What is wrong between processes and processors. -/
def residencyViolations (s : Snapshot) : List Violation :=
  sharedClaims s.cpus ++ s.processes.flatMap s.residenceViolations

/-! ### Address spaces and mailboxes -/

/-- Whether a row has an address space exactly if it may. -/
def spaceFits (p : ProcessInfo) : Bool :=
  match p.status with
  | .free => !p.hasSpace
  | .dying => !p.hasSpace || p.resident.isSome
  | .runnable | .running | .notRunnable => p.hasSpace

/-- What is wrong with address spaces. -/
def spaceViolations (s : Snapshot) : List Violation :=
  (s.processes.filter fun p => !spaceFits p).map fun p => .wrongSpace p.slot p.status p.hasSpace

/-- What is wrong with mailboxes. -/
def mailboxViolations (s : Snapshot) : List Violation :=
  (s.processes.filter fun p => p.mailbox.receiving && p.status ≠ .notRunnable).map
    fun p => .receivingAwake p.id p.status

/-- **Everything that is wrong with a table**, rule by rule. -/
def violations (s : Snapshot) : List Violation :=
  s.freeListViolations ++ s.identityViolations ++ s.residencyViolations ++ s.spaceViolations ++
  s.mailboxViolations

end Snapshot

end Exokernel
