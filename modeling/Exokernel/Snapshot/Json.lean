/-
Snapshots as JSON.

* `Snapshot.toJson`: the tables as one value, with numbers for identities, addresses and
  permissions, names for statuses and `null` for what is absent;
* `Snapshot.ofJson?`: the tables that a value writes. Every field is required, but those that may
  be `null` may also be left out.
-/
import Exokernel.Json.Fields
import Exokernel.Snapshot

namespace Exokernel

namespace Mailbox

/-- A mailbox as a JSON value. -/
def toJson (m : Mailbox) : Json :=
  .record [
    ("receiving", .bool m.receiving),
    ("dst_va", .orNull (fun va => .word va.word) m.dstVa),
    ("from", .word m.sender.raw),
    ("value", .word m.value),
    ("perm", .word m.perm.bits)]

/-- The mailbox that a JSON value writes. -/
def ofJson? (v : Json) : Option Mailbox := do
  let fs ← v.fields? ["receiving", "dst_va", "from", "value", "perm"]
  return {
    receiving := ← fs.required "receiving" Json.bool?
    dstVa := (← fs.optional "dst_va" Json.word?).map VirtAddr.mk
    sender := ⟨← fs.required "from" Json.word?⟩
    value := ← fs.required "value" Json.word?
    perm := ⟨← fs.required "perm" Json.word?⟩ }

end Mailbox

/-- The status that a JSON value names. -/
def ProcessStatus.ofJson? (v : Json) : Option ProcessStatus :=
  v.choice? (ProcessStatus.all.map fun s => (s.name, s))

namespace ProcessInfo

/-- A row of the process table as a JSON value. -/
def toJson (p : ProcessInfo) : Json :=
  .record [
    ("slot", .nat p.slot),
    ("id", .word p.id.raw),
    ("parent", .word p.parent.raw),
    ("status", .text p.status.name),
    ("has_space", .bool p.hasSpace),
    ("resident", .orNull .nat p.resident),
    ("pgfault_upcall", .orNull (fun va => .word va.word) p.faultHandler),
    ("mailbox", p.mailbox.toJson),
    ("runs", .word p.runs)]

/-- The row that a JSON value writes. -/
def ofJson? (v : Json) : Option ProcessInfo := do
  let fs ← v.fields? ["slot", "id", "parent", "status", "has_space", "resident", "pgfault_upcall",
    "mailbox", "runs"]
  return {
    slot := ← fs.required "slot" Json.count?
    id := ⟨← fs.required "id" Json.word?⟩
    parent := ⟨← fs.required "parent" Json.word?⟩
    status := ← fs.required "status" ProcessStatus.ofJson?
    hasSpace := ← fs.required "has_space" Json.bool?
    resident := ← fs.optional "resident" Json.count?
    faultHandler := (← fs.optional "pgfault_upcall" Json.word?).map VirtAddr.mk
    mailbox := ← fs.required "mailbox" Mailbox.ofJson?
    runs := ← fs.required "runs" Json.word? }

end ProcessInfo

namespace CpuInfo

/-- A processor as a JSON value. -/
def toJson (c : CpuInfo) : Json :=
  .record [
    ("cpu", .nat c.cpu),
    ("booted", .bool c.booted),
    ("current", .orNull (fun id => .word id.raw) c.current),
    ("traps", .nat c.traps)]

/-- The processor that a JSON value writes. -/
def ofJson? (v : Json) : Option CpuInfo := do
  let fs ← v.fields? ["cpu", "booted", "current", "traps"]
  return {
    cpu := ← fs.required "cpu" Json.count?
    booted := ← fs.required "booted" Json.bool?
    current := (← fs.optional "current" Json.word?).map ProcessId.mk
    traps := ← fs.required "traps" Json.count? }

end CpuInfo

namespace Snapshot

/-- The tables as a JSON value. -/
def toJson (s : Snapshot) : Json :=
  .record [
    ("processes", .arr (s.processes.map (·.toJson))),
    ("cpus", .arr (s.cpus.map (·.toJson))),
    ("free_slots", .arr (s.freeSlots.map .nat)),
    ("cursor", .nat s.cursor)]

/-- The tables that a JSON value writes. -/
def ofJson? (v : Json) : Option Snapshot := do
  let fs ← v.fields? ["processes", "cpus", "free_slots", "cursor"]
  return {
    processes := ← fs.required "processes" (Json.list? ProcessInfo.ofJson?)
    cpus := ← fs.required "cpus" (Json.list? CpuInfo.ofJson?)
    freeSlots := ← fs.required "free_slots" (Json.list? Json.count?)
    cursor := ← fs.required "cursor" Json.count? }

end Snapshot

end Exokernel
