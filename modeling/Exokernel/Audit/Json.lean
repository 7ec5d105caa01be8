/-
Events of the audit log as JSON.

* `AuditEvent.toJson`: an event. What it tells is an object with one member, which is named for the
  kind of event and holds its details.
-/
import Exokernel.Audit
import Exokernel.Json

namespace Exokernel

/-- The cause of a process's end as a JSON value. -/
def TerminationCause.toJson : TerminationCause → Json
  | .pageFault va eip => .record [("PageFault", .record [("va", .word va), ("eip", .word eip)])]
  | .unhandledTrap trapno eip =>
    .record [("UnhandledTrap", .record [("trapno", .word trapno), ("eip", .word eip)])]
  | .badUserBuffer va => .record [("BadUserBuffer", .record [("va", .word va)])]

/-- What an event tells, as a JSON value. -/
def EventKind.toJson : EventKind → Json
  | .request number args =>
    .record [("Request", .record [("syscall_num", .word number), ("args", .arr (args.map .word))])]
  | .response answered result =>
    .record [("Response", .record [
      ("request_id", .nat answered), ("result", .orNull (fun r => .whole r.toInt) result)])]
  | .terminated cause => .record [("Terminated", .record [("cause", cause.toJson)])]

/-- An event as a JSON value. -/
def AuditEvent.toJson (e : AuditEvent) : Json :=
  .record [
    ("id", .nat e.id),
    ("process", .word e.process),
    ("timestamp", .word e.timestamp),
    ("event_type", e.kind.toJson)]

end Exokernel
