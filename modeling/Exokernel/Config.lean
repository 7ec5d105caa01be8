/-
The configuration of a kernel.

* `Config`: how large its tables are and what it tells;
* `Config.check`: refuses what no kernel can be made of;
* `Config.ofJson?`, `Config.toJson`: a configuration as JSON. Fields that are left out stand for
  their defaults.
-/
import Exokernel.Audit
import Exokernel.Json.Fields
import Exokernel.LogLevel
import Exokernel.Process.Id

namespace Exokernel

/-- The configuration of a kernel. -/
structure Config where
  /-- How many slots the process table has, the idle one included. -/
  maxProcesses : Nat := 1024
  /-- How many processors there are. -/
  cpus : Nat := 1
  /-- How often a processor without work looks at the idle process before it halts. -/
  idlePollLimit : UInt32 := 1024
  /-- The last level of messages that is printed. -/
  logLevel : LogLevel := .info
  /-- How many events the audit log keeps. -/
  auditCapacity : Nat := AuditLog.defaultCapacity
  deriving DecidableEq

/-- Why no kernel can be made of a configuration. -/
inductive ConfigError where
  /-- There is no slot besides the idle one. -/
  | tooFewProcesses (n : Nat)
  /-- There are more slots than an identity can name. -/
  | tooManyProcesses (n : Nat)
  /-- There is no processor. -/
  | noCpus
  deriving DecidableEq

/-- The error in words. -/
def ConfigError.message : ConfigError → String
  | .tooFewProcesses n => s!"max_processes {n} is below 2"
  | .tooManyProcesses n => s!"max_processes {n} exceeds {ProcessId.slotCount}"
  | .noCpus => "cpus must be at least 1"

namespace Config

/-- Refuses a configuration of which no kernel can be made. -/
def check (c : Config) : Except ConfigError Unit :=
  if c.maxProcesses < 2 then .error (.tooFewProcesses c.maxProcesses)
  else if ProcessId.slotCount < c.maxProcesses then .error (.tooManyProcesses c.maxProcesses)
  else if c.cpus = 0 then .error .noCpus
  else .ok ()

/-- The names of the fields, in their order. -/
def fieldNames : List String :=
  ["max_processes", "cpus", "idle_poll_limit", "log_level", "syslog_capacity"]

/-- The level that a JSON value names. -/
def logLevel? (v : Json) : Option LogLevel :=
  v.choice? (LogLevel.all.map fun l => (l.name, l))

/-- The configuration that a JSON value writes. -/
def ofJson? (v : Json) : Option Config := do
  let fs ← v.fields? fieldNames
  let standard : Config := {}
  return {
    maxProcesses := ← fs.default "max_processes" Json.count? standard.maxProcesses
    cpus := ← fs.default "cpus" Json.count? standard.cpus
    idlePollLimit := ← fs.default "idle_poll_limit" Json.word? standard.idlePollLimit
    logLevel := ← fs.default "log_level" logLevel? standard.logLevel
    auditCapacity := ← fs.default "syslog_capacity" Json.count? standard.auditCapacity }

/-- The configuration as a JSON value. -/
def toJson (c : Config) : Json :=
  .record [
    ("max_processes", .nat c.maxProcesses),
    ("cpus", .nat c.cpus),
    ("idle_poll_limit", .word c.idlePollLimit),
    ("log_level", .text c.logLevel.name),
    ("syslog_capacity", .nat c.auditCapacity)]

end Config

end Exokernel
