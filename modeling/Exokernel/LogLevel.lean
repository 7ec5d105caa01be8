/-
What the kernel tells on the console.

* `LogLevel`: how severe a message is; messages beyond a chosen level are dropped;
* `LogLevel.line`: a message as it is printed.
-/

namespace Exokernel

/-- How severe a message is, the most severe first. -/
inductive LogLevel where
  | fatal
  | error
  | warn
  | info
  | debug
  | trace
  deriving DecidableEq

namespace LogLevel

/-- The place of a level among the others; the most severe comes first. -/
def rank : LogLevel → Nat
  | .fatal => 0
  | .error => 1
  | .warn => 2
  | .info => 3
  | .debug => 4
  | .trace => 5

/-- The name of a level in front of a message, always five characters long. -/
def label : LogLevel → String
  | .fatal => "FATAL"
  | .error => "ERROR"
  | .warn => "WARN "
  | .info => "INFO "
  | .debug => "DEBUG"
  | .trace => "TRACE"

/-- The name of a level in a configuration. -/
def name : LogLevel → String
  | .fatal => "Fatal"
  | .error => "Error"
  | .warn => "Warn"
  | .info => "Info"
  | .debug => "Debug"
  | .trace => "Trace"

/-- Every level, the most severe first. -/
def all : List LogLevel := [.fatal, .error, .warn, .info, .debug, .trace]

/-- Whether messages of this level are printed where `limit` is the last level that is. -/
def enabled (level limit : LogLevel) : Bool := level.rank ≤ limit.rank

/-- A message as it is printed. -/
def line (level : LogLevel) (message : String) : String :=
  "[" ++ level.label ++ "] " ++ message ++ "\n"

end LogLevel

end Exokernel
