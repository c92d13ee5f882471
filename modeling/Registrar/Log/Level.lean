/-!
# Severity

The five levels of a log, from the finest to the gravest.
-/

namespace Registrar

/-- How grave a log record is. -/
inductive Level where
  | trace
  | debug
  | info
  | warn
  | error
  deriving DecidableEq, Repr

namespace Level

/-- Every level, the finest first. -/
def all : List Level :=
  [.trace, .debug, .info, .warn, .error]

/-- The name of a level in settings and filters. -/
def name : Level → String
  | .trace => "trace"
  | .debug => "debug"
  | .info => "info"
  | .warn => "warn"
  | .error => "error"

/-- The name of a level in log lines. -/
def label : Level → String
  | .trace => "TRACE"
  | .debug => "DEBUG"
  | .info => "INFO"
  | .warn => "WARN"
  | .error => "ERROR"

/-- How much detail a log has that goes down to the level. -/
def detail : Level → Nat
  | .trace => 5
  | .debug => 4
  | .info => 3
  | .warn => 2
  | .error => 1

end Level

end Registrar
