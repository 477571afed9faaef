/-!
# Log entries

An entry has a level, the spans it was made in, a message and named values. Values are kept in the
form in which a log line shows them.
-/
namespace BuildGate

inductive LogLevel where
  | trace
  | debug
  | info
  | warn
  | error
  deriving Repr, DecidableEq

namespace LogLevel

/-- How much a level matters: `error` the most. -/
def rank : LogLevel → Nat
  | trace => 0
  | debug => 1
  | info => 2
  | warn => 3
  | error => 4

def name : LogLevel → String
  | trace => "trace"
  | debug => "debug"
  | info => "info"
  | warn => "warn"
  | error => "error"

end LogLevel

/-- The module that an entry or a span comes from. -/
inductive LogSource where
  | startup
  | command (file : String)
  | configuration
  | fileSets
  | pipeline
  | rules
  | styleCheck
  | tools
  deriving Repr, DecidableEq

/-- The name by which a filter selects a source. -/
def LogSource.target : LogSource → String
  | startup => "stylegate"
  | command file => "stylegate::commands::" ++ file
  | configuration => "stylegate_core::config"
  | fileSets => "stylegate_core::files"
  | pipeline => "stylegate_core::pipeline"
  | rules => "stylegate_core::rules"
  | styleCheck => "stylegate_core::style_check"
  | tools => "stylegate_core::tools"

/-- A named value of an entry or a span. -/
abbrev LogField := String × String

/-- A stretch of work that entries belong to. -/
structure LogSpan where
  source : LogSource
  name : String
  fields : List LogField := []
  deriving Repr, DecidableEq

structure LogEntry where
  level : LogLevel
  source : LogSource
  /-- The spans it belongs to, the outermost first. -/
  spans : List LogSpan
  message : String
  fields : List LogField
  deriving Repr, DecidableEq

end BuildGate
