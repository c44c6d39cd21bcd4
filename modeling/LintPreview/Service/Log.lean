import LintPreview.Json.Value

/-!
Records of a log.

* `LogLevel`, `LogRecord`: what is logged.
* `LogRecord.clash?`: a key of the context that is a name of the record itself, which makes the record impossible.
-/

namespace LintPreview

/-- How grave a record is. -/
inductive LogLevel where
  | debug
  | info
  | warning
  | error
  | critical
deriving DecidableEq, Repr

namespace LogLevel

/-- The rank of a level. -/
def rank : LogLevel → Nat
  | debug => 10
  | info => 20
  | warning => 30
  | error => 40
  | critical => 50

/-- The name of a level. -/
def name : LogLevel → Text
  | debug => "DEBUG"
  | info => "INFO"
  | warning => "WARNING"
  | error => "ERROR"
  | critical => "CRITICAL"

/-- All levels. -/
def all : List LogLevel := [debug, info, warning, error, critical]

/-- The level with a name. -/
def ofName? (name : Text) : Option LogLevel := all.find? (·.name = name)

end LogLevel

/-- A record: its message, its context, and whether it shows where a failure came from. -/
structure LogRecord where
  level : LogLevel
  message : Text
  context : List (Text × Json)
  hasTrace : Bool := false
deriving Repr

namespace LogRecord

/-- The names of a record itself, which no context may use. -/
def reservedKeys : List Text := [
  "name", "msg", "args", "levelname", "levelno", "pathname", "filename", "module", "exc_info", "exc_text",
  "stack_info", "lineno", "funcName", "created", "msecs", "relativeCreated", "thread", "threadName",
  "processName", "process", "message", "asctime"]

/-- The first key of the context that is reserved. -/
def clash? (r : LogRecord) : Option Text := (r.context.map (·.1)).find? reservedKeys.contains

end LogRecord

end LintPreview
