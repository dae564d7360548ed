/-!
# The log

What operations write to the log: entries of a level and a text.
-/

namespace AmqpBus

/-- How grave an entry of the log is. -/
inductive Level where
  | debug
  | warning
  | error
  deriving DecidableEq

/-- An entry of the log. -/
structure LogEntry where
  level : Level
  text : String
  deriving DecidableEq

/-- An entry as a line. -/
def LogEntry.line (entry : LogEntry) : String :=
  match entry.level with
  | .debug => "DEBUG " ++ entry.text
  | .warning => "WARN " ++ entry.text
  | .error => "ERROR " ++ entry.text

end AmqpBus
