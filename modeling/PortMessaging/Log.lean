/-!
# Log — structured log entries

What the library reports about its own work: a level, a message and named fields, in order of
emission.  Entries carry no time and no place; they are data, and an outer layer decides whether
and where to write them.
-/

namespace PortMessaging

/-- How serious a log entry is. -/
inductive LogLevel where
  | debug
  | info
  | warn
  | error
  deriving DecidableEq, Repr

namespace LogLevel

def text : LogLevel → String
  | debug => "DEBUG"
  | info => "INFO"
  | warn => "WARN"
  | error => "ERROR"

end LogLevel

/-- The value of a field of a log entry. -/
inductive LogValue where
  | text (value : String)
  | flag (value : Bool)
  | number (value : Int)
  deriving DecidableEq, Repr

structure LogEntry where
  level : LogLevel
  message : String
  fields : List (String × LogValue)
  deriving DecidableEq, Repr

end PortMessaging
