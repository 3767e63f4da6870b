/-!
# Progress reports

While it works, the library notes what it does.  A note is part of a result; showing it is left to
the caller.
-/

namespace NocRouting

/-- How much detail a note carries. -/
inductive LogLevel where
  /-- For those who look for a defect. -/
  | debug
  /-- For those who follow the progress. -/
  | info
  deriving DecidableEq, Repr

def LogLevel.name : LogLevel → String
  | .debug => "DEBUG"
  | .info => "INFO"

structure LogEntry where
  level : LogLevel
  message : String
  deriving DecidableEq

end NocRouting
