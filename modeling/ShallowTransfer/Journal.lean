/-!
The journal: what a stage reports about its work, as a list of records in the order of the work.
-/

namespace ShallowTransfer

/-- How important a record is. -/
inductive Level where
  | info
  | warn
  | debug
  | error
deriving Repr, DecidableEq

/-- The name of a level. -/
def Level.name : Level → String
  | .info => "INFO"
  | .warn => "WARN"
  | .debug => "DEBUG"
  | .error => "ERROR"

/-- One record of a journal. -/
structure Record where
  level : Level
  message : String
deriving Repr, DecidableEq

/-- The record as a line. -/
def Record.line (r : Record) : String :=
  r.level.name ++ " " ++ r.message

/-- The records of a piece of work in their order. -/
abbrev Journal := List Record

end ShallowTransfer
