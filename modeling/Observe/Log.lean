namespace Observe

namespace Log

inductive Level where
  | error
  | warn
  | info
  | debug
  | trace
  deriving DecidableEq, Repr

namespace Level

def name : Level → String
  | error => "ERROR"
  | warn => "WARN"
  | info => "INFO"
  | debug => "DEBUG"
  | trace => "TRACE"

/-- A higher rank is told less often. -/
def rank : Level → Nat
  | error => 0
  | warn => 1
  | info => 2
  | debug => 3
  | trace => 4

end Level

structure Record where
  level : Level
  target : String
  text : String
  deriving DecidableEq, Repr

def Record.render (record : Record) : String :=
  "[" ++ record.level.name ++ " " ++ record.target ++ "] " ++ record.text

/-- The records that a run of this level shows. -/
def Record.shownAt (level : Level) (record : Record) : Bool := record.level.rank ≤ level.rank

end Log

end Observe
