/-
# The server's log

An entry has a severity or none.  With one, a line names it and the source; without, the message
stands alone behind the time.
-/

import Loadable.Calendar

namespace Loadable
namespace Log

/-- Severities, the gravest first. -/
inductive Level where
  | critical
  | error
  | warning
  | note
  | debug
  deriving DecidableEq, Repr

namespace Level

def name : Level → String
  | critical => "Critical"
  | error => "Error"
  | warning => "Warning"
  | note => "Note"
  | debug => "Debug"

/-- Place in the order of severities. -/
def rank : Level → Nat
  | critical => 0
  | error => 1
  | warning => 2
  | note => 3
  | debug => 4

/-- The order of severities. -/
def compare (a b : Level) : Ordering := Ord.compare a.rank b.rank

/-- The level in a line. -/
def text (l : Level) : String := "[" ++ l.name ++ "]"

end Level

/-- One message to the log. -/
structure Entry where
  level : Option Level
  message : String
  deriving DecidableEq, Repr

/-- The entry behind the time. -/
def Entry.text (e : Entry) : String :=
  match e.level with
  | some level => level.text ++ " UDF: " ++ e.message
  | none => e.message

/-- The entry as it is read back from the log: an empty line at the end is lost. -/
def Entry.readBack (e : Entry) : String :=
  let cs := e.text.toList
  String.ofList (if cs.getLast? = some '\n' then cs.dropLast else cs)

/-- The line of an entry. -/
def Entry.line (e : Entry) (moment : Moment) : String := moment.stamp ++ " " ++ e.text

end Log
end Loadable
