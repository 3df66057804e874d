import SheetQuery.Cell.Display
import SheetQuery.Text.Case

/-!
# Log levels

The level from which on messages are logged, and the layout of a logged line. A level may be named
in any case; two levels have a second name.
-/

namespace SheetQuery

/-- The log levels, from the least to the most severe. -/
inductive LogLevel where
  | notset | debug | info | warning | error | critical
deriving DecidableEq, Repr

namespace LogLevel

def name : LogLevel → String
  | notset => "NOTSET"
  | debug => "DEBUG"
  | info => "INFO"
  | warning => "WARNING"
  | error => "ERROR"
  | critical => "CRITICAL"

/-- The names of the levels, second ones included. -/
def names : List (String × LogLevel) := [
  ("CRITICAL", critical), ("FATAL", critical), ("ERROR", error), ("WARN", warning),
  ("WARNING", warning), ("INFO", info), ("DEBUG", debug), ("NOTSET", notset)]

/-- The layout of a logged line. -/
def lineLayout : String := "%(asctime)s %(levelname)s %(name)s %(message)s"

/-- The level of chatty libraries. -/
def ofLibraries : LogLevel := warning

/-- The level of a name, or what is said of a name that no level has. -/
def ofName (label : String) : Except String LogLevel :=
  let label := String.ofList (Text.upper label.toList)
  match names.lookup label with
  | some level => .ok level
  | none => .error ("Unknown level: " ++ String.ofList (displayText label))

/-- The first of some names that is there and not empty. -/
def firstGiven (default : String) (given : List (Option String)) : String :=
  (given.findSome? fun label => label.filter (· ≠ "")).getD default

/-- The level that a caller asks for or, failing that, the environment. -/
def choose (asked configured : Option String) : Except String LogLevel :=
  ofName (firstGiven "INFO" [asked, configured])

end LogLevel

end SheetQuery
