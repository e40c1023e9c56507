/-!
# Log levels

From the most to the least urgent.  A line is shown if its level is within the greatest level wanted.
-/

namespace TapeMachine.Log

inductive Level
  | error
  | warn
  | info
  | debug
  | trace
deriving DecidableEq, Repr

namespace Level

def name : Level → String
  | error => "ERROR"
  | warn => "WARN"
  | info => "INFO"
  | debug => "DEBUG"
  | trace => "TRACE"

/-- Grows as the urgency falls. -/
def rank : Level → Nat
  | error => 1
  | warn => 2
  | info => 3
  | debug => 4
  | trace => 5

/-- The greatest level wanted by someone who asked for more so many times, or for nothing at all. -/
def ofVerbosity (verbosity : Nat) (quiet : Bool) : Option Level :=
  if quiet then none
  else
    match verbosity with
    | 0 => some warn
    | 1 => some info
    | 2 => some debug
    | _ => some trace

end Level

end TapeMachine.Log
