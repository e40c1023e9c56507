import TapeMachine.Log.Line

/-!
# Log directives

A directive gives the greatest level that is shown of certain lines: of all lines, or of those whose target begins in
some way, and of these perhaps those alone that have some key.  It may also ask for a section of the program that the
line lies in, by name or by a value that the section has under a key; no section has a name or a value here, so such a
directive is for no line.
-/

namespace TapeMachine.Log

/-- A key, and the value that a section has under it, if one is wanted. -/
structure Demand where
  key : String
  value : Option String := none
deriving DecidableEq, Repr

structure Directive where
  /-- What the line's target begins with. -/
  target : Option String := none
  /-- The section around the line. -/
  span : Option String := none
  demand : Option Demand := none
  /-- The greatest level shown, if any is. -/
  level : Option Level := some .trace
deriving DecidableEq, Repr

def Demand.isMet (demand : Demand) (line : Line) : Bool := demand.value.isNone && line.hasKey demand.key

namespace Directive

def isFor (d : Directive) (line : Line) : Bool :=
  d.span.isNone && (d.target.all fun target => target.isPrefixOf line.target) &&
    d.demand.all fun demand => demand.isMet line

/-- Compares how closely two directives say which lines they are for: first by the length of the target, and then by
the key. -/
def closeness : Directive → Directive → Ordering :=
  compareLex (compareOn fun d => d.target.map String.utf8ByteSize) (compareOn fun d => d.demand.map Demand.key)

end Directive

end TapeMachine.Log
