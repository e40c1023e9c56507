import TapeMachine.Log.Directive.Form

/-!
# Log filters

A filter is a list of directives, written between commas.  Of those that are for a line, the one that says so most
closely decides whether it is shown, and of equally close ones the last; a line that no directive is for is not shown.
-/

namespace TapeMachine.Log

abbrev Filter := List Directive

namespace Filter

/-- Reads the directives between the commas.  All of them have to be right, but there may be nothing between two. -/
def parse? (text : String) : Option Filter :=
  ((text.splitOn ",").filter fun piece => !piece.isEmpty).mapM Directive.parse?

/-- The directive that decides about a line. -/
def deciding? (filter : Filter) (line : Line) : Option Directive :=
  (filter.filter fun d => d.isFor line).foldl
    (fun best d => if best.any fun b => (Directive.closeness d b).isLT then best else some d) none

def shows (filter : Filter) (line : Line) : Bool :=
  ((filter.deciding? line).bind Directive.level).any fun level => line.level.rank ≤ level.rank

end Filter

end TapeMachine.Log
