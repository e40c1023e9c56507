import TapeMachine.Text.Numeral

/-!
# Counts on the command line

A count is a numeral whose value is not zero.
-/

namespace TapeMachine.Command

/-- Why a text is no count. -/
inductive CountError
  | zero
  | malformed (text : String) (cause : Text.NumeralError)
deriving DecidableEq, Repr

namespace CountError

/-- The message about a count of a named thing. -/
def message (what : String) : CountError → String
  | zero => "The " ++ what ++ " should be more than zero"
  | malformed text cause => "Invalid " ++ what ++ " '" ++ text ++ "': " ++ cause.message

end CountError

def readCount (text : String) : Except CountError Nat :=
  match Text.Numeral.read text with
  | .error cause => .error (.malformed text cause)
  | .ok 0 => .error .zero
  | .ok n => .ok n

end TapeMachine.Command
