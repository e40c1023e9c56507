import TapeMachine.Log.Level

/-!
# Log lines

A line has a level, the part of the program that it comes from, a message, and values that belong to the message,
each under a key.
-/

namespace TapeMachine.Log

structure Line where
  level : Level
  target : String
  message : String
  values : List (String × String) := []
deriving DecidableEq, Repr

namespace Line

/-- The message counts as a value, too, under a key of its own. -/
def hasKey (line : Line) (key : String) : Bool := key == "message" || line.values.any fun (k, _) => k == key

/-- The line as it is printed, behind the time. -/
def render (line : Line) : String :=
  line.level.name ++ " " ++ line.target ++ ": " ++
    " ".intercalate (line.message :: line.values.map fun (key, value) => key ++ "=" ++ value)

end Line

end TapeMachine.Log
