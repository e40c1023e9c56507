import TapeMachine.Machine
import TapeMachine.Source.Load

/-!
# Failures

Everything that can keep a source file from being run to an end.
-/

namespace TapeMachine

inductive Failure
  | source (error : SourceError)
  | load (error : LoadError)
  | run (error : RunError)
deriving DecidableEq, Repr

namespace Failure

def message : Failure → String
  | source error => error.message
  | load error => error.message
  | run error => error.message

/-- The call on a stream or a file that failed, if that is behind it. -/
def cause? : Failure → Option IoError
  | load (.unreadable _ cause) => some cause
  | run (.io cause) => some cause
  | _ => none

end Failure

end TapeMachine
