import TapeMachine.Log.Line
import TapeMachine.Machine.Run

/-!
# The journal of a run

The lines that are logged on the way from a source file to the end of its run.
-/

namespace TapeMachine

def Halt.name : Halt → String
  | .finished => "Finished"
  | .stepLimit => "StepLimit"
  | .cancelled => "Cancelled"

namespace Log.Line

def loaded (path : String) (bytes : Nat) : Line :=
  ⟨.debug, "bftape::config", "source loaded", [("path", path), ("bytes", toString bytes)]⟩

def accepted (program : Program) : Line :=
  ⟨.debug, "bftape::program", "program accepted", [("instructions", toString program.size)]⟩

def rejected (error : SourceError) : Line :=
  ⟨.debug, "bftape::program", "program rejected", [("err", error.message)]⟩

def running (path : String) (program : Program) : Line :=
  ⟨.info, "bftape", "running", [("path", path), ("instructions", toString program.size)]⟩

def jump (source target : Nat) : Line :=
  ⟨.trace, "bftape::executor", "jump", [("from", toString source), ("to", toString target)]⟩

def halted (outcome : Outcome) (tape : Tape) : Line :=
  ⟨.debug, "bftape::executor", "run halted",
    [("halt", outcome.halt.name), ("steps", toString outcome.steps), ("tape_len", toString tape.size)]⟩

def done (outcome : Outcome) (tape : Tape) : Line :=
  ⟨.info, "bftape", "done", [("steps", toString outcome.steps), ("tape_len", toString tape.size)]⟩

def unfinished (halt : Halt) : Line := ⟨.warn, "bftape", "program did not finish", [("halt", halt.name)]⟩

end Log.Line

end TapeMachine
