import TapeMachine.Program.Balanced
import TapeMachine.Stream.Pipe
import TapeMachine.Tape

/-!
# What structured code does, and what it costs

`Execution` relates structured code to what it makes of a tape and a pipe and to the number of instructions that are
dispatched on the way.  A plain instruction costs one.  A loop costs one if it is met on a zero cell; otherwise it
costs one and, for each pass, the cost of its body and one more.
-/

namespace TapeMachine

/-- A tape and the streams beside it. -/
structure Workplace where
  tape : Tape
  pipe : Pipe
deriving DecidableEq, Repr

namespace Workplace

/-- What a plain instruction does. -/
def perform (w : Workplace) : Instruction → Workplace
  | .advance => { w with tape := w.tape.advance }
  | .retreat => { w with tape := w.tape.retreat }
  | .increment => { w with tape := w.tape.increment }
  | .decrement => { w with tape := w.tape.decrement }
  | .output => { w with pipe := w.pipe.write w.tape.cell }
  | .input =>
    match w.pipe.read with
    | (none, pipe) => { w with pipe }
    | (some byte, pipe) => ⟨w.tape.write byte, pipe⟩
  | .loopOpen => w
  | .loopClose => w

end Workplace

/-- Code to be executed once, or the body of a loop to be executed in passes until the cell is zero after one. -/
inductive Work
  | code (c : Code)
  | passes (body : Code)

inductive Execution : Work → Workplace → Workplace → Nat → Prop
  | done {w : Workplace} : Execution (.code .done) w w 0
  | plain {i : Instruction} {h : i.isPlain = true} {rest : Code} {w w' : Workplace} {k : Nat} :
    Execution (.code rest) (w.perform i) w' k → Execution (.code (.plain i h rest)) w w' (1 + k)
  | skip {body rest : Code} {w w' : Workplace} {k : Nat} :
    w.tape.cell = 0 → Execution (.code rest) w w' k → Execution (.code (.loop body rest)) w w' (1 + k)
  | enter {body rest : Code} {w w' w'' : Workplace} {j k : Nat} :
    w.tape.cell ≠ 0 → Execution (.passes body) w w' j → Execution (.code rest) w' w'' k →
      Execution (.code (.loop body rest)) w w'' (1 + j + k)
  | lastPass {body : Code} {w w' : Workplace} {j : Nat} :
    Execution (.code body) w w' j → w'.tape.cell = 0 → Execution (.passes body) w w' (j + 1)
  | nextPass {body : Code} {w w' w'' : Workplace} {j k : Nat} :
    Execution (.code body) w w' j → w'.tape.cell ≠ 0 → Execution (.passes body) w' w'' k →
      Execution (.passes body) w w'' (j + 1 + k)

end TapeMachine
