import TapeMachine.Program
import TapeMachine.Stream.Pipe
import TapeMachine.Tape.Strip

/-!
# A machine without a jump table

It works on a strip without ends and looks for the partner of a loop end at every jump, by going through the
instructions on its side of the loop end and keeping count of the loops it is inside of.
-/

namespace TapeMachine

/-- How many instructions come before the partner of a loop end.  Every `opening` met on the way takes the next
`closing` for itself; `opened` of them have not yet found theirs. -/
def distance (opening closing : Instruction) (opened : Nat) : List Instruction → Option Nat
  | [] => none
  | i :: rest =>
    if i = closing then
      match opened with
      | 0 => some 0
      | outer + 1 => (distance opening closing outer rest).map (· + 1)
    else if i = opening then (distance opening closing (opened + 1) rest).map (· + 1)
    else (distance opening closing opened rest).map (· + 1)

section Distance

variable {opening closing : Instruction} {opened : Nat} {rest : List Instruction}

theorem distance_closing_zero : distance opening closing 0 (closing :: rest) = some 0 := if_pos rfl

theorem distance_closing_succ : distance opening closing (opened + 1) (closing :: rest) =
    (distance opening closing opened rest).map (· + 1) := if_pos rfl

theorem distance_opening (hne : opening ≠ closing) : distance opening closing opened (opening :: rest) =
    (distance opening closing (opened + 1) rest).map (· + 1) := (if_neg hne).trans (if_pos rfl)

theorem distance_other {i : Instruction} (hopening : i ≠ opening) (hclosing : i ≠ closing) :
    distance opening closing opened (i :: rest) = (distance opening closing opened rest).map (· + 1) :=
  (if_neg hclosing).trans (if_neg hopening)

end Distance

structure Scanner where
  instructions : List Instruction
  strip : Strip := Strip.blank
  ip : Nat := 0
  steps : Nat := 0
  pipe : Pipe := {}

namespace Scanner

/-- Before the first instruction. -/
def start (instructions : List Instruction) (pipe : Pipe) : Scanner := { instructions, pipe }

def partnerAbove? (m : Scanner) : Option Nat :=
  (distance .loopOpen .loopClose 0 (m.instructions.drop (m.ip + 1))).map (m.ip + 1 + ·)

def partnerBelow? (m : Scanner) : Option Nat :=
  (distance .loopClose .loopOpen 0 (m.instructions.take m.ip).reverse).map (m.ip - 1 - ·)

/-- Goes on behind the loop end at an index. -/
def behind (m : Scanner) (target : Option Nat) : Option Scanner := target.map fun t => { m with ip := t + 1 }

/-- The machine after an instruction, unless that is a loop end that should jump and has no partner. -/
def perform (m : Scanner) : Instruction → Option Scanner
  | .advance => some { m with strip := m.strip.edit .advance, ip := m.ip + 1 }
  | .retreat => some { m with strip := m.strip.edit .retreat, ip := m.ip + 1 }
  | .increment => some { m with strip := m.strip.edit .increment, ip := m.ip + 1 }
  | .decrement => some { m with strip := m.strip.edit .decrement, ip := m.ip + 1 }
  | .output => some { m with pipe := m.pipe.write m.strip.here, ip := m.ip + 1 }
  | .input =>
    match m.pipe.read with
    | (none, pipe) => some { m with pipe, ip := m.ip + 1 }
    | (some byte, pipe) => some { m with strip := m.strip.edit (.write byte), pipe, ip := m.ip + 1 }
  | .loopOpen => if m.strip.here = 0 then m.behind m.partnerAbove? else some { m with ip := m.ip + 1 }
  | .loopClose => if m.strip.here = 0 then some { m with ip := m.ip + 1 } else m.behind m.partnerBelow?

/-- Performs one instruction, if there is one left. -/
def step (m : Scanner) : Option Scanner :=
  match m.instructions[m.ip]? with
  | none => none
  | some i => (m.perform i).map fun m => { m with steps := m.steps + 1 }

/-- Performs up to a number of instructions. -/
def run (m : Scanner) : (limit : Nat) → Scanner
  | 0 => m
  | limit + 1 =>
    match m.step with
    | none => m
    | some m => run m limit

def isFinished (m : Scanner) : Bool := m.instructions.length ≤ m.ip

end Scanner

end TapeMachine
