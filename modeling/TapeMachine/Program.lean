import TapeMachine.Instruction
import TapeMachine.Text.Blank
import TapeMachine.Text.Quoted

/-!
# Programs

A program is a list of instructions, and `Program.parse` reads one from a source text.  Blanks are skipped, every
other character is the symbol of an instruction, and the loop ends pair up.  Of several faults the first invalid
symbol is reported, whatever the loop ends; then a text without symbols; then the first close without an open; and
last the number of opens without a close.  Positions count the characters of the source text, blanks included.
-/

namespace TapeMachine

structure Program where
  instructions : Array Instruction
deriving DecidableEq, Repr

/-- Why a source text is no program. -/
inductive SourceError
  | noInstructions
  | invalidSymbol (position : Nat) (symbol : Char)
  | unmatchedClose (position : Nat)
  | unmatchedOpen (count : Nat)
deriving DecidableEq, Repr

namespace SourceError

def message : SourceError → String
  | noInstructions => "source must not be empty"
  | invalidSymbol position symbol =>
    "source contains invalid symbol " ++ Text.quoted symbol ++ " at position " ++ toString position
  | unmatchedClose position => "unmatched loop-close at position " ++ toString position
  | unmatchedOpen count => toString count ++ " unmatched loop-open(s) in program"

end SourceError

namespace Program

def size (p : Program) : Nat := p.instructions.size

/-- One symbol per instruction and nothing else. -/
def text (p : Program) : String := String.ofList (p.instructions.toList.map Instruction.toChar)

/-- Neither a blank nor the symbol of an instruction. -/
def isForeign (c : Char) : Bool := !Text.isBlank c && (Instruction.ofChar? c).isNone

/-- The instructions of a text, each with the position of its symbol. -/
def placed (source : List (Char × Nat)) : List (Instruction × Nat) :=
  source.filterMap fun (c, position) => (Instruction.ofChar? c).map (·, position)

/-- The loop depth after some instructions, from the depth before them.  A close at depth zero ends the count with
its position. -/
def depthAfter (depth : Nat) : List (Instruction × Nat) → Except Nat Nat
  | [] => .ok depth
  | (.loopOpen, _) :: rest => depthAfter (depth + 1) rest
  | (.loopClose, position) :: rest =>
    match depth with
    | 0 => .error position
    | outer + 1 => depthAfter outer rest
  | _ :: rest => depthAfter depth rest

def parse (source : String) : Except SourceError Program :=
  let chars := source.toList.zipIdx
  match chars.find? fun (c, _) => isForeign c with
  | some (symbol, position) => .error (.invalidSymbol position symbol)
  | none =>
    match placed chars with
    | [] => .error .noInstructions
    | symbols =>
      match depthAfter 0 symbols with
      | .error position => .error (.unmatchedClose position)
      | .ok 0 => .ok ⟨(symbols.map Prod.fst).toArray⟩
      | .ok count => .error (.unmatchedOpen count)

end Program

end TapeMachine
