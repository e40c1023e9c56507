/-!
# Instructions

The eight instructions and their symbols.  `ofChar?` reads exactly the symbols that `toChar` writes.
-/

namespace TapeMachine

/-- Moves of the cursor, changes of the cell under it, one byte of output or input, and the two ends of a loop. -/
inductive Instruction
  | advance
  | retreat
  | increment
  | decrement
  | output
  | input
  | loopOpen
  | loopClose
deriving DecidableEq, Repr

namespace Instruction

def toChar : Instruction → Char
  | advance => '>'
  | retreat => '<'
  | increment => '+'
  | decrement => '-'
  | output => '.'
  | input => ','
  | loopOpen => '['
  | loopClose => ']'

def ofChar? : Char → Option Instruction
  | '>' => some advance
  | '<' => some retreat
  | '+' => some increment
  | '-' => some decrement
  | '.' => some output
  | ',' => some input
  | '[' => some loopOpen
  | ']' => some loopClose
  | _ => none

@[simp] theorem ofChar?_toChar (i : Instruction) : ofChar? i.toChar = some i := by
  cases i <;> rfl

theorem ofChar?_eq_some_iff {c : Char} {i : Instruction} : ofChar? c = some i ↔ c = i.toChar := by
  constructor
  · intro h
    unfold ofChar? at h
    split at h <;> simp_all <;> subst h <;> rfl
  · rintro rfl
    exact ofChar?_toChar i

end Instruction

end TapeMachine
