import TapeMachine.Instruction

/-!
# Balanced words

The grammar of programs: a word is empty, or a plain instruction and a word, or a word between an open and a close
and another word.  The same words come from structured code, in which a loop holds its body, by writing it down from
left to right (`balanced_iff_exists_flatten`).
-/

namespace TapeMachine

/-- No loop end. -/
def Instruction.isPlain : Instruction → Bool
  | .loopOpen => false
  | .loopClose => false
  | _ => true

theorem Instruction.isPlain_iff {i : Instruction} : i.isPlain = true ↔ i ≠ .loopOpen ∧ i ≠ .loopClose := by
  cases i <;> decide

inductive Balanced : List Instruction → Prop
  | nil : Balanced []
  | plain {i : Instruction} {rest : List Instruction} :
    i.isPlain = true → Balanced rest → Balanced (i :: rest)
  | loop {body rest : List Instruction} :
    Balanced body → Balanced rest → Balanced (.loopOpen :: (body ++ .loopClose :: rest))

theorem Balanced.append {v w : List Instruction} (hv : Balanced v) (hw : Balanced w) : Balanced (v ++ w) := by
  induction hv with
  | nil => exact hw
  | plain hi _ ih => exact .plain hi ih
  | loop hbody _ _ ih =>
    have := Balanced.loop hbody ih
    simpa using this

/-! ### Structured code -/

/-- A sequence of plain instructions and loops. -/
inductive Code
  | done
  | plain (i : Instruction) (h : i.isPlain = true) (rest : Code)
  | loop (body rest : Code)

namespace Code

def flatten : Code → List Instruction
  | done => []
  | plain i _ rest => i :: rest.flatten
  | loop body rest => .loopOpen :: (body.flatten ++ .loopClose :: rest.flatten)

theorem balanced_flatten (c : Code) : Balanced c.flatten := by
  induction c with
  | done => exact .nil
  | plain i h rest ih => exact .plain h ih
  | loop body rest ihb ihr => exact .loop ihb ihr

end Code

theorem balanced_iff_exists_flatten {w : List Instruction} : Balanced w ↔ ∃ c : Code, c.flatten = w := by
  constructor
  · intro h
    induction h with
    | nil => exact ⟨.done, rfl⟩
    | plain hi _ ih =>
      obtain ⟨rest, rfl⟩ := ih
      exact ⟨.plain _ hi rest, rfl⟩
    | loop _ _ ihb ihr =>
      obtain ⟨body, rfl⟩ := ihb
      obtain ⟨rest, rfl⟩ := ihr
      exact ⟨.loop body rest, rfl⟩
  · rintro ⟨c, rfl⟩
    exact c.balanced_flatten

end TapeMachine
