import TapeMachine.Counter
import TapeMachine.JumpTable
import TapeMachine.Program
import TapeMachine.Stream
import TapeMachine.Tape

/-!
# The machine

A program under execution: its jump table, the tape, the index of the next instruction and the number of
instructions dispatched, which a counter of 64 bits shows (`Machine.steps`).  `Machine.step` dispatches one
instruction.  An instruction that fails has been counted, but leaves the index and the tape as they were, so it is
dispatched again by the next step.
-/

namespace TapeMachine

/-- Why an instruction fails. -/
inductive RunError
  | io (cause : IoError)
  /-- The loop end at an index has no partner to jump to. -/
  | noPartner (ip : Nat)
deriving DecidableEq, Repr

namespace RunError

def message : RunError → String
  | io cause => "i/o error: " ++ cause.message
  | noPartner ip => "internal error: no jump target for bracket at instruction " ++ toString ip

end RunError

structure Machine where
  program : Program
  jumps : JumpTable
  tape : Tape
  /-- The index of the next instruction. -/
  ip : Nat
  /-- The number of instructions dispatched, which has no bound. -/
  dispatched : Nat
deriving DecidableEq, Repr

namespace Machine

variable {σ : Type} [Host σ]

/-- Before the first instruction of a program, on a given tape. -/
def startOn (tape : Tape) (program : Program) : Machine where
  program := program
  jumps := JumpTable.ofList program.instructions.toList
  tape := tape
  ip := 0
  dispatched := 0

def start (program : Program) : Machine := startOn Tape.fresh program

def isFinished (m : Machine) : Bool := m.program.size ≤ m.ip

/-- The step counter, which shows the number of instructions dispatched. -/
def steps (m : Machine) : Nat := Counter.wrap m.dispatched

/-- Where the loop end under the index leads if it jumps: behind its partner. -/
def jump (m : Machine) (s : σ) : Except RunError (Tape × Nat) × σ :=
  match m.jumps.partner? m.ip with
  | some target => (.ok (m.tape, target + 1), Host.jumped m.ip target s)
  | none => (.error (.noPartner m.ip), s)

/-- The tape and the index after an instruction.  What was written is flushed before a byte is read, so that a
question is seen before its answer is waited for; at the end of the input the cell keeps its value. -/
def perform (m : Machine) (s : σ) : Instruction → Except RunError (Tape × Nat) × σ
  | .advance => (.ok (m.tape.advance, m.ip + 1), s)
  | .retreat => (.ok (m.tape.retreat, m.ip + 1), s)
  | .increment => (.ok (m.tape.increment, m.ip + 1), s)
  | .decrement => (.ok (m.tape.decrement, m.ip + 1), s)
  | .output =>
    match Host.write m.tape.cell s with
    | (.ok (), s) => (.ok (m.tape, m.ip + 1), s)
    | (.error cause, s) => (.error (.io cause), s)
  | .input =>
    match Host.flush s with
    | (.error cause, s) => (.error (.io cause), s)
    | (.ok (), s) =>
      match Host.read s with
      | (.error cause, s) => (.error (.io cause), s)
      | (.ok none, s) => (.ok (m.tape, m.ip + 1), s)
      | (.ok (some byte), s) => (.ok (m.tape.write byte, m.ip + 1), s)
  | .loopOpen => if m.tape.cell = 0 then m.jump s else (.ok (m.tape, m.ip + 1), s)
  | .loopClose => if m.tape.cell = 0 then (.ok (m.tape, m.ip + 1), s) else m.jump s

/-- Dispatches one instruction.  The answer is `false`, and nothing is done, once the program has finished. -/
def step (m : Machine) (s : σ) : Except RunError Bool × Machine × σ :=
  match m.program.instructions[m.ip]? with
  | none => (.ok false, m, s)
  | some instruction =>
    match m.perform s instruction with
    | (.ok (tape, ip), s) => (.ok true, { m with tape, ip, dispatched := m.dispatched + 1 }, s)
    | (.error cause, s) => (.error cause, { m with dispatched := m.dispatched + 1 }, s)

/-! ### What a step keeps -/

@[simp] theorem program_step (m : Machine) (s : σ) : (m.step s).2.1.program = m.program := by
  unfold step
  split
  · rfl
  · split <;> rfl

@[simp] theorem jumps_step (m : Machine) (s : σ) : (m.step s).2.1.jumps = m.jumps := by
  unfold step
  split
  · rfl
  · split <;> rfl

theorem steps_le (m : Machine) : m.steps ≤ Counter.max := Counter.wrap_le _

theorem steps_of_le {m : Machine} (h : m.dispatched ≤ Counter.max) : m.steps = m.dispatched := Counter.wrap_of_le h

theorem steps_eq_wrap_add {m m' : Machine} {n : Nat} (h : m.dispatched = m'.dispatched + n) :
    m.steps = Counter.wrap (m'.steps + n) := by
  rw [steps, steps, h, Counter.wrap_wrap_add]

/-- As long as the one counter has not begun again, the other one has not either. -/
theorem steps_eq_add {m m' : Machine} {n : Nat} (h : m.dispatched = m'.dispatched + n)
    (hm : m.dispatched ≤ Counter.max) : m.steps = m'.steps + n := by
  have hm' : m'.dispatched ≤ Counter.max := Nat.le_trans (Nat.le_add_right _ n) (h ▸ hm)
  rw [steps_of_le hm, steps_of_le hm', h]

theorem isFinished_iff {m : Machine} : m.isFinished = true ↔ m.program.instructions.size ≤ m.ip :=
  decide_eq_true_iff

theorem step_of_isFinished {m : Machine} (h : m.isFinished = true) (s : σ) : m.step s = (.ok false, m, s) := by
  unfold step
  rw [Array.getElem?_eq_none (isFinished_iff.1 h)]

/-- Every instruction is counted, whether it fails or not. -/
theorem dispatched_step {m : Machine} (h : ¬ m.isFinished = true) (s : σ) :
    (m.step s).2.1.dispatched = m.dispatched + 1 := by
  have hlt : m.ip < m.program.instructions.size := Nat.lt_of_not_le fun hle => h (isFinished_iff.2 hle)
  unfold step
  rw [Array.getElem?_eq_getElem hlt]
  dsimp only
  split <;> rfl

/-- A step that fails leaves the index and the tape as they were. -/
theorem step_of_error {m : Machine} {s : σ} {cause : RunError} (h : (m.step s).1 = .error cause) :
    (m.step s).2.1 = { m with dispatched := m.dispatched + 1 } := by
  revert h
  unfold step
  split
  · intro h
    cases h
  · split
    · intro h
      cases h
    · exact fun _ => rfl

end Machine

end TapeMachine
