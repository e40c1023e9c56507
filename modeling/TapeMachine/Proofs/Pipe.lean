import TapeMachine.Machine.Cost
import TapeMachine.Proofs.Reachable
import TapeMachine.Proofs.Steps

/-!
# Machines on pipes

On a pipe no step fails.  A step is what `Workplace.perform` makes of a plain instruction, or a decision where to go on
at a loop end; and a run without bounds ends exactly if its steps reach the end of the program
(`Executes.runFor_eq`).
-/

namespace TapeMachine.Machine

/-! ### Steps -/

theorem step_plain {m : Machine} {i : Instruction} (hi : m.program.instructions[m.ip]? = some i)
    (hplain : i.isPlain = true) (pipe : Pipe) :
    m.step pipe = (.ok true, { m with
        tape := (Workplace.perform ⟨m.tape, pipe⟩ i).tape
        ip := m.ip + 1
        dispatched := m.dispatched + 1 }, (Workplace.perform ⟨m.tape, pipe⟩ i).pipe) := by
  unfold step
  rw [hi]
  cases i with
  | loopOpen => cases hplain
  | loopClose => cases hplain
  | input =>
    obtain ⟨unread, written⟩ := pipe
    cases unread <;> rfl
  | _ => rfl

namespace Executes

variable {m : Machine} {p : Program}

/-- At either end of a loop the cell decides whether its body or what is behind it comes next. -/
theorem step_end (h : m.Executes p) {a b : Nat} (hab : Partners p.instructions.toList a b)
    (hip : m.ip = a ∨ m.ip = b) (pipe : Pipe) :
    m.step pipe =
      (.ok true, { m with ip := (if m.tape.cell = 0 then b else a) + 1, dispatched := m.dispatched + 1 }, pipe) := by
  rcases hip with rfl | rfl
  · rw [h.step_open hab, Pipe.jumped_eq, ite_self]
  · rw [h.step_close hab, Pipe.jumped_eq, ite_self]

theorem step_pipe_ok (h : m.Executes p) (hp : Balanced p.instructions.toList) (pipe : Pipe) :
    ∃ dispatched, (m.step pipe).1 = .ok dispatched := by
  cases hi : p.instructions[m.ip]? with
  | none =>
    unfold Machine.step
    rw [h.program, hi]
    exact ⟨false, rfl⟩
  | some i =>
    by_cases hplain : i.isPlain = true
    · rw [← h.program] at hi
      rw [step_plain hi hplain]
      exact ⟨true, rfl⟩
    · rw [← Array.getElem?_toList] at hi
      obtain ⟨a, b, hab, hip⟩ := (hp.hasPartner hi (by simpa using hplain)).exists_ends
      rw [h.step_end hab hip]
      exact ⟨true, rfl⟩

end Executes

/-! ### Runs without bounds -/

namespace Executes

variable {m : Machine} {p : Program}

theorem runUntil_eq (h : m.Executes p) (hp : Balanced p.instructions.toList) (pipe : Pipe) (fuel : Nat) :
    runUntil none none fuel m pipe =
      (if (m.after pipe fuel).1.isFinished then some (.ok .finished) else none, m.after pipe fuel) := by
  induction fuel generalizing m pipe with
  | zero =>
    by_cases hend : m.isFinished = true
    · rw [runUntil_of_halt (if_pos hend)]
      exact Prod.ext (if_pos hend).symm rfl
    · rw [runUntil, halt?, if_neg hend]
      exact Prod.ext (if_neg hend).symm rfl
  | succ fuel ih =>
    by_cases hend : m.isFinished = true
    · rw [runUntil_of_halt (if_pos hend), after_of_isFinished hend, if_pos hend]
    · obtain ⟨dispatched, hok⟩ := h.step_pipe_ok hp pipe
      have hstep : m.step pipe = (.ok dispatched, (m.step pipe).2) := Prod.ext hok rfl
      have hhalt : halt? none none m pipe = none := by
        rw [halt?, if_neg hend]
        rfl
      rw [runUntil_succ hhalt hstep, after_succ]
      exact ih (h.step hp pipe) _

/-- A run without bounds ends if its steps reach the end of the program. -/
theorem runFor_eq (h : m.Executes p) (hp : Balanced p.instructions.toList) (pipe : Pipe) (fuel : Nat) :
    m.runFor fuel {} pipe =
      (if (m.after pipe fuel).1.isFinished then some (.ok ⟨.finished, (m.after pipe fuel).1.steps⟩) else none,
        m.after pipe fuel) := by
  unfold runFor
  dsimp only [budget, Option.map_none]
  rw [h.runUntil_eq hp]
  by_cases hend : (m.after pipe fuel).1.isFinished = true
  · rw [if_pos hend, if_pos hend]
    rfl
  · rw [if_neg hend, if_neg hend]
    rfl

theorem runFor_eq_finished_iff (h : m.Executes p) (hp : Balanced p.instructions.toList) {pipe pipe' : Pipe}
    {fuel steps : Nat} {m' : Machine} :
    m.runFor fuel {} pipe = (some (.ok ⟨.finished, steps⟩), m', pipe') ↔
      m.after pipe fuel = (m', pipe') ∧ m'.isFinished = true ∧ m'.steps = steps := by
  rw [h.runFor_eq hp]
  generalize m.after pipe fuel = reached
  obtain ⟨m₁, pipe₁⟩ := reached
  dsimp only
  constructor
  · intro heq
    by_cases hend : m₁.isFinished = true
    · rw [if_pos hend] at heq
      cases heq
      exact ⟨rfl, hend, rfl⟩
    · rw [if_neg hend] at heq
      cases heq
  · rintro ⟨heq, hend, rfl⟩
    cases heq
    rw [if_pos hend]

theorem exists_runFor_eq_finished_iff (h : m.Executes p) (hp : Balanced p.instructions.toList) {pipe : Pipe}
    {fuel : Nat} : (∃ steps last, m.runFor fuel {} pipe = (some (.ok ⟨.finished, steps⟩), last)) ↔
      (m.after pipe fuel).1.isFinished = true := by
  constructor
  · rintro ⟨steps, last, hrun⟩
    obtain ⟨hafter, hend, -⟩ := (h.runFor_eq_finished_iff hp).1 hrun
    rwa [hafter]
  · intro hend
    exact ⟨_, _, (h.runFor_eq_finished_iff hp).2 ⟨rfl, hend, rfl⟩⟩

end Executes

/-- A program without input that has finished has printed what was written. -/
theorem execute_eq_some_iff {p : Program} (hp : Balanced p.instructions.toList) {fuel : Nat}
    {result : Except RunError (Array UInt8)} : p.execute fuel = some result ↔
      ((start p).after ({} : Pipe) fuel).1.isFinished = true ∧
        result = .ok ((start p).after ({} : Pipe) fuel).2.written := by
  unfold Program.execute
  rw [(executes_start p).runFor_eq hp]
  by_cases hend : ((start p).after ({} : Pipe) fuel).1.isFinished = true
  · simp [hend, Except.map, eq_comm]
  · simp [hend]

end TapeMachine.Machine
