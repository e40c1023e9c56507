import TapeMachine.Machine.Calls

/-!
# Steps

What a step does depends on the instruction under the index (`next?`): an instruction that fails makes the step fail.
What a machine and its host have come to after a number of steps, and what the steps have answered.  Numbers of steps
add up (`after_add`, `failures_add`), and past the end nothing happens.  As long as the program has not finished
(`GoesOn`), every step counts, so the number of instructions dispatched tells how many there were
(`GoesOn.dispatched_after`), and the step counter shows it until it begins again (`GoesOn.steps_after`).
-/

namespace TapeMachine.Machine

variable {σ : Type} [Host σ]

/-! ### The step of an instruction -/

/-- The instruction under the index. -/
def next? (m : Machine) : Option Instruction := m.program.instructions[m.ip]?

section Next

variable {m : Machine} {s : σ}

theorem not_isFinished_of_next? {i : Instruction} (hi : m.next? = some i) : ¬ m.isFinished = true := by
  intro hend
  rw [next?, Array.getElem?_eq_none (isFinished_iff.1 hend)] at hi
  cases hi

theorem step_of_perform_error {i : Instruction} {cause : RunError} {s' : σ} (hi : m.next? = some i)
    (hperform : m.perform s i = (.error cause, s')) :
    m.step s = (.error cause, { m with dispatched := m.dispatched + 1 }, s') := by
  unfold step
  rw [show m.program.instructions[m.ip]? = some i from hi]
  dsimp only
  rw [hperform]

theorem step_of_perform_ok {i : Instruction} {tape : Tape} {ip : Nat} {s' : σ} (hi : m.next? = some i)
    (hperform : m.perform s i = (.ok (tape, ip), s')) :
    m.step s = (.ok true, { m with tape, ip, dispatched := m.dispatched + 1 }, s') := by
  unfold step
  rw [show m.program.instructions[m.ip]? = some i from hi]
  dsimp only
  rw [hperform]

theorem step_of_flush_error {cause : IoError} {s' : σ} (hi : m.next? = some .input)
    (hflush : Host.flush s = (.error cause, s')) :
    m.step s = (.error (.io cause), { m with dispatched := m.dispatched + 1 }, s') := by
  refine step_of_perform_error hi ?_
  dsimp only [perform]
  rw [hflush]

theorem step_of_read_error {cause : IoError} {s₁ s' : σ} (hi : m.next? = some .input)
    (hflush : Host.flush s = (.ok (), s₁)) (hread : Host.read s₁ = (.error cause, s')) :
    m.step s = (.error (.io cause), { m with dispatched := m.dispatched + 1 }, s') := by
  refine step_of_perform_error hi ?_
  dsimp only [perform]
  rw [hflush]
  dsimp only
  rw [hread]

theorem step_of_write_error {cause : IoError} {s' : σ} (hi : m.next? = some .output)
    (hwrite : Host.write m.tape.cell s = (.error cause, s')) :
    m.step s = (.error (.io cause), { m with dispatched := m.dispatched + 1 }, s') := by
  refine step_of_perform_error hi ?_
  dsimp only [perform]
  rw [hwrite]

/-- Whether it fails or not, an output does nothing to the host but write. -/
theorem step_output (hi : m.next? = some .output) : (m.step s).2.2 = (Host.write m.tape.cell s).2 := by
  unfold step
  rw [show m.program.instructions[m.ip]? = some .output from hi]
  dsimp only [perform]
  generalize Host.write m.tape.cell s = written
  obtain ⟨_ | _, s'⟩ := written <;> rfl

end Next

/-! ### Where steps lead -/

theorem after_succ (m : Machine) (s : σ) (n : Nat) : m.after s (n + 1) = (m.step s).2.1.after (m.step s).2.2 n := rfl

theorem after_add (m : Machine) (s : σ) (n k : Nat) :
    m.after s (n + k) = (m.after s n).1.after (m.after s n).2 k := by
  induction n generalizing m s with
  | zero => rw [Nat.zero_add]; rfl
  | succ n ih => rw [Nat.add_right_comm, after_succ, after_succ, ih]

/-- A further step is the last one. -/
theorem after_succ_eq_step (m : Machine) (s : σ) (n : Nat) :
    m.after s (n + 1) = ((m.after s n).1.step (m.after s n).2).2 := after_add m s n 1

/-- Past the end nothing happens. -/
theorem after_of_isFinished {m : Machine} (h : m.isFinished = true) (s : σ) (n : Nat) : m.after s n = (m, s) := by
  induction n with
  | zero => rfl
  | succ n ih => rw [after_succ, step_of_isFinished h, ih]

/-- Whenever it is looked at, the end is the same. -/
theorem after_eq_of_isFinished {m : Machine} {s : σ} {n k : Nat} (hn : (m.after s n).1.isFinished = true)
    (hk : (m.after s k).1.isFinished = true) : m.after s n = m.after s k := by
  rcases Nat.le_total n k with hle | hle
  · obtain ⟨rest, rfl⟩ := Nat.exists_eq_add_of_le hle
    rw [after_add, after_of_isFinished hn]
  · obtain ⟨rest, rfl⟩ := Nat.exists_eq_add_of_le hle
    rw [after_add, after_of_isFinished hk]

/-! ### What steps answer -/

theorem answers_succ (m : Machine) (s : σ) (n : Nat) :
    m.answers s (n + 1) = (m.step s).1 :: (m.step s).2.1.answers (m.step s).2.2 n := rfl

/-- Past the end every step answers that there was nothing to do. -/
theorem answers_of_isFinished {m : Machine} (h : m.isFinished = true) (s : σ) (n : Nat) :
    m.answers s n = List.replicate n (.ok false) := by
  induction n with
  | zero => rfl
  | succ n ih => rw [answers_succ, step_of_isFinished h, ih, List.replicate_succ]

theorem dispatched_eq_true {m : Machine} {s : σ} {dispatched : Bool} (hm : ¬ m.isFinished = true)
    (h : (m.step s).1 = .ok dispatched) : dispatched = true := by
  revert h
  unfold step
  split
  · rename_i hi
    exact absurd (isFinished_iff.2 (Array.getElem?_eq_none_iff.1 hi)) hm
  · split
    · intro h
      cases h
      rfl
    · intro h
      cases h

def failure? {α : Type} : Except RunError α → Option RunError
  | .ok _ => none
  | .error cause => some cause

/-- The failures of a number of steps, in order. -/
def failures (m : Machine) (s : σ) (n : Nat) : List RunError := (m.answers s n).filterMap failure?

theorem failures_succ (m : Machine) (s : σ) (n : Nat) :
    m.failures s (n + 1) = (failure? (m.step s).1).toList ++ (m.step s).2.1.failures (m.step s).2.2 n := by
  unfold failures
  rw [answers_succ, List.filterMap_cons]
  cases failure? (m.step s).1 <;> rfl

theorem failures_add (m : Machine) (s : σ) (n k : Nat) :
    m.failures s (n + k) = m.failures s n ++ (m.after s n).1.failures (m.after s n).2 k := by
  induction n generalizing m s with
  | zero => rw [Nat.zero_add]; rfl
  | succ n ih => rw [Nat.add_right_comm, failures_succ, failures_succ, after_succ, ih, List.append_assoc]

/-! ### While there are instructions left -/

/-- The program has not finished before so many steps. -/
def GoesOn (m : Machine) (s : σ) (n : Nat) : Prop := ∀ k < n, ¬ (m.after s k).1.isFinished = true

theorem goesOn_zero (m : Machine) (s : σ) : m.GoesOn s 0 := fun _ hk => absurd hk (Nat.not_lt_zero _)

theorem goesOn_succ_iff {m : Machine} {s : σ} {n : Nat} :
    m.GoesOn s (n + 1) ↔ ¬ m.isFinished = true ∧ (m.step s).2.1.GoesOn (m.step s).2.2 n := by
  constructor
  · intro h
    exact ⟨h 0 (Nat.zero_lt_succ n), fun k hk => h (k + 1) (Nat.succ_lt_succ hk)⟩
  · rintro ⟨hm, h⟩ k hk
    cases k with
    | zero => exact hm
    | succ k => exact h k (Nat.lt_of_succ_lt_succ hk)

namespace GoesOn

variable {m : Machine} {s : σ} {n k : Nat}

theorem add (h : m.GoesOn s n) (hk : (m.after s n).1.GoesOn (m.after s n).2 k) : m.GoesOn s (n + k) := by
  induction n generalizing m s with
  | zero => rwa [Nat.zero_add]
  | succ n ih =>
    obtain ⟨hm, h⟩ := goesOn_succ_iff.1 h
    rw [Nat.add_right_comm]
    exact goesOn_succ_iff.2 ⟨hm, ih h hk⟩

/-- As long as the program has not finished, every step dispatches an instruction. -/
theorem dispatched_after (h : m.GoesOn s n) : (m.after s n).1.dispatched = m.dispatched + n := by
  induction n generalizing m s with
  | zero => rfl
  | succ n ih =>
    obtain ⟨hm, h⟩ := goesOn_succ_iff.1 h
    rw [after_succ, ih h, dispatched_step hm]
    omega

theorem steps_after (h : m.GoesOn s n) : (m.after s n).1.steps = Counter.wrap (m.steps + n) :=
  steps_eq_wrap_add h.dispatched_after

/-- The counter goes up by one with every step until it begins again. -/
theorem steps_after_of_le (h : m.GoesOn s n) (hn : m.steps + n ≤ Counter.max) :
    (m.after s n).1.steps = m.steps + n := by
  rw [h.steps_after, Counter.wrap_of_le hn]

end GoesOn

/-- Steps past the end apart, the program has not finished before any of them. -/
theorem exists_goesOn (m : Machine) (s : σ) (n : Nat) : ∃ k ≤ n, m.GoesOn s k ∧ m.after s n = m.after s k ∧
    (k < n → (m.after s k).1.isFinished = true) := by
  induction n generalizing m s with
  | zero => exact ⟨0, Nat.le_refl 0, goesOn_zero m s, rfl, fun h => absurd h (Nat.lt_irrefl 0)⟩
  | succ n ih =>
    by_cases hm : m.isFinished = true
    · exact ⟨0, Nat.zero_le _, goesOn_zero m s, after_of_isFinished hm s _, fun _ => hm⟩
    · obtain ⟨k, hk, hgo, heq, hend⟩ := ih (m.step s).2.1 (m.step s).2.2
      exact ⟨k + 1, Nat.succ_le_succ hk, goesOn_succ_iff.2 ⟨hm, hgo⟩, heq, fun h => hend (Nat.lt_of_succ_lt_succ h)⟩

end TapeMachine.Machine
