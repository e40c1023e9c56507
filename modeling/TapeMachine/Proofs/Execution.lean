import TapeMachine.Proofs.Pipe

/-!
# Structured code on a machine

Structured code stands in a program (`Work.StandsAt`) with any instructions before and behind it.  If it executes, the
machine goes from its entry to behind it in as many steps as it costs (`Execution.after`), and if the machine gets to
the end of the program from the entry, the code executes (`executesWithin`).  For the code of the whole program this
says that a run ends exactly as the code executes, at the same cost (`runFor_finished_iff_execution`).
-/

namespace TapeMachine

namespace Work

/-- The instructions of code, or of the whole loop around a body. -/
def text : Work → List Instruction
  | code c => c.flatten
  | passes body => .loopOpen :: (body.flatten ++ [.loopClose])

/-- The place in the text where work is taken up: a pass begins behind the open. -/
def entry : Work → Nat
  | code _ => 0
  | passes _ => 1

def StandsAt (work : Work) (p : Program) (a : Nat) : Prop :=
  ∃ pre post, p.instructions.toList = pre ++ (work.text ++ post) ∧ pre.length = a

theorem standsAt_zero {c : Code} {p : Program} (h : c.flatten = p.instructions.toList) : (code c).StandsAt p 0 :=
  ⟨[], [], by rw [text, h, List.append_nil, List.nil_append], rfl⟩

theorem length_text_plain (i : Instruction) (h : i.isPlain = true) (rest : Code) :
    (code (.plain i h rest)).text.length = 1 + (code rest).text.length := Nat.add_comm _ _

theorem length_text_loop (body rest : Code) :
    (code (.loop body rest)).text.length = (passes body).text.length + (code rest).text.length := by
  simp [text, Code.flatten]
  omega

theorem length_text_passes (body : Code) : (passes body).text.length = (code body).text.length + 2 := by
  simp [text]

namespace StandsAt

variable {p : Program} {a : Nat} {body rest : Code}

theorem le_size {work : Work} (h : work.StandsAt p a) : a + work.text.length ≤ p.size := by
  obtain ⟨pre, post, heq, rfl⟩ := h
  have := congrArg List.length heq
  rw [Array.length_toList, List.length_append, List.length_append] at this
  rw [Program.size]
  omega

theorem plain {i : Instruction} {hi : i.isPlain = true} (h : (code (.plain i hi rest)).StandsAt p a) :
    p.instructions[a]? = some i ∧ (code rest).StandsAt p (a + 1) := by
  obtain ⟨pre, post, heq, rfl⟩ := h
  constructor
  · rw [← Array.getElem?_toList, heq]
    simp [text, Code.flatten]
  · exact ⟨pre ++ [i], post, by simp [heq, text, Code.flatten], by simp⟩

theorem loop (h : (code (.loop body rest)).StandsAt p a) :
    (passes body).StandsAt p a ∧ (code rest).StandsAt p (a + (passes body).text.length) := by
  obtain ⟨pre, post, heq, rfl⟩ := h
  constructor
  · exact ⟨pre, rest.flatten ++ post, by simp [heq, text, Code.flatten], rfl⟩
  · exact ⟨pre ++ (passes body).text, post, by simp [heq, text, Code.flatten], by simp⟩

theorem inner (h : (passes body).StandsAt p a) : (code body).StandsAt p (a + 1) := by
  obtain ⟨pre, post, heq, rfl⟩ := h
  exact ⟨pre ++ [.loopOpen], .loopClose :: post, by simp [heq, text], by simp⟩

theorem partners (h : (passes body).StandsAt p a) :
    Partners p.instructions.toList a (a + 1 + (code body).text.length) := by
  obtain ⟨pre, post, heq, rfl⟩ := h
  have := Partners.of_balanced body.balanced_flatten pre post
  rw [heq]
  simpa [text] using this

end StandsAt

end Work

namespace Machine

/-- Before the instruction at an index, after some steps. -/
def paused (p : Program) (tape : Tape) (ip dispatched : Nat) : Machine := { startOn tape p with ip, dispatched }

theorem executes_paused {p : Program} {ip : Nat} (hip : ip ≤ p.size) (tape : Tape) (steps : Nat) :
    (paused p tape ip steps).Executes p := ⟨rfl, rfl, hip⟩

/-! ### The next instruction -/

section After

variable {p : Program} {a : Nat} {rest body : Code}

theorem after_plain {i : Instruction} {hi : i.isPlain = true} (h : (Work.code (.plain i hi rest)).StandsAt p a)
    (w : Workplace) (steps n : Nat) :
    (paused p w.tape a steps).after w.pipe (n + 1) =
      (paused p (w.perform i).tape (a + 1) (steps + 1)).after (w.perform i).pipe n := by
  have hstep : (paused p w.tape a steps).step w.pipe = _ := step_plain h.plain.1 hi w.pipe
  rw [after_succ, hstep]
  rfl

/-- At either end of a loop the cell decides whether its body or what is behind it comes next. -/
theorem after_end (h : (Work.passes body).StandsAt p a) {ip : Nat}
    (hip : ip = a ∨ ip = a + 1 + (Work.code body).text.length) (w : Workplace) (steps n : Nat) :
    (paused p w.tape ip steps).after w.pipe (n + 1) =
      (paused p w.tape (if w.tape.cell = 0 then a + (Work.passes body).text.length else a + 1) (steps + 1)).after
        w.pipe n := by
  have hsize := h.le_size
  rw [Work.length_text_passes] at hsize ⊢
  have hm : (paused p w.tape ip steps).Executes p := executes_paused (by omega) w.tape steps
  have hstep : (paused p w.tape ip steps).step w.pipe = (.ok true,
      paused p w.tape ((if w.tape.cell = 0 then a + 1 + (Work.code body).text.length else a) + 1) (steps + 1),
      w.pipe) := hm.step_end h.partners hip w.pipe
  rw [after_succ, hstep]
  by_cases hcell : w.tape.cell = 0
  · rw [if_pos hcell, if_pos hcell, show a + 1 + (Work.code body).text.length + 1 =
      a + ((Work.code body).text.length + 2) by omega]
  · rw [if_neg hcell, if_neg hcell]

/-- A pass, if its body is so many steps, is one step more. -/
theorem after_pass (h : (Work.passes body).StandsAt p a) {w w' : Workplace} {steps j : Nat}
    (hbody : (paused p w.tape (a + 1) steps).after w.pipe j =
      (paused p w'.tape (a + 1 + (Work.code body).text.length) (steps + j), w'.pipe)) (n : Nat) :
    (paused p w.tape (a + 1) steps).after w.pipe (j + 1 + n) =
      (paused p w'.tape (if w'.tape.cell = 0 then a + (Work.passes body).text.length else a + 1) (steps + j + 1)).after
        w'.pipe n := by
  rw [Nat.add_assoc, after_add, hbody, Nat.add_comm 1 n]
  exact after_end h (.inr rfl) w' (steps + j) n

end After

end Machine

/-! ### From executions to steps -/

open Machine in
/-- An execution is as many steps of the machine as it costs. -/
theorem Execution.after {p : Program} {work : Work} {w w' : Workplace} {k : Nat} (h : Execution work w w' k) {a : Nat}
    (hwork : work.StandsAt p a) (steps : Nat) :
    (paused p w.tape (a + work.entry) steps).after w.pipe k =
      (paused p w'.tape (a + work.text.length) (steps + k), w'.pipe) := by
  induction h generalizing a steps with
  | done => rfl
  | @plain i hi rest w w' k _ ih =>
    rw [Work.length_text_plain, Nat.add_comm 1 k, Work.entry, Nat.add_zero, after_plain hwork, Nat.add_comm k,
      ← Nat.add_assoc a, ← Nat.add_assoc steps]
    exact ih hwork.plain.2 (steps + 1)
  | @skip body rest w w' k hcell _ ih =>
    obtain ⟨hloop, hrest⟩ := hwork.loop
    rw [Work.length_text_loop, Nat.add_comm 1 k, Work.entry, Nat.add_zero, after_end hloop (.inl rfl), if_pos hcell,
      Nat.add_comm k, ← Nat.add_assoc a, ← Nat.add_assoc steps]
    exact ih hrest (steps + 1)
  | @enter body rest w w' w'' j k hcell _ _ ihj ihk =>
    obtain ⟨hloop, hrest⟩ := hwork.loop
    -- the open and the passes lead behind the loop, where the rest begins
    have hpasses : (paused p w.tape a steps).after w.pipe (1 + j) =
        (paused p w'.tape (a + (Work.passes body).text.length) (steps + 1 + j), w'.pipe) := by
      rw [Nat.add_comm 1 j, after_end hloop (.inl rfl), if_neg hcell]
      exact ihj hloop (steps + 1)
    rw [Work.length_text_loop, Work.entry, Nat.add_zero, after_add, hpasses, ← Nat.add_assoc a, ← Nat.add_assoc steps,
      ← Nat.add_assoc steps]
    exact ihk hrest (steps + 1 + j)
  | @lastPass body w w' j _ hcell ih =>
    have hpass := after_pass hwork (ih hwork.inner steps) 0
    rw [if_pos hcell] at hpass
    exact hpass
  | @nextPass body w w' w'' j k _ hcell _ ihj ihk =>
    have hpass := after_pass hwork (ihj hwork.inner steps) k
    rw [if_neg hcell] at hpass
    rw [← Nat.add_assoc steps, ← Nat.add_assoc steps]
    exact hpass.trans (ihk hwork (steps + j + 1))

/-! ### From steps to executions -/

namespace Machine

/-- The end of the program is not reached in no steps from inside it. -/
theorem exists_succ_of_after {p : Program} {tape : Tape} {ip steps n : Nat} {pipe : Pipe} (hip : ip < p.size)
    (hend : ((paused p tape ip steps).after pipe n).1.isFinished = true) : ∃ k, n = k + 1 := by
  cases n with
  | zero => exact absurd (isFinished_iff.1 hend) (Nat.not_le.2 hip)
  | succ k => exact ⟨k, rfl⟩

/-- Work executes if the end of the program is a number of steps from its entry. -/
def ExecutesWithin (p : Program) (n : Nat) : Prop :=
  ∀ {work : Work} {a : Nat} {w : Workplace} {steps : Nat}, work.StandsAt p a →
    ((paused p w.tape (a + work.entry) steps).after w.pipe n).1.isFinished = true →
      ∃ w' k, k ≤ n ∧ Execution work w w' k

section ExecutesWithin

variable {p : Program} {n a : Nat} (ih : ∀ k < n, ExecutesWithin p k) {w : Workplace} {steps : Nat}

include ih

theorem exists_execution_code {c : Code} (hc : (Work.code c).StandsAt p a)
    (hend : ((paused p w.tape a steps).after w.pipe n).1.isFinished = true) :
    ∃ w' k, k ≤ n ∧ Execution (.code c) w w' k := by
  have hsize := hc.le_size
  cases c with
  | done => exact ⟨w, 0, Nat.zero_le n, .done⟩
  | plain i hi rest =>
    rw [Work.length_text_plain] at hsize
    obtain ⟨n, rfl⟩ := exists_succ_of_after (by omega) hend
    rw [after_plain hc] at hend
    obtain ⟨w', k, hk, hrest⟩ := ih n (by omega) hc.plain.2 hend
    exact ⟨w', 1 + k, by omega, .plain hrest⟩
  | loop body rest =>
    obtain ⟨hloop, hrest⟩ := hc.loop
    rw [Work.length_text_loop, Work.length_text_passes] at hsize
    obtain ⟨n, rfl⟩ := exists_succ_of_after (by omega) hend
    rw [after_end hloop (.inl rfl)] at hend
    by_cases hcell : w.tape.cell = 0
    · rw [if_pos hcell] at hend
      obtain ⟨w', k, hk, h⟩ := ih n (by omega) hrest hend
      exact ⟨w', 1 + k, by omega, .skip hcell h⟩
    · rw [if_neg hcell] at hend
      obtain ⟨w', j, hj, hpasses⟩ := ih n (by omega) hloop hend
      -- behind the passes there are the other steps to go
      obtain ⟨n, rfl⟩ := Nat.exists_eq_add_of_le hj
      have hafter : (paused p w.tape (a + 1) (steps + 1)).after w.pipe j = _ := hpasses.after hloop (steps + 1)
      rw [after_add, hafter] at hend
      obtain ⟨w'', k, hk, h⟩ := ih n (by omega) hrest hend
      exact ⟨w'', 1 + j + k, by omega, .enter hcell hpasses h⟩

/-- A pass begins with its body, no step before it. -/
theorem exists_execution_passes {body : Code} (hwork : (Work.passes body).StandsAt p a)
    (hend : ((paused p w.tape (a + 1) steps).after w.pipe n).1.isFinished = true) :
    ∃ w' k, k ≤ n ∧ Execution (.passes body) w w' k := by
  have hsize := hwork.le_size
  rw [Work.length_text_passes] at hsize
  obtain ⟨w', j, hj, hbody⟩ := exists_execution_code ih hwork.inner hend
  obtain ⟨n, rfl⟩ := Nat.exists_eq_add_of_le hj
  have hafter : (paused p w.tape (a + 1) steps).after w.pipe j = _ := hbody.after hwork.inner steps
  rw [after_add, hafter] at hend
  obtain ⟨n, rfl⟩ := exists_succ_of_after (by omega) hend
  rw [after_end hwork (.inr rfl)] at hend
  by_cases hcell : w'.tape.cell = 0
  · exact ⟨w', j + 1, by omega, .lastPass hbody hcell⟩
  · rw [if_neg hcell] at hend
    obtain ⟨w'', k, hk, h⟩ := ih n (by omega) hwork hend
    exact ⟨w'', j + 1 + k, by omega, .nextPass hbody hcell h⟩

end ExecutesWithin

theorem executesWithin (p : Program) (n : Nat) : ExecutesWithin p n := by
  induction n using Nat.strongRecOn with
  | ind n ih =>
    intro work a w steps hwork hend
    cases work with
    | code c => exact exists_execution_code ih hwork hend
    | passes body => exact exists_execution_passes ih hwork hend

/-! ### Whole programs -/

section WholeProgram

variable {p : Program} {c : Code} {pipe : Pipe}

theorem isFinished_paused_size (p : Program) (tape : Tape) (steps : Nat) :
    (paused p tape p.size steps).isFinished = true := isFinished_iff.2 (Nat.le_refl p.size)

theorem after_of_execution (hc : c.flatten = p.instructions.toList) {w : Workplace} {k : Nat}
    (h : Execution (.code c) ⟨Tape.fresh, pipe⟩ w k) :
    (start p).after pipe k = (paused p w.tape p.size k, w.pipe) := by
  have hsize : (Work.code c).text.length = p.size := by
    rw [Work.text, hc, Array.length_toList, Program.size]
  have hafter : (start p).after pipe k = _ := h.after (Work.standsAt_zero hc) 0
  rw [hafter, hsize, Nat.zero_add, Nat.zero_add]

theorem exists_execution_of_start (hc : c.flatten = p.instructions.toList) {n : Nat}
    (hend : ((start p).after pipe n).1.isFinished = true) :
    ∃ w k, k ≤ n ∧ Execution (.code c) ⟨Tape.fresh, pipe⟩ w k := by
  have hentry : ((paused p Tape.fresh (0 + (Work.code c).entry) 0).after pipe n).1.isFinished = true := hend
  exact executesWithin p n (w := ⟨Tape.fresh, pipe⟩) (Work.standsAt_zero hc) hentry

end WholeProgram

/-- A run without bounds of the text of structured code ends exactly as the code executes, at the same cost.  This is
what the step counter shows, unless it has begun again on the way. -/
theorem runFor_finished_iff_execution {source : String} {p : Program} (hsource : Program.parse source = .ok p) :
    (∃ c : Code, c.flatten = p.instructions.toList) ∧
      ∀ c : Code, c.flatten = p.instructions.toList → ∀ (input : List UInt8) (w : Workplace) (k : Nat),
        (∃ fuel m, (start p).runFor fuel {} ({ unread := input } : Pipe) =
            (some (.ok ⟨.finished, Counter.wrap k⟩), m, w.pipe) ∧ m.tape = w.tape ∧ m.dispatched = k) ↔
          Execution (.code c) ⟨Tape.fresh, { unread := input }⟩ w k := by
  obtain ⟨-, -, -, hp⟩ := Program.parse_eq_ok_iff.1 hsource
  refine ⟨balanced_iff_exists_flatten.1 hp, ?_⟩
  intro c hc input w k
  have hrun_iff {fuel : Nat} {m : Machine} : (start p).runFor fuel {} ({ unread := input } : Pipe) =
      (some (.ok ⟨.finished, Counter.wrap k⟩), m, w.pipe) ↔
        (start p).after ({ unread := input } : Pipe) fuel = (m, w.pipe) ∧ m.isFinished = true ∧
          m.steps = Counter.wrap k :=
    (executes_start p).runFor_eq_finished_iff hp
  constructor
  · rintro ⟨fuel, m, hrun, htape, hcount⟩
    obtain ⟨hm, hend, -⟩ := hrun_iff.1 hrun
    have hreach : ((start p).after ({ unread := input } : Pipe) fuel).1.isFinished = true := by
      rw [hm]
      exact hend
    obtain ⟨w', k', hle, h⟩ := exists_execution_of_start hc hreach
    -- the execution ends after its steps, and the machine has rested since
    obtain ⟨n, rfl⟩ := Nat.exists_eq_add_of_le hle
    rw [after_add, after_of_execution hc h, after_of_isFinished (isFinished_paused_size p w'.tape k')] at hm
    obtain ⟨tape, pipe⟩ := w
    cases hm
    cases htape
    cases hcount
    exact h
  · intro h
    refine ⟨k, paused p w.tape p.size k, ?_, rfl, rfl⟩
    exact hrun_iff.2 ⟨after_of_execution hc h, isFinished_paused_size p w.tape k, rfl⟩

/-- A loop in a loop: two to begin with, 12 and 7 for the bodies of the outer passes, and one for each of them. -/
theorem runFor_finished_iff_execution_loop_in_loop :
    Program.parse ",[[->+<],]" = .ok ⟨#[.input, .loopOpen, .loopOpen, .decrement, .advance, .increment, .retreat,
        .loopClose, .input, .loopClose]⟩ ∧
      Execution
        (.code (.plain .input rfl (.loop (.loop (.plain .decrement rfl (.plain .advance rfl (.plain .increment rfl
          (.plain .retreat rfl .done)))) (.plain .input rfl .done)) .done)))
        ⟨Tape.fresh, { unread := [2, 1, 0, 9] }⟩ ⟨⟨[], 0, [3]⟩, { unread := [9] }⟩ 23 := by
  have hparse : Program.parse ",[[->+<],]" = .ok ⟨#[.input, .loopOpen, .loopOpen, .decrement, .advance, .increment,
      .retreat, .loopClose, .input, .loopClose]⟩ := by rfl
  refine ⟨hparse, ((runFor_finished_iff_execution hparse).2 _ ?_ _ _ 23).1 ?_⟩
  · rfl
  · exact ⟨23, _, rfl, rfl, rfl⟩

end Machine

end TapeMachine
