import TapeMachine.Machine.Calls
import TapeMachine.Proofs.Parse
import TapeMachine.Proofs.Table

/-!
# Reachable machines

What every call on the streams keeps, a step keeps (`keeps_step`), and what a step keeps, a run keeps and any calls
keep (`Reachable.keeps`).  A machine that is reached from the start of a program executes that program,
`Machine.Executes`: it has the program's jump table, and its index has not left the program.  Since a program is
balanced, its jump table has an entry for every loop end, so no jump fails.
-/

namespace TapeMachine.Machine

variable {σ : Type} [Host σ]

/-! ### Where calls lead -/

@[simp] theorem snd_runFor (fuel : Nat) (limits : Limits σ) (m : Machine) (s : σ) :
    (runFor fuel limits m s).2 = (runUntil (m.budget limits) limits.cancel fuel m s).2 := rfl

@[simp] theorem snd_call_step (m : Machine) (s : σ) : (m.call s .step).2 = (m.step s).2 := by
  rw [call]
  split <;> rename_i heq <;> rw [heq]

@[simp] theorem snd_call_run (m : Machine) (s : σ) (fuel : Nat) (limits : Limits σ) :
    (m.call s (.run fuel limits)).2 = (runUntil (m.budget limits) limits.cancel fuel m s).2 := by
  rw [← snd_runFor, call]
  split <;> rename_i heq <;> rw [heq]

@[simp] theorem snd_calls_cons (m : Machine) (s : σ) (c : Call σ) (cs : List (Call σ)) :
    (m.calls s (c :: cs)).2 = ((m.call s c).2.1.calls (m.call s c).2.2 cs).2 := rfl

/-! ### What streams keep, steps keep -/

section Streams

variable {I : σ → Prop} (hread : ∀ {s}, I s → I (Host.read s).2) (hwrite : ∀ {s}, I s → ∀ byte, I (Host.write byte s).2)
  (hflush : ∀ {s}, I s → I (Host.flush s).2) (hjumped : ∀ {s}, I s → ∀ source target, I (Host.jumped source target s))

include hjumped

theorem keeps_jump {m : Machine} {s : σ} (h : I s) : I (m.jump s).2 := by
  unfold jump
  split
  · exact hjumped h _ _
  · exact h

include hread hwrite hflush

theorem keeps_perform {m : Machine} {s : σ} (h : I s) (i : Instruction) : I (m.perform s i).2 := by
  cases i with
  | output =>
    have hwritten := hwrite h m.tape.cell
    dsimp only [perform]
    split <;> rename_i heq <;> rw [heq] at hwritten <;> exact hwritten
  | input =>
    have hflushed := hflush h
    dsimp only [perform]
    split <;> rename_i heq <;> rw [heq] at hflushed
    · exact hflushed
    · have hfetched := hread hflushed
      split <;> rename_i heq <;> rw [heq] at hfetched <;> exact hfetched
  | loopOpen =>
    dsimp only [perform]
    split
    · exact keeps_jump hjumped h
    · exact h
  | loopClose =>
    dsimp only [perform]
    split
    · exact h
    · exact keeps_jump hjumped h
  | _ => exact h

/-- What every call on the streams keeps, a step keeps. -/
theorem keeps_step {m : Machine} {s : σ} (h : I s) : I (m.step s).2.2 := by
  unfold step
  split
  · exact h
  · rename_i i _
    have hperformed := keeps_perform (m := m) hread hwrite hflush hjumped h i
    split <;> rename_i heq <;> rw [heq] at hperformed <;> exact hperformed

end Streams

/-! ### What steps keep, calls keep -/

section Keeps

variable {P : Machine → σ → Prop} (hstep : ∀ m s, P m s → P (m.step s).2.1 (m.step s).2.2)

include hstep

theorem keeps_runUntil (budget : Option Nat) (cancel : Option (Nat → σ → Bool)) (fuel : Nat) {m : Machine} {s : σ}
    (h : P m s) : P (runUntil budget cancel fuel m s).2.1 (runUntil budget cancel fuel m s).2.2 := by
  induction fuel generalizing m s with
  | zero => exact h
  | succ fuel ih =>
    have hnext := hstep m s h
    unfold runUntil
    split
    · exact h
    · split
      · rename_i heq
        rw [heq] at hnext
        exact ih hnext
      · rename_i heq
        rw [heq] at hnext
        exact hnext

theorem keeps_after (n : Nat) {m : Machine} {s : σ} (h : P m s) : P (m.after s n).1 (m.after s n).2 := by
  induction n generalizing m s with
  | zero => exact h
  | succ n ih => exact ih (hstep m s h)

theorem keeps_call (c : Call σ) {m : Machine} {s : σ} (h : P m s) : P (m.call s c).2.1 (m.call s c).2.2 := by
  cases c with
  | step =>
    rw [snd_call_step]
    exact hstep m s h
  | run fuel limits =>
    rw [snd_call_run]
    exact keeps_runUntil hstep _ _ fuel h

theorem keeps_calls (cs : List (Call σ)) {m : Machine} {s : σ} (h : P m s) :
    P (m.calls s cs).2.1 (m.calls s cs).2.2 := by
  induction cs generalizing m s with
  | nil => exact h
  | cons c cs ih =>
    rw [snd_calls_cons]
    exact ih (keeps_call hstep c h)

theorem Reachable.keeps {p : Program} {start : σ} {m : Machine} {s : σ} (h : Reachable p start m s)
    (hstart : P (Machine.start p) start) : P m s := by
  obtain ⟨cs, hcs⟩ := h
  have := keeps_calls hstep cs hstart
  rwa [hcs] at this

end Keeps

/-! ### Machines that execute a program -/

/-- An instruction that is no loop end goes on to the next one, or fails with an error of the streams. -/
theorem perform_of_isPlain (m : Machine) (s : σ) {i : Instruction} (hi : i.isPlain = true) :
    (∃ tape s', m.perform s i = (.ok (tape, m.ip + 1), s')) ∨ ∃ cause s', m.perform s i = (.error (.io cause), s') := by
  cases i with
  | loopOpen => cases hi
  | loopClose => cases hi
  | output =>
    dsimp only [perform]
    split
    · exact .inl ⟨_, _, rfl⟩
    · exact .inr ⟨_, _, rfl⟩
  | input =>
    dsimp only [perform]
    split
    · exact .inr ⟨_, _, rfl⟩
    · split
      · exact .inr ⟨_, _, rfl⟩
      · exact .inl ⟨_, _, rfl⟩
      · exact .inl ⟨_, _, rfl⟩
  | _ => exact .inl ⟨_, _, rfl⟩

/-- The jump table is that of the program, and the index has not left the program. -/
structure Executes (m : Machine) (p : Program) : Prop where
  program : m.program = p
  jumps : m.jumps = JumpTable.ofList p.instructions.toList
  ip_le : m.ip ≤ p.size

theorem executes_startOn (tape : Tape) (p : Program) : (startOn tape p).Executes p := ⟨rfl, rfl, Nat.zero_le _⟩

theorem executes_start (p : Program) : (start p).Executes p := executes_startOn Tape.fresh p

namespace Executes

variable {m : Machine} {p : Program}

theorem size_jumps (h : m.Executes p) : m.jumps.size = p.size := by
  rw [h.jumps, JumpTable.size_ofList, Array.length_toList, Program.size]

theorem ip_eq_size (h : m.Executes p) (hend : m.isFinished = true) : m.ip = p.size := by
  rw [isFinished_iff, h.program] at hend
  exact Nat.le_antisymm h.ip_le hend

theorem jump_eq (h : m.Executes p) {target : Nat}
    (htarget : Partners p.instructions.toList m.ip target ∨ Partners p.instructions.toList target m.ip) (s : σ) :
    m.jump s = (.ok (m.tape, target + 1), Host.jumped m.ip target s) := by
  unfold jump
  rw [h.jumps, JumpTable.partner?_ofList_iff.2 htarget]

/-- In a balanced program every loop end can jump. -/
theorem exists_jump_eq (h : m.Executes p) (hp : Balanced p.instructions.toList) {i : Instruction}
    (hi : p.instructions[m.ip]? = some i) (hend : i.isPlain = false) (s : σ) :
    ∃ target < p.size, m.jump s = (.ok (m.tape, target + 1), Host.jumped m.ip target s) := by
  rw [← Array.getElem?_toList] at hi
  obtain ⟨target, htarget⟩ := hp.hasPartner hi hend
  refine ⟨target, ?_, h.jump_eq htarget s⟩
  rw [Program.size, ← Array.length_toList]
  rcases htarget with h | h
  · exact h.lt_length
  · exact Nat.lt_trans h.lt h.lt_length

/-- An instruction leads to an index in the program or behind it, or fails with an error of the streams. -/
theorem perform (h : m.Executes p) (hp : Balanced p.instructions.toList) {i : Instruction}
    (hi : p.instructions[m.ip]? = some i) (s : σ) :
    (∃ tape ip s', m.perform s i = (.ok (tape, ip), s') ∧ ip ≤ p.size) ∨
      ∃ cause s', m.perform s i = (.error (.io cause), s') := by
  have hlt : m.ip + 1 ≤ p.size := (Array.getElem?_eq_some_iff.1 hi).1
  by_cases hplain : i.isPlain = true
  · rcases m.perform_of_isPlain s hplain with ⟨tape, s', heq⟩ | hfail
    · exact .inl ⟨tape, _, s', heq, hlt⟩
    · exact .inr hfail
  · obtain ⟨target, htarget, hjump⟩ := h.exists_jump_eq hp hi (by simpa using hplain) s
    refine .inl ?_
    cases i with
    | loopOpen =>
      dsimp only [Machine.perform]
      split
      · exact ⟨_, _, _, hjump, htarget⟩
      · exact ⟨_, _, _, rfl, hlt⟩
    | loopClose =>
      dsimp only [Machine.perform]
      split
      · exact ⟨_, _, _, rfl, hlt⟩
      · exact ⟨_, _, _, hjump, htarget⟩
    | _ => exact absurd rfl hplain

/-- A step fails with an error of the streams if it fails. -/
theorem step_cases (h : m.Executes p) (hp : Balanced p.instructions.toList) (s : σ) :
    (m.step s).2.1.Executes p ∧
      ((∃ dispatched, (m.step s).1 = .ok dispatched) ∨ ∃ cause, (m.step s).1 = .error (.io cause)) := by
  have hinstructions : m.program.instructions = p.instructions := by rw [h.program]
  unfold Machine.step
  rw [hinstructions]
  split
  · exact ⟨h, .inl ⟨false, rfl⟩⟩
  · rename_i hi
    rcases h.perform hp hi s with ⟨tape, ip, s', heq, hip⟩ | ⟨cause, s', heq⟩
    · rw [heq]
      exact ⟨⟨h.program, h.jumps, hip⟩, .inl ⟨true, rfl⟩⟩
    · rw [heq]
      exact ⟨⟨h.program, h.jumps, h.ip_le⟩, .inr ⟨cause, rfl⟩⟩

/-- An open jumps if the cell is zero. -/
theorem step_open (h : m.Executes p) {b : Nat} (hb : Partners p.instructions.toList m.ip b) (s : σ) :
    m.step s = (.ok true, { m with ip := (if m.tape.cell = 0 then b else m.ip) + 1, dispatched := m.dispatched + 1 },
      if m.tape.cell = 0 then Host.jumped m.ip b s else s) := by
  have hi := hb.isOpen
  rw [Array.getElem?_toList, ← h.program] at hi
  unfold Machine.step
  rw [hi]
  dsimp only [Machine.perform]
  by_cases hcell : m.tape.cell = 0
  · simp only [if_pos hcell, h.jump_eq (.inl hb)]
  · simp only [if_neg hcell]

/-- A close jumps unless the cell is zero. -/
theorem step_close (h : m.Executes p) {a : Nat} (ha : Partners p.instructions.toList a m.ip) (s : σ) :
    m.step s = (.ok true, { m with ip := (if m.tape.cell = 0 then m.ip else a) + 1, dispatched := m.dispatched + 1 },
      if m.tape.cell = 0 then s else Host.jumped m.ip a s) := by
  have hi := ha.isClose
  rw [Array.getElem?_toList, ← h.program] at hi
  unfold Machine.step
  rw [hi]
  dsimp only [Machine.perform]
  by_cases hcell : m.tape.cell = 0
  · simp only [if_pos hcell]
  · simp only [if_neg hcell, h.jump_eq (.inr ha)]

theorem step (h : m.Executes p) (hp : Balanced p.instructions.toList) (s : σ) : (m.step s).2.1.Executes p :=
  (h.step_cases hp s).1

theorem after (h : m.Executes p) (hp : Balanced p.instructions.toList) (s : σ) (n : Nat) :
    (m.after s n).1.Executes p := by
  induction n generalizing m s with
  | zero => exact h
  | succ n ih => exact ih (h.step hp s) _

theorem step_ne_noPartner (h : m.Executes p) (hp : Balanced p.instructions.toList) (s : σ) (ip : Nat) :
    (m.step s).1 ≠ .error (.noPartner ip) := by
  intro hfail
  rcases (h.step_cases hp s).2 with ⟨_, hok⟩ | ⟨_, hio⟩
  · rw [hok] at hfail
    cases hfail
  · rw [hio] at hfail
    cases hfail

end Executes

theorem Reachable.executes {p : Program} (hp : Balanced p.instructions.toList) {start : σ} {m : Machine} {s : σ}
    (h : Reachable p start m s) : m.Executes p :=
  Reachable.keeps (P := fun m _ => m.Executes p) (fun _ s hm => hm.step hp s) h (executes_start p)

end TapeMachine.Machine
