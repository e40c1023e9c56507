import Mathlib.Data.Nat.Basic
import Mathlib.Order.Interval.Set.Defs
import TapeMachine.Proofs.Matching
import TapeMachine.Proofs.Reachable
import TapeMachine.Proofs.Steps
import TapeMachine.Stream.Script

/-!
# How loops are entered and left

A step leads where `Machine.Move` says: it stays when the program has finished or the instruction fails, it goes on
behind a plain instruction, and at either end of a loop it goes behind the open or behind the close, as the cell says.
So the cell behind a loop end is known (`Machine.Poised`), and since two pairs of loop ends do not cross, a loop is
entered at its open alone and left at its close alone (`Machine.Move.enter`, `Machine.Move.leave`).
-/

namespace TapeMachine.Machine

variable {σ : Type} [Host σ] {p : Program} {m next : Machine}

/-! ### Where a step leads -/

inductive Move (p : Program) (m next : Machine) : Prop
  | stay : next.ip = m.ip → next.tape = m.tape → Move p m next
  | goOn {i : Instruction} :
    p.instructions[m.ip]? = some i → i.isPlain = true → next.ip = m.ip + 1 → Move p m next
  /-- Whichever end it is, a zero cell leads behind the close and any other cell behind the open. -/
  | loopEnd {a b : Nat} :
    Partners p.instructions.toList a b → m.ip = a ∨ m.ip = b → next.tape = m.tape →
      next.ip = (if m.tape.cell = 0 then b else a) + 1 → Move p m next

theorem Executes.move (h : m.Executes p) (hp : Balanced p.instructions.toList) (s : σ) : Move p m (m.step s).2.1 := by
  cases hi : p.instructions[m.ip]? with
  | none =>
    have hend : m.isFinished = true := by
      rw [isFinished_iff, h.program]
      exact Array.getElem?_eq_none_iff.1 hi
    rw [step_of_isFinished hend]
    exact .stay rfl rfl
  | some i =>
    by_cases hplain : i.isPlain = true
    · have hnext : m.next? = some i := by rw [next?, h.program, hi]
      rcases m.perform_of_isPlain s hplain with ⟨tape, s', heq⟩ | ⟨cause, s', heq⟩
      · rw [step_of_perform_ok hnext heq]
        exact .goOn hi hplain rfl
      · rw [step_of_perform_error hnext heq]
        exact .stay rfl rfl
    · rw [← Array.getElem?_toList] at hi
      obtain ⟨a, b, hab, hip⟩ := (hp.hasPartner hi (by simpa using hplain)).exists_ends
      have hstep : (m.step s).2.1 =
          { m with ip := (if m.tape.cell = 0 then b else a) + 1, dispatched := m.dispatched + 1 } := by
        rcases hip with rfl | rfl
        · rw [h.step_open hab]
        · rw [h.step_close hab]
      rw [hstep]
      exact .loopEnd hab hip rfl rfl

/-! ### The cell behind a loop end -/

/-- What is known of the tape from the instruction before the index. -/
structure Poised (p : Program) (m : Machine) : Prop where
  first : m.ip = 0 → m.tape = Tape.fresh
  behindOpen : 0 < m.ip → p.instructions[m.ip - 1]? = some .loopOpen → m.tape.cell ≠ 0
  behindClose : 0 < m.ip → p.instructions[m.ip - 1]? = some .loopClose → m.tape.cell = 0

theorem poised_start (p : Program) : Poised p (start p) :=
  ⟨fun _ => rfl, fun h => absurd h (Nat.lt_irrefl 0), fun h => absurd h (Nat.lt_irrefl 0)⟩

theorem Move.poised (h : Move p m next) (hm : Poised p m) : Poised p next := by
  cases h with
  | stay hip htape =>
    refine ⟨?_, ?_, ?_⟩
    · rw [hip, htape]
      exact hm.first
    · rw [hip, htape]
      exact hm.behindOpen
    · rw [hip, htape]
      exact hm.behindClose
  | @goOn i hi hplain hip =>
    have hbefore {e : Instruction} (he : p.instructions[next.ip - 1]? = some e) : e.isPlain = true := by
      rw [hip, Nat.add_sub_cancel, hi] at he
      cases he
      exact hplain
    refine ⟨fun h => ?_, fun _ he => ?_, fun _ he => ?_⟩
    · rw [hip] at h
      exact absurd h (Nat.succ_ne_zero _)
    · cases hbefore he
    · cases hbefore he
  | @loopEnd a b hab _ htape hip =>
    have hopen := hab.isOpen
    have hclose := hab.isClose
    rw [Array.getElem?_toList] at hopen hclose
    by_cases hcell : m.tape.cell = 0
    · rw [if_pos hcell] at hip
      refine ⟨fun h => absurd (hip.symm.trans h) (Nat.succ_ne_zero b), fun _ he => ?_, fun _ _ => ?_⟩
      · rw [hip, Nat.add_sub_cancel, hclose] at he
        cases he
      · rw [htape, hcell]
    · rw [if_neg hcell] at hip
      refine ⟨fun h => absurd (hip.symm.trans h) (Nat.succ_ne_zero a), fun _ _ => ?_, fun _ he => ?_⟩
      · rwa [htape]
      · rw [hip, Nat.add_sub_cancel, hopen] at he
        cases he

theorem Reachable.executes_poised (hp : Balanced p.instructions.toList) {start : σ} {s : σ}
    (h : Reachable p start m s) : m.Executes p ∧ Poised p m :=
  Reachable.keeps (P := fun m _ => m.Executes p ∧ Poised p m)
    (fun _ s hm => ⟨hm.1.step hp s, (hm.1.move hp s).poised hm.2⟩) h ⟨executes_start p, poised_start p⟩

/-! ### In and out of a loop -/

section Loop

variable {i j : Nat} (hij : Partners p.instructions.toList i j)

include hij

/-- From outside, the inside of a loop is reached behind its open. -/
theorem Move.enter (h : Move p m next) (hout : m.ip ∉ Set.Icc (i + 1) j) (hin : next.ip ∈ Set.Icc (i + 1) j) :
    m.ip = i := by
  rw [Set.mem_Icc] at hout hin
  cases h with
  | stay hip _ =>
    rw [hip] at hin
    exact absurd hin hout
  | goOn _ _ hip => omega
  | @loopEnd a b hab hends _ hip =>
    -- the loop end leads to a place beside one of its own pair
    have hnext : next.ip = a + 1 ∨ next.ip = b + 1 := by
      split at hip
      · exact .inr hip
      · exact .inl hip
    have := hab.lt
    have := hij.lt
    have := hab.same_or_nested_or_apart hij
    omega

/-- From inside, the outside of a loop is reached behind its close, on a zero cell. -/
theorem Move.leave (h : Move p m next) (hin : m.ip ∈ Set.Icc (i + 1) j) (hout : next.ip ∉ Set.Icc (i + 1) j) :
    m.ip = j ∧ next.ip = j + 1 ∧ m.tape.cell = 0 := by
  rw [Set.mem_Icc] at hout hin
  cases h with
  | stay hip _ =>
    rw [hip] at hout
    exact absurd hin hout
  | @goOn e he hplain hip =>
    have hclose := hij.isClose
    have hj : m.ip = j := by omega
    rw [Array.getElem?_toList, ← hj, he] at hclose
    cases hclose
    cases hplain
  | @loopEnd a b hab hends _ hip =>
    have := hab.lt
    have := hij.lt
    have := hab.same_or_nested_or_apart hij
    by_cases hcell : m.tape.cell = 0
    · rw [if_pos hcell] at hip
      exact ⟨by omega, by omega, hcell⟩
    · rw [if_neg hcell] at hip
      omega

end Loop

/-- In every state that calls on a machine can reach, whatever the streams do, the cell is not zero right behind an
open and zero right behind a close.  A step that leads into a loop comes from its open, and a step that leads out of it
leads from its close to what is behind it, on a zero cell. -/
theorem reachable_in_loops {source : String} (hsource : Program.parse source = .ok p) {start s : σ}
    (hreach : Reachable p start m s) :
    (0 < m.ip → p.instructions[m.ip - 1]? = some .loopOpen → m.tape.cell ≠ 0) ∧
      (0 < m.ip → p.instructions[m.ip - 1]? = some .loopClose → m.tape.cell = 0) ∧
      ∀ i j, Partners p.instructions.toList i j →
        (m.ip ∉ Set.Icc (i + 1) j → (m.step s).2.1.ip ∈ Set.Icc (i + 1) j → m.ip = i) ∧
          (m.ip ∈ Set.Icc (i + 1) j → (m.step s).2.1.ip ∉ Set.Icc (i + 1) j →
            m.ip = j ∧ (m.step s).2.1.ip = j + 1 ∧ m.tape.cell = 0) := by
  obtain ⟨-, -, -, hp⟩ := Program.parse_eq_ok_iff.1 hsource
  obtain ⟨hm, hpoised⟩ := hreach.executes_poised hp
  refine ⟨hpoised.behindOpen, hpoised.behindClose, fun i j hij => ?_⟩
  exact ⟨(hm.move hp s).enter hij, (hm.move hp s).leave hij⟩

/-- A loop in a loop, at the outer close, after a read that failed and was made again. -/
theorem reachable_in_loops_at_outer_close :
    let p : Program := ⟨#[.input, .loopOpen, .loopOpen, .decrement, .loopClose, .loopClose]⟩
    let script : Script := { reads := [.fail .wouldBlock, .byte 1] }
    let m : Machine := { start p with ip := 5, dispatched := 6 }
    let s : Script := { events := #[.flushed, .readCall, .flushed, .readCall] }
    Program.parse ",[[-]]" = .ok p ∧ Reachable p script m s ∧ Partners p.instructions.toList 1 5 ∧ m.tape.cell = 0 ∧
      m.ip ∈ Set.Icc 2 5 ∧ (m.step s).2.1.ip ∉ Set.Icc 2 5 ∧ (m.step s).2.1.ip = 6 := by
  intro p script m s
  have hparse : Program.parse ",[[-]]" = .ok p := by rfl
  have hreach : Reachable p script m s := ⟨[.run 9 {}, .run 9 { steps := some 5 }], by decide +kernel⟩
  have hends : Partners p.instructions.toList 1 5 := ⟨rfl, rfl, by decide, .loop (.plain rfl .nil) .nil⟩
  have hin : m.ip ∈ Set.Icc 2 5 := ⟨by decide, by decide⟩
  have hout : (m.step s).2.1.ip ∉ Set.Icc 2 5 := fun h => absurd h.2 (by decide)
  obtain ⟨-, hclose, hloop⟩ := reachable_in_loops hparse hreach
  obtain ⟨-, hnext, -⟩ := (hloop 1 5 hends).2 hin hout
  exact ⟨hparse, hreach, hends, hclose (by decide) rfl, hin, hout, hnext⟩

end TapeMachine.Machine
