import TapeMachine.Proofs.Pipe
import TapeMachine.Proofs.Row
import TapeMachine.Stream.Script

/-!
# No internal failure

What a machine looks up is always there.  In every state that calls on a machine can reach, whatever the streams, the
limits and the cancel flags do, the index is in the program or at its end, the next step does not miss the partner of
a loop end, and no index misses (`reachable_safe`).  A program that is executed without input ends well if it ends.
-/

namespace TapeMachine.Machine

theorem exists_ok_of_execute {p : Program} (hp : Balanced p.instructions.toList) {fuel : Nat}
    {result : Except RunError (Array UInt8)} (h : p.execute fuel = some result) : ∃ bytes, result = .ok bytes :=
  ⟨_, ((execute_eq_some_iff hp).1 h).2⟩

theorem reachable_safe {σ : Type} [Host σ] {source : String} {p : Program} (hsource : Program.parse source = .ok p) :
    (∀ {start : σ} {m : Machine} {s : σ}, Reachable p start m s →
      m.ip ≤ p.size ∧ m.jumps.size = p.size ∧ m.tape.cursor < m.tape.size ∧
        (∀ ip, (m.step s).1 ≠ .error (.noPartner ip)) ∧
        ∀ i, p.instructions[m.ip]? = some i → m.performOn? m.tape.row s i = some (inRow (m.perform s i))) ∧
      ∀ fuel result, p.execute fuel = some result → ∃ bytes, result = .ok bytes := by
  obtain ⟨-, -, -, hp⟩ := Program.parse_eq_ok_iff.1 hsource
  constructor
  · intro start m s hreach
    have hm := hreach.executes hp
    refine ⟨hm.ip_le, hm.size_jumps, m.tape.cursor_lt_size, hm.step_ne_noPartner hp s, ?_⟩
    intro i hi
    apply performOn?_row
    rw [hm.size_jumps]
    exact (Array.getElem?_eq_some_iff.1 hi).1
  · intro fuel result h
    exact exists_ok_of_execute hp h

/-- At the close of a loop, after a write that was refused and the same write made again. -/
theorem reachable_safe_after_refused_write :
    Program.parse "+[.]" = .ok ⟨#[.increment, .loopOpen, .output, .loopClose]⟩ ∧
      Reachable ⟨#[.increment, .loopOpen, .output, .loopClose]⟩ ({ writes := [.fail .brokenPipe] } : Script)
        { start ⟨#[.increment, .loopOpen, .output, .loopClose]⟩ with
          tape := Tape.fresh.increment, ip := 3, dispatched := 4 }
        { events := #[.accepted 1], accepted := 1 } ∧
      (({ start ⟨#[.increment, .loopOpen, .output, .loopClose]⟩ with
        tape := Tape.fresh.increment, ip := 3, dispatched := 4 } : Machine).step
          ({ events := #[.accepted 1], accepted := 1 } : Script)).1 ≠ .error (.noPartner 3) := by
  have hparse : Program.parse "+[.]" = .ok ⟨#[.increment, .loopOpen, .output, .loopClose]⟩ := by rfl
  have hreach : Reachable ⟨#[.increment, .loopOpen, .output, .loopClose]⟩ ({ writes := [.fail .brokenPipe] } : Script)
      { start ⟨#[.increment, .loopOpen, .output, .loopClose]⟩ with
        tape := Tape.fresh.increment, ip := 3, dispatched := 4 }
      { events := #[.accepted 1], accepted := 1 } := ⟨[.run 9 { steps := some 3 }, .step], by rfl⟩
  obtain ⟨-, -, -, hsafe, -⟩ := (reachable_safe hparse).1 hreach
  exact ⟨hparse, hreach, hsafe 3⟩

end TapeMachine.Machine
