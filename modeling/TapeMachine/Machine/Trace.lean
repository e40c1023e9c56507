import TapeMachine.Machine

/-!
# Traces

What can be seen of a machine after each step.
-/

namespace TapeMachine

structure Snapshot where
  ip : Nat
  cursor : Nat
  size : Nat
  cell : UInt8
deriving DecidableEq, Repr

namespace Machine

variable {σ : Type} [Host σ]

def snapshot (m : Machine) : Snapshot := ⟨m.ip, m.tape.cursor, m.tape.size, m.tape.cell⟩

/-- Dispatches up to `count` instructions and adds what is seen after each; ends early once the program has finished
or an instruction fails. -/
def traceOnto (seen : Array Snapshot) : (count : Nat) → Machine → σ → Array Snapshot × Machine × σ
  | 0, m, s => (seen, m, s)
  | count + 1, m, s =>
    match m.step s with
    | (.ok true, m, s) => traceOnto (seen.push m.snapshot) count m s
    | (_, m, s) => (seen, m, s)

def trace (count : Nat) (m : Machine) (s : σ) : Array Snapshot × Machine × σ := traceOnto #[] count m s

end Machine

end TapeMachine
