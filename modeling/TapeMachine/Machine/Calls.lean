import TapeMachine.Machine.Run

/-!
# Calls on a machine

A machine is driven by single steps and by runs.  `Machine.calls` makes a list of calls and collects the failures;
what it reaches is all that can be reached from outside.
-/

namespace TapeMachine

inductive Call (σ : Type)
  | step
  /-- A run, broken off after some number of instructions if it goes on for longer. -/
  | run (fuel : Nat) (limits : Limits σ)

namespace Machine

variable {σ : Type} [Host σ]

/-- The machine and the host after a call, and its failure. -/
def call (m : Machine) (s : σ) : Call σ → Option RunError × Machine × σ
  | .step =>
    match m.step s with
    | (.ok _, m, s) => (none, m, s)
    | (.error cause, m, s) => (some cause, m, s)
  | .run fuel limits =>
    match m.runFor fuel limits s with
    | (some (.error cause), m, s) => (some cause, m, s)
    | (_, m, s) => (none, m, s)

/-- The machine and the host after some calls, and their failures in order. -/
def calls (m : Machine) (s : σ) : List (Call σ) → List RunError × Machine × σ
  | [] => ([], m, s)
  | c :: rest =>
    match m.call s c with
    | (failure, m, s) =>
      match m.calls s rest with
      | (failures, m, s) => (failure.toList ++ failures, m, s)

/-- Some calls lead from the start of a program to a machine and a host. -/
def Reachable (p : Program) (start : σ) (m : Machine) (s : σ) : Prop :=
  ∃ cs : List (Call σ), ((Machine.start p).calls start cs).2 = (m, s)

/-- The machine and the host after a number of steps, failed ones included. -/
def after (m : Machine) (s : σ) : Nat → Machine × σ
  | 0 => (m, s)
  | n + 1 =>
    match m.step s with
    | (_, m, s) => m.after s n

/-- The answers of a number of steps, in order. -/
def answers (m : Machine) (s : σ) : Nat → List (Except RunError Bool)
  | 0 => []
  | n + 1 =>
    match m.step s with
    | (answer, m, s) => answer :: m.answers s n

end Machine

end TapeMachine
