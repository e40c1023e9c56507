import TapeMachine.Machine
import TapeMachine.Stream.Pipe

/-!
# Runs

A run dispatches instructions until the program has finished, a step budget is used up or a cancel flag is set; in
this order they are looked at before every instruction.  A run that fails ends with the failure.  Since a program need
not halt, `Machine.runFor` takes the number of instructions it may dispatch before it answers that the run still goes
on; the machine it returns can be run further.
-/

namespace TapeMachine

/-- Why a run ended. -/
inductive Halt
  | finished
  | stepLimit
  | cancelled
deriving DecidableEq, Repr

/-- The end of a run, with the step counter of the machine, which counts through all its runs. -/
structure Outcome where
  halt : Halt
  steps : Nat
deriving DecidableEq, Repr

/-- Bounds on a run. -/
structure Limits (σ : Type) where
  /-- How many instructions may be dispatched. -/
  steps : Option Nat := none
  /-- The cancel flag, if there is one: whether it is set after a number of instructions, in a state of the host. -/
  cancel : Option (Nat → σ → Bool) := none

namespace Machine

variable {σ : Type} [Host σ]

/-- The step count at which a run that starts now stops. -/
def budget (m : Machine) (limits : Limits σ) : Option Nat := limits.steps.map (Counter.add m.steps)

/-- Why a run does not go on, if it does not. -/
def halt? (budget : Option Nat) (cancel : Option (Nat → σ → Bool)) (m : Machine) (s : σ) : Option Halt :=
  if m.isFinished then some .finished
  else if budget.any (· ≤ m.steps) then some .stepLimit
  else if cancel.any fun flag => flag m.dispatched s then some .cancelled
  else none

/-- At most `fuel` instructions of a run with a fixed budget, and its end if that comes first. -/
def runUntil (budget : Option Nat) (cancel : Option (Nat → σ → Bool)) :
    (fuel : Nat) → Machine → σ → Option (Except RunError Halt) × Machine × σ
  | 0, m, s => ((halt? budget cancel m s).map .ok, m, s)
  | fuel + 1, m, s =>
    match halt? budget cancel m s with
    | some halt => (some (.ok halt), m, s)
    | none =>
      match m.step s with
      | (.ok _, m, s) => runUntil budget cancel fuel m s
      | (.error cause, m, s) => (some (.error cause), m, s)

theorem runUntil_of_halt {budget : Option Nat} {cancel : Option (Nat → σ → Bool)} {m : Machine} {s : σ} {halt : Halt}
    (h : halt? budget cancel m s = some halt) (fuel : Nat) :
    runUntil budget cancel fuel m s = (some (.ok halt), m, s) := by
  cases fuel with
  | zero => rw [runUntil, h]; rfl
  | succ fuel => rw [runUntil, h]

theorem runUntil_succ {budget : Option Nat} {cancel : Option (Nat → σ → Bool)} {m m' : Machine} {s s' : σ}
    {dispatched : Bool} (h : halt? budget cancel m s = none) (hstep : m.step s = (.ok dispatched, m', s'))
    (fuel : Nat) : runUntil budget cancel (fuel + 1) m s = runUntil budget cancel fuel m' s' := by
  rw [runUntil, h, hstep]

/-- At most `fuel` instructions of a run, and its end if that comes first. -/
def runFor (fuel : Nat) (limits : Limits σ) (m : Machine) (s : σ) :
    Option (Except RunError Outcome) × Machine × σ :=
  match runUntil (m.budget limits) limits.cancel fuel m s with
  | (ended, m, s) => (ended.map fun result => result.map fun halt => ⟨halt, m.steps⟩, m, s)

end Machine

namespace Program

/-- What a program prints without input and without bounds, if it ends within `fuel` instructions. -/
def execute (fuel : Nat) (p : Program) : Option (Except RunError (Array UInt8)) :=
  match (Machine.start p).runFor fuel {} ({} : Pipe) with
  | (ended, _, pipe) => ended.map fun result => result.map fun _ => pipe.written

end Program

end TapeMachine
