import TapeMachine.Machine.Run
import TapeMachine.Stream.Script

/-!
# Sessions

One machine on scripted streams, driven by a list of requests: a single step, a run with limits, or a look.  Every
request is answered with its result, the machine after it and what happened on the streams meanwhile.
-/

namespace TapeMachine

namespace Session

inductive Request
  | step
  /-- A run.  It has a cancel flag if `cancel`, its first value, is given, or `cancelAfter`, the number of writes of
  this run after which the flag is set. -/
  | run (steps : Option Nat) (cancel : Option Bool) (cancelAfter : Option Nat)
  | look
deriving DecidableEq, Repr

inductive Result
  | stepped (dispatched : Bool)
  | ended (outcome : Outcome)
  | failed (cause : RunError)
  | looked
deriving DecidableEq, Repr

structure Answer where
  result : Result
  machine : Machine
  /-- What happened on the streams since the answer before. -/
  events : List StreamEvent
deriving DecidableEq, Repr

/-- The flag is set from the start if `first` says so, and once the writes accepted since a count of `before` are
`after` many; the first write sets it at the earliest. -/
def isCancelled (first : Bool) (after : Option Nat) (before : Nat) (s : Script) : Bool :=
  first || after.any fun n => before + max n 1 ≤ s.accepted

/-- The limits of a run that starts in a state of the streams. -/
def limits (steps : Option Nat) (cancel : Option Bool) (cancelAfter : Option Nat) (s : Script) : Limits Script where
  steps := steps
  cancel :=
    if cancel.isSome || cancelAfter.isSome then
      some fun _ now => isCancelled (cancel.getD false) cancelAfter s.accepted now
    else none

/-- The result of a request, unless a run goes on for more than `fuel` instructions. -/
def perform (fuel : Nat) (m : Machine) (s : Script) : Request → Option Result × Machine × Script
  | .look => (some .looked, m, s)
  | .step =>
    match m.step s with
    | (.ok dispatched, m, s) => (some (.stepped dispatched), m, s)
    | (.error cause, m, s) => (some (.failed cause), m, s)
  | .run steps cancel cancelAfter =>
    match m.runFor fuel (limits steps cancel cancelAfter s) s with
    | (some (.ok outcome), m, s) => (some (.ended outcome), m, s)
    | (some (.error cause), m, s) => (some (.failed cause), m, s)
    | (none, m, s) => (none, m, s)

/-- The answers to the requests in order, up to the first run that goes on for more than `fuel` instructions. -/
def answers (fuel : Nat) (m : Machine) (s : Script) : List Request → List Answer
  | [] => []
  | request :: rest =>
    match perform fuel m s request with
    | (none, _, _) => []
    | (some result, m', s') =>
      ⟨result, m', (s'.events.extract s.events.size).toList⟩ :: answers fuel m' s' rest

end Session

end TapeMachine
