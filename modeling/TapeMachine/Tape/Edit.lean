import TapeMachine.Tape

/-!
# Edits of a tape

The changes a machine makes to its tape, one at a time, and a bench that keeps a second tape beside the one under
work.
-/

namespace TapeMachine.Tape

inductive Edit
  | advance
  | retreat
  | increment
  | decrement
  | write (value : UInt8)
deriving DecidableEq, Repr

def edit (t : Tape) : Edit → Tape
  | .advance => t.advance
  | .retreat => t.retreat
  | .increment => t.increment
  | .decrement => t.decrement
  | .write value => t.write value

def edits (t : Tape) (es : List Edit) : Tape := es.foldl edit t

/-- A tape under work and a saved one. -/
structure Bench where
  tape : Tape := fresh
  saved : Tape := fresh
deriving DecidableEq, Repr

namespace Bench

inductive Action
  /-- The same edit a number of times. -/
  | edit (count : Nat) (e : Edit)
  | save
  | restore
  /-- Compares the two tapes. -/
  | compare
deriving Repr

/-- The bench after an action, and the verdict of a comparison. -/
def act (b : Bench) : Action → Bench × Option Bool
  | .edit count e => ({ b with tape := b.tape.edits (List.replicate count e) }, none)
  | .save => ({ b with saved := b.tape }, none)
  | .restore => ({ b with tape := b.saved }, none)
  | .compare => (b, some (b.tape == b.saved))

/-- The tape after each action, with the verdict of each comparison. -/
def history (b : Bench) : List Action → List (Tape × Option Bool)
  | [] => []
  | a :: rest =>
    let (b, verdict) := b.act a
    (b.tape, verdict) :: history b rest

end Bench

end TapeMachine.Tape
