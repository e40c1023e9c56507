import TapeMachine.Tape.Edit

/-!
# The tape as a strip without ends

A strip has a cell at every integer, all zero at first, and remembers the least and the greatest position the cursor
has been at.  The cells between these two are the row that a tape keeps.
-/

namespace TapeMachine

structure Strip where
  cell : Int → UInt8
  position : Int
  lowest : Int
  highest : Int

namespace Strip

/-- All zero, with the cursor at the origin. -/
def blank : Strip := ⟨fun _ => 0, 0, 0, 0⟩

/-- The byte under the cursor. -/
def here (s : Strip) : UInt8 := s.cell s.position

def moveTo (position : Int) (s : Strip) : Strip :=
  { s with position, lowest := min s.lowest position, highest := max s.highest position }

def put (value : UInt8) (s : Strip) : Strip :=
  { s with cell := fun p => if p = s.position then value else s.cell p }

def edit (s : Strip) : Tape.Edit → Strip
  | .advance => s.moveTo (s.position + 1)
  | .retreat => s.moveTo (s.position - 1)
  | .increment => s.put (s.here + 1)
  | .decrement => s.put (s.here - 1)
  | .write value => s.put value

def edits (s : Strip) (es : List Tape.Edit) : Strip := es.foldl edit s

/-- How many positions lie between the extremes, both included. -/
def width (s : Strip) : Nat := (s.highest - s.lowest).toNat + 1

/-- The bytes between the extremes, both included. -/
def row (s : Strip) : List UInt8 := (List.range s.width).map fun (k : Nat) => s.cell (s.lowest + k)

/-- How far the cursor is from the lowest position. -/
def offset (s : Strip) : Nat := (s.position - s.lowest).toNat

end Strip

end TapeMachine
