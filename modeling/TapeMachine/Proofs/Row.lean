import TapeMachine.Machine
import TapeMachine.Tape.Edit

/-!
# Indices that can miss

A row holds the cells of a tape from its low end to its high end, and an index for the cursor.  Nothing keeps the index
inside the row, so it can miss when the cell under the cursor is read or written, and so can the index of a loop end in
a jump table.  `Machine.performOn?` performs an instruction on a row and has no answer once an index misses.

On the row of a tape, and with a jump table as long as the program, it always has the answer of `Machine.perform`
(`Machine.performOn?_row`).  In the same way `Row.edits?` has an answer as long as no edit misses; on the row of a tape
it always has one (`Tape.edits?_row`).
-/

namespace TapeMachine

structure Row where
  cells : List UInt8
  cursor : Nat

namespace Row

def read? (r : Row) : Option UInt8 := r.cells[r.cursor]?

def write? (value : UInt8) (r : Row) : Option Row :=
  if r.cursor < r.cells.length then some { r with cells := r.cells.set r.cursor value } else none

def advance (r : Row) : Row where
  cells := if r.cursor + 1 = r.cells.length then r.cells ++ [0] else r.cells
  cursor := r.cursor + 1

def retreat (r : Row) : Row where
  cells := if r.cursor = 0 then 0 :: r.cells else r.cells
  cursor := r.cursor - 1

/-- The row after an edit, unless the index misses. -/
def edit? (r : Row) : Tape.Edit → Option Row
  | .advance => some r.advance
  | .retreat => some r.retreat
  | .increment => do
    let cell ← r.read?
    r.write? (cell + 1)
  | .decrement => do
    let cell ← r.read?
    r.write? (cell - 1)
  | .write value => r.write? value

def edits? (r : Row) (es : List Tape.Edit) : Option Row := es.foldlM edit? r

end Row

namespace Tape

/-- The cells from the low end to the high end, and the place of the cursor in them. -/
def row (t : Tape) : Row := ⟨t.cells, t.cursor⟩

@[simp] theorem read?_row (t : Tape) : t.row.read? = some t.cell := t.getElem?_cells_cursor

@[simp] theorem write?_row (t : Tape) (value : UInt8) : t.row.write? value = some (t.write value).row := by
  have h : t.row.cursor < t.row.cells.length := by
    show t.cursor < t.cells.length
    rw [length_cells]
    exact t.cursor_lt_size
  rw [Row.write?, if_pos h, row, row, cells_write, cursor_write]

theorem row_advance (t : Tape) : t.advance.row = t.row.advance := by
  have h : t.above = [] ↔ t.row.cursor + 1 = t.row.cells.length := by
    show _ ↔ t.cursor + 1 = t.cells.length
    rw [length_cells, size, cursor, ← List.length_eq_zero_iff]
    omega
  rw [row, cells_advance, cursor_advance, Row.advance]
  by_cases hend : t.above = []
  · rw [if_pos hend, if_pos (h.1 hend)]
    rfl
  · rw [if_neg hend, if_neg (mt h.2 hend)]
    rfl

theorem row_retreat (t : Tape) : t.retreat.row = t.row.retreat := by
  have h : t.below = [] ↔ t.row.cursor = 0 := by
    show _ ↔ t.below.length = 0
    rw [List.length_eq_zero_iff]
  rw [row, cells_retreat, cursor_retreat, Row.retreat]
  by_cases hend : t.below = []
  · rw [if_pos hend, if_pos (h.1 hend)]
    rfl
  · rw [if_neg hend, if_neg (mt h.2 hend)]
    rfl

theorem edit?_row (t : Tape) (e : Edit) : t.row.edit? e = some (t.edit e).row := by
  cases e with
  | advance => rw [Row.edit?, ← row_advance]; rfl
  | retreat => rw [Row.edit?, ← row_retreat]; rfl
  | write value => exact t.write?_row value
  | _ =>
    simp only [Row.edit?, read?_row, Option.bind_eq_bind, Option.bind_some, write?_row]
    rfl

theorem edits?_row (t : Tape) (es : List Edit) : t.row.edits? es = some (t.edits es).row := by
  induction es generalizing t with
  | nil => rfl
  | cons e es ih =>
    rw [Row.edits?, List.foldlM_cons, edit?_row]
    exact ih (t.edit e)

end Tape

namespace Machine

variable {σ : Type} [Host σ]

def jumpOn? (m : Machine) (row : Row) (s : σ) : Option (Except RunError (Row × Nat) × σ) :=
  match m.jumps[m.ip]? with
  | none => none
  | some none => some (.error (.noPartner m.ip), s)
  | some (some target) => some (.ok (row, target + 1), Host.jumped m.ip target s)

/-- The row and the index after an instruction, unless an index misses. -/
def performOn? (m : Machine) (row : Row) (s : σ) : Instruction → Option (Except RunError (Row × Nat) × σ)
  | .advance => some (.ok (row.advance, m.ip + 1), s)
  | .retreat => some (.ok (row.retreat, m.ip + 1), s)
  | .increment => do
    let cell ← row.read?
    let row ← row.write? (cell + 1)
    some (.ok (row, m.ip + 1), s)
  | .decrement => do
    let cell ← row.read?
    let row ← row.write? (cell - 1)
    some (.ok (row, m.ip + 1), s)
  | .output => do
    let cell ← row.read?
    match Host.write cell s with
    | (.ok (), s) => some (.ok (row, m.ip + 1), s)
    | (.error cause, s) => some (.error (.io cause), s)
  | .input =>
    match Host.flush s with
    | (.error cause, s) => some (.error (.io cause), s)
    | (.ok (), s) =>
      match Host.read s with
      | (.error cause, s) => some (.error (.io cause), s)
      | (.ok none, s) => some (.ok (row, m.ip + 1), s)
      | (.ok (some byte), s) => do
        let row ← row.write? byte
        some (.ok (row, m.ip + 1), s)
  | .loopOpen => do
    let cell ← row.read?
    if cell = 0 then m.jumpOn? row s else some (.ok (row, m.ip + 1), s)
  | .loopClose => do
    let cell ← row.read?
    if cell = 0 then some (.ok (row, m.ip + 1), s) else m.jumpOn? row s

/-- The answer of an instruction with the tape laid out as a row. -/
def inRow (answer : Except RunError (Tape × Nat) × σ) : Except RunError (Row × Nat) × σ :=
  (answer.1.map fun (tape, ip) => (tape.row, ip), answer.2)

variable {m : Machine}

theorem jumpOn?_row (hip : m.ip < m.jumps.size) (s : σ) : m.jumpOn? m.tape.row s = some (inRow (m.jump s)) := by
  unfold jumpOn? jump JumpTable.partner?
  rw [Array.getElem?_eq_getElem hip]
  cases m.jumps[m.ip] <;> rfl

theorem performOn?_row (hip : m.ip < m.jumps.size) (s : σ) (i : Instruction) :
    m.performOn? m.tape.row s i = some (inRow (m.perform s i)) := by
  have hjump := jumpOn?_row hip s
  cases i with
  | advance =>
    simp only [performOn?, ← Tape.row_advance]
    rfl
  | retreat =>
    simp only [performOn?, ← Tape.row_retreat]
    rfl
  | increment =>
    simp only [performOn?, Tape.read?_row, Option.bind_eq_bind, Option.bind_some, Tape.write?_row]
    rfl
  | decrement =>
    simp only [performOn?, Tape.read?_row, Option.bind_eq_bind, Option.bind_some, Tape.write?_row]
    rfl
  | output =>
    simp only [performOn?, perform, Tape.read?_row, Option.bind_eq_bind, Option.bind_some]
    generalize Host.write m.tape.cell s = answer
    obtain ⟨_ | _, s⟩ := answer <;> rfl
  | input =>
    simp only [performOn?, perform, Tape.write?_row, Option.bind_eq_bind, Option.bind_some]
    generalize Host.flush s = answer
    obtain ⟨_ | _, s⟩ := answer
    · rfl
    · dsimp only
      generalize Host.read s = answer
      obtain ⟨_ | _ | _, s⟩ := answer <;> rfl
  | loopOpen =>
    simp only [performOn?, perform, Tape.read?_row, Option.bind_eq_bind, Option.bind_some, hjump]
    split <;> rfl
  | loopClose =>
    simp only [performOn?, perform, Tape.read?_row, Option.bind_eq_bind, Option.bind_some, hjump]
    split <;> rfl

end Machine

end TapeMachine
