/-!
# The tape

A row of byte cells with a cursor on one of them.  It starts as a single zero cell and grows by one zero cell
whenever the cursor leaves it at either end.  The cells on the two sides of the cursor are kept nearest first;
`Tape.cells` is the row from its low end to its high end, and `Tape.cursor` the place of the cursor in it.
-/

namespace TapeMachine

structure Tape where
  /-- The cells below the cursor, nearest first. -/
  below : List UInt8
  /-- The cell under the cursor. -/
  cell : UInt8
  /-- The cells above the cursor, nearest first. -/
  above : List UInt8
deriving DecidableEq, Repr

namespace Tape

/-- One zero cell. -/
def fresh : Tape := ⟨[], 0, []⟩

def cells (t : Tape) : List UInt8 := t.below.reverse ++ t.cell :: t.above

def cursor (t : Tape) : Nat := t.below.length

def size (t : Tape) : Nat := t.below.length + 1 + t.above.length

def write (value : UInt8) (t : Tape) : Tape := { t with cell := value }

/-- Wraps from 255 to 0. -/
def increment (t : Tape) : Tape := { t with cell := t.cell + 1 }

/-- Wraps from 0 to 255. -/
def decrement (t : Tape) : Tape := { t with cell := t.cell - 1 }

def advance (t : Tape) : Tape :=
  match t.above with
  | [] => ⟨t.cell :: t.below, 0, []⟩
  | next :: above => ⟨t.cell :: t.below, next, above⟩

def retreat (t : Tape) : Tape :=
  match t.below with
  | [] => ⟨[], 0, t.cell :: t.above⟩
  | next :: below => ⟨below, next, t.cell :: t.above⟩

/-! ### The row and the place in it -/

@[simp] theorem length_cells (t : Tape) : t.cells.length = t.size := by
  simp only [cells, size, List.length_append, List.length_reverse, List.length_cons]
  omega

theorem cursor_lt_size (t : Tape) : t.cursor < t.size := by
  simp only [cursor, size]
  omega

theorem getElem?_cells_cursor (t : Tape) : t.cells[t.cursor]? = some t.cell := by
  simp [cells, cursor]

/-- The row and the place in it say all there is about a tape. -/
theorem ext_cells {t u : Tape} (hcells : t.cells = u.cells) (hcursor : t.cursor = u.cursor) : t = u := by
  obtain ⟨tb, tc, ta⟩ := t
  obtain ⟨ub, uc, ua⟩ := u
  simp only [cells, cursor] at hcells hcursor
  obtain ⟨hb, hc⟩ := List.append_inj hcells (by simpa using hcursor)
  simp only [List.reverse_inj, List.cons.injEq] at hb hc
  simp [hb, hc]

@[simp] theorem cursor_write (value : UInt8) (t : Tape) : (t.write value).cursor = t.cursor := rfl

theorem cells_write (value : UInt8) (t : Tape) : (t.write value).cells = t.cells.set t.cursor value := by
  simp only [write, cells, cursor]
  rw [List.set_append_right _ _ (by simp)]
  simp

@[simp] theorem cursor_advance (t : Tape) : t.advance.cursor = t.cursor + 1 := by
  unfold advance cursor
  split <;> rfl

/-- Past the high end there is a new zero cell. -/
theorem cells_advance (t : Tape) : t.advance.cells = if t.above = [] then t.cells ++ [0] else t.cells := by
  unfold advance cells
  split
  · rename_i h
    simp [h]
  · rename_i h
    simp [h]

@[simp] theorem cursor_retreat (t : Tape) : t.retreat.cursor = t.cursor - 1 := by
  unfold retreat cursor
  split
  · rename_i h
    simp [h]
  · rename_i h
    simp [h]

/-- Past the low end there is a new zero cell. -/
theorem cells_retreat (t : Tape) : t.retreat.cells = if t.below = [] then 0 :: t.cells else t.cells := by
  unfold retreat cells
  split
  · rename_i h
    simp [h]
  · rename_i h
    simp [h]

end Tape

end TapeMachine
