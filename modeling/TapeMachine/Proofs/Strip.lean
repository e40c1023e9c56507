import TapeMachine.Tape.Strip

/-!
# Tapes on strips

A tape lies on a strip without ends, its cursor on the strip's, if the two have the same byte at every distance from
the cursor and the ends of the tape are the extremes of the strip.  A fresh tape lies on a blank strip, and edits of
both keep it so (`Tape.LiesOn.edit`).
-/

namespace TapeMachine.Tape

/-- The byte at a distance from the cursor, zero beyond the ends. -/
def atDistance (t : Tape) : Int → UInt8
  | .ofNat 0 => t.cell
  | .ofNat (n + 1) => t.above.getD n 0
  | .negSucc n => t.below.getD n 0

theorem atDistance_advance (t : Tape) (d : Int) : t.advance.atDistance d = t.atDistance (d + 1) := by
  obtain ⟨below, cell, above⟩ := t
  rcases d with (_ | n) | (_ | n) <;> cases above <;> rfl

theorem atDistance_retreat (t : Tape) (d : Int) : t.retreat.atDistance d = t.atDistance (d - 1) := by
  obtain ⟨below, cell, above⟩ := t
  rcases d with (_ | _ | n) | n
  · cases below <;> rfl
  · cases below <;> rfl
  · rw [show Int.ofNat (n + 1 + 1) - 1 = Int.ofNat (n + 1) by simp only [Int.ofNat_eq_natCast]; omega]
    cases below <;> rfl
  · cases below <;> rfl

theorem atDistance_write (t : Tape) (value : UInt8) (d : Int) :
    (t.write value).atDistance d = if d = 0 then value else t.atDistance d := by
  rcases d with (_ | n) | n <;> rfl

/-- The tape is what the strip shows between its extremes, and beyond them the strip is zero. -/
structure LiesOn (t : Tape) (s : Strip) : Prop where
  cell_eq : ∀ d : Int, s.cell (s.position + d) = t.atDistance d
  lowest_eq : s.lowest = s.position - t.below.length
  highest_eq : s.highest = s.position + t.above.length

theorem liesOn_blank : fresh.LiesOn Strip.blank where
  cell_eq d := by rcases d with (_ | n) | n <;> rfl
  lowest_eq := rfl
  highest_eq := rfl

namespace LiesOn

variable {t : Tape} {s : Strip}

theorem here_eq (h : t.LiesOn s) : s.here = t.cell := by
  have := h.cell_eq 0
  rwa [Int.add_zero] at this

theorem advance (h : t.LiesOn s) : t.advance.LiesOn (s.moveTo (s.position + 1)) := by
  obtain ⟨hcell, hlow, hhigh⟩ := h
  have hcell' (d : Int) : s.cell (s.position + 1 + d) = t.advance.atDistance d := by
    rw [atDistance_advance, ← hcell, Int.add_assoc, Int.add_comm 1]
  obtain ⟨below, cell, above⟩ := t
  cases above with
  | nil =>
    refine ⟨hcell', ?_, ?_⟩
    · simp only [Strip.moveTo, Tape.advance, List.length_cons] at *
      omega
    · simp only [Strip.moveTo, Tape.advance, List.length_nil] at *
      omega
  | cons next above =>
    refine ⟨hcell', ?_, ?_⟩
    · simp only [Strip.moveTo, Tape.advance, List.length_cons] at *
      omega
    · simp only [Strip.moveTo, Tape.advance, List.length_cons] at *
      omega

theorem retreat (h : t.LiesOn s) : t.retreat.LiesOn (s.moveTo (s.position - 1)) := by
  obtain ⟨hcell, hlow, hhigh⟩ := h
  have hcell' (d : Int) : s.cell (s.position - 1 + d) = t.retreat.atDistance d := by
    rw [atDistance_retreat, ← hcell, show s.position - 1 + d = s.position + (d - 1) by omega]
  obtain ⟨below, cell, above⟩ := t
  cases below with
  | nil =>
    refine ⟨hcell', ?_, ?_⟩
    · simp only [Strip.moveTo, Tape.retreat, List.length_nil] at *
      omega
    · simp only [Strip.moveTo, Tape.retreat, List.length_cons] at *
      omega
  | cons next below =>
    refine ⟨hcell', ?_, ?_⟩
    · simp only [Strip.moveTo, Tape.retreat, List.length_cons] at *
      omega
    · simp only [Strip.moveTo, Tape.retreat, List.length_cons] at *
      omega

theorem put (h : t.LiesOn s) (value : UInt8) : (t.write value).LiesOn (s.put value) := by
  refine ⟨?_, h.lowest_eq, h.highest_eq⟩
  intro d
  rw [atDistance_write, ← h.cell_eq]
  show (if s.position + d = s.position then value else s.cell (s.position + d)) = _
  by_cases hd : d = 0
  · rw [if_pos hd, if_pos (by omega)]
  · rw [if_neg hd, if_neg (by omega)]

theorem edit (h : t.LiesOn s) (e : Edit) : (t.edit e).LiesOn (s.edit e) := by
  cases e with
  | advance => exact h.advance
  | retreat => exact h.retreat
  | increment =>
    show (t.write (t.cell + 1)).LiesOn (s.put (s.here + 1))
    rw [h.here_eq]
    exact h.put _
  | decrement =>
    show (t.write (t.cell - 1)).LiesOn (s.put (s.here - 1))
    rw [h.here_eq]
    exact h.put _
  | write value => exact h.put value

end LiesOn

end TapeMachine.Tape
