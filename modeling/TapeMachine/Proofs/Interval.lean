import Mathlib.Data.List.Induction
import Mathlib.Order.Bounds.Basic
import TapeMachine.Proofs.Row
import TapeMachine.Proofs.Strip

/-!
# The visited interval

A tape is the part of a strip without ends that the cursor has visited.  If a fresh tape and a blank strip are edited
in the same way, the cells of the tape are those of the strip between the extremes, which are the least and the
greatest position visited, and its cursor is as far from the low end as the strip's is from the least position.  So
the place of the origin is all that a tape does not show: two tapes are equal if their strips are translations of each
other between the extremes (`Tape.edits_fresh`).
-/

namespace TapeMachine

namespace Strip

/-- Some of the edits, done on a blank strip, lead the cursor to a position. -/
def Visits (es : List Tape.Edit) (p : Int) : Prop := ∃ done, done <+: es ∧ (blank.edits done).position = p

/-- The second strip is the first one, moved by a distance, as far as the cursors have visited them. -/
structure Translated (s s' : Strip) (distance : Int) : Prop where
  lowest_eq : s'.lowest = s.lowest + distance
  highest_eq : s'.highest = s.highest + distance
  position_eq : s'.position = s.position + distance
  cell_eq : ∀ p, s.lowest ≤ p → p ≤ s.highest → s'.cell (p + distance) = s.cell p

theorem edits_concat (s : Strip) (es : List Tape.Edit) (e : Tape.Edit) :
    s.edits (es ++ [e]) = (s.edits es).edit e := by
  simp [edits]

theorem setOf_visits_concat (es : List Tape.Edit) (e : Tape.Edit) :
    {p | Visits (es ++ [e]) p} = insert ((blank.edits es).edit e).position {p | Visits es p} := by
  ext p
  show Visits (es ++ [e]) p ↔ p = ((blank.edits es).edit e).position ∨ Visits es p
  simp only [Visits, List.prefix_concat_iff, or_and_right, exists_or, exists_eq_left, edits_concat, eq_comm]

/-- An edit takes note of the position that it leads to. -/
theorem extremes_edit {s : Strip} (hlow : s.lowest ≤ s.position) (hhigh : s.position ≤ s.highest) (e : Tape.Edit) :
    (s.edit e).lowest = min (s.edit e).position s.lowest ∧
      (s.edit e).highest = max (s.edit e).position s.highest := by
  cases e with
  | advance => exact ⟨Int.min_comm _ _, Int.max_comm _ _⟩
  | retreat => exact ⟨Int.min_comm _ _, Int.max_comm _ _⟩
  | _ => exact ⟨(Int.min_eq_right hlow).symm, (Int.max_eq_right hhigh).symm⟩

/-- The extremes are the least and the greatest position visited. -/
theorem extremes_edits_blank (es : List Tape.Edit) :
    IsLeast {p | Visits es p} (blank.edits es).lowest ∧ IsGreatest {p | Visits es p} (blank.edits es).highest := by
  induction es using List.reverseRecOn with
  | nil =>
    have horigin : {p | Visits [] p} = {0} := by
      ext p
      simp [Visits, edits, blank, eq_comm]
    rw [horigin]
    exact ⟨isLeast_singleton, isGreatest_singleton⟩
  | append_singleton es e ih =>
    obtain ⟨hleast, hgreatest⟩ := ih
    have hhere : Visits es (blank.edits es).position := ⟨es, List.prefix_refl es, rfl⟩
    obtain ⟨hlowest, hhighest⟩ := extremes_edit (hleast.2 hhere) (hgreatest.2 hhere) e
    rw [setOf_visits_concat, edits_concat, hlowest, hhighest]
    exact ⟨hleast.insert _, hgreatest.insert _⟩

@[simp] theorem length_row (s : Strip) : s.row.length = s.width := by
  simp [row]

theorem getElem?_row {s : Strip} {k : Nat} (hk : k < s.width) : s.row[k]? = some (s.cell (s.lowest + k)) := by
  simp [row, hk]

end Strip

namespace Tape

/-- The cells from the low end on, counted from the cursor. -/
theorem getElem?_cells {t : Tape} {k : Nat} (hk : k < t.size) :
    t.cells[k]? = some (t.atDistance (k - t.cursor)) := by
  obtain ⟨below, cell, above⟩ := t
  simp only [cells, cursor, size] at hk ⊢
  rcases Nat.lt_trichotomy k below.length with h | rfl | h
  · rw [List.getElem?_append_left (by simpa using h), List.getElem?_reverse h,
      show (k : Int) - below.length = .negSucc (below.length - 1 - k) by omega]
    simp [atDistance, List.getD_eq_getElem?_getD, show below.length - 1 - k < below.length by omega]
  · simp [atDistance]
  · obtain ⟨n, rfl⟩ : ∃ n, k = below.length + (n + 1) := ⟨k - below.length - 1, by omega⟩
    rw [List.getElem?_append_right (by simp), show ((below.length + (n + 1) : Nat) : Int) - below.length =
      .ofNat (n + 1) by simp only [Int.ofNat_eq_natCast]; omega]
    simp [atDistance, List.getD_eq_getElem?_getD, show n < above.length by omega]

theorem atDistance_of_lt {t : Tape} {d : Int} (hd : d < -t.below.length) : t.atDistance d = 0 := by
  rcases d with n | n
  · simp only [Int.ofNat_eq_natCast] at hd
    omega
  · rw [Int.negSucc_eq] at hd
    simp [atDistance, List.getD_eq_getElem?_getD, show t.below.length ≤ n by omega]

theorem atDistance_of_gt {t : Tape} {d : Int} (hd : t.above.length < d) : t.atDistance d = 0 := by
  rcases d with (_ | n) | n
  · simp only [Int.ofNat_eq_natCast] at hd
    omega
  · simp only [Int.ofNat_eq_natCast] at hd
    simp [atDistance, List.getD_eq_getElem?_getD, show t.above.length ≤ n by omega]
  · rw [Int.negSucc_eq] at hd
    omega

namespace LiesOn

variable {t t' : Tape} {s s' : Strip}

theorem edits (h : t.LiesOn s) (es : List Edit) : (t.edits es).LiesOn (s.edits es) := by
  induction es generalizing t s with
  | nil => exact h
  | cons e es ih => exact ih (h.edit e)

theorem size_eq (h : t.LiesOn s) : (t.size : Int) = s.highest - s.lowest + 1 := by
  rw [h.lowest_eq, h.highest_eq, size]
  omega

theorem cursor_eq (h : t.LiesOn s) : (t.cursor : Int) = s.position - s.lowest := by
  rw [h.lowest_eq, cursor]
  omega

theorem cells_eq (h : t.LiesOn s) : t.cells = s.row := by
  have hwidth : s.width = t.size := by
    rw [Strip.width, h.lowest_eq, h.highest_eq, size]
    omega
  apply List.ext_getElem?
  intro k
  by_cases hk : k < t.size
  · rw [getElem?_cells hk, Strip.getElem?_row (hwidth ▸ hk), ← h.cell_eq, h.cursor_eq,
      show s.position + (k - (s.position - s.lowest)) = s.lowest + k by omega]
  · rw [List.getElem?_eq_none (by simpa using hk), List.getElem?_eq_none (by simpa [hwidth] using hk)]

theorem row_eq (h : t.LiesOn s) : t.row = ⟨s.row, s.offset⟩ := by
  have hoffset : t.cursor = s.offset := by
    have := h.cursor_eq
    rw [Strip.offset]
    omega
  rw [row, h.cells_eq, hoffset]

theorem cell_eq_zero (h : t.LiesOn s) {p : Int} (hp : p < s.lowest ∨ s.highest < p) : s.cell p = 0 := by
  rw [show p = s.position + (p - s.position) by omega, h.cell_eq]
  rw [h.lowest_eq, h.highest_eq] at hp
  rcases hp with hp | hp
  · exact atDistance_of_lt (by omega)
  · exact atDistance_of_gt (by omega)

theorem translated_of_eq (h : t.LiesOn s) (h' : t.LiesOn s') :
    s.Translated s' (s'.position - s.position) := by
  refine ⟨?_, ?_, by omega, ?_⟩
  · rw [h.lowest_eq, h'.lowest_eq]
    omega
  · rw [h.highest_eq, h'.highest_eq]
    omega
  · intro p _ _
    have := h'.cell_eq (p - s.position)
    rw [← h.cell_eq] at this
    rw [show p + (s'.position - s.position) = s'.position + (p - s.position) by omega, this,
      show s.position + (p - s.position) = p by omega]

theorem eq_of_translated (h : t.LiesOn s) (h' : t'.LiesOn s') {d : Int} (hd : s.Translated s' d) : t = t' := by
  have hsize : t.size = t'.size := by
    have hhighest := hd.highest_eq
    have hlowest := hd.lowest_eq
    have := h.size_eq
    have := h'.size_eq
    omega
  have hcursor : t.cursor = t'.cursor := by
    have hposition := hd.position_eq
    have hlowest := hd.lowest_eq
    have := h.cursor_eq
    have := h'.cursor_eq
    omega
  refine ext_cells ?_ hcursor
  apply List.ext_getElem?
  intro k
  by_cases hk : k < t.size
  · have hinside : s.lowest + k ≤ s.highest := by
      have := h.size_eq
      omega
    have hcell := hd.cell_eq (s.lowest + k) (by omega) hinside
    rw [show s.lowest + k + d = s'.position + (k - t.cursor) by
        have := hd.position_eq
        have := h.cursor_eq
        omega,
      show s.lowest + k = s.position + (k - t.cursor) by
        have := h.cursor_eq
        omega, h.cell_eq, h'.cell_eq] at hcell
    rw [getElem?_cells hk, getElem?_cells (hsize ▸ hk), ← hcursor, hcell]
  · rw [List.getElem?_eq_none (by simpa using hk), List.getElem?_eq_none (by simpa [← hsize] using hk)]

end LiesOn

/-- What edits make of a fresh tape is what they make of a blank strip between the positions visited, and so it is for
a row that is edited through an index into it.  That, with the distance of the cursor from the least position, is all
that decides whether two tapes are equal. -/
theorem edits_fresh (es : List Edit) :
    let t := fresh.edits es
    let s := Strip.blank.edits es
    (IsLeast {p | Strip.Visits es p} s.lowest ∧ IsGreatest {p | Strip.Visits es p} s.highest) ∧
      (t.size : Int) = s.highest - s.lowest + 1 ∧ (t.cursor : Int) = s.position - s.lowest ∧ t.cells = s.row ∧
      (∀ p, p < s.lowest ∨ s.highest < p → s.cell p = 0) ∧ t.cell = s.here ∧
      Row.edits? ⟨[0], 0⟩ es = some ⟨s.row, s.offset⟩ ∧
      ∀ es', (t == fresh.edits es') = true ↔ ∃ d, s.Translated (Strip.blank.edits es') d := by
  intro t s
  have h : t.LiesOn s := liesOn_blank.edits es
  refine ⟨Strip.extremes_edits_blank es, h.size_eq, h.cursor_eq, h.cells_eq, fun p => h.cell_eq_zero,
    h.here_eq.symm, (edits?_row fresh es).trans (congrArg some h.row_eq), ?_⟩
  intro es'
  have h' : (fresh.edits es').LiesOn (Strip.blank.edits es') := liesOn_blank.edits es'
  rw [beq_iff_eq]
  constructor
  · intro heq
    rw [← heq] at h'
    exact ⟨_, h.translated_of_eq h'⟩
  · rintro ⟨d, hd⟩
    exact h.eq_of_translated h' hd

-- the same tape, with the origin on either of its two cells
example : fresh.edits [.retreat, .write 5] = fresh.edits [.write 5, .advance, .retreat] := by decide

end Tape

end TapeMachine
