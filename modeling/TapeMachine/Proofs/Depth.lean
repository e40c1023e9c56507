import Mathlib.Data.List.Basic
import Mathlib.Data.Prod.Basic
import TapeMachine.Program
import TapeMachine.Proofs.Partners

/-!
# Loop depths

`Program.depthAfter` keeps the depth over a balanced word (`depthAfter_of_balanced`).  Of a word that can be read to
its end it counts the open loops (`depthAfter_of_opens`); at a close behind a balanced word it stops
(`depthAfter_of_close`).  So a word is balanced if and only if the depth is zero again at its end, and a balanced part
of it can be left out (`Balanced.append_append_iff`).
-/

namespace TapeMachine

namespace Program

/-- An instruction that is no loop end keeps the depth. -/
theorem depthAfter_plain {i : Instruction} (hi : i.isPlain = true) (depth position : Nat)
    (rest : List (Instruction × Nat)) : depthAfter depth ((i, position) :: rest) = depthAfter depth rest := by
  cases i <;> first | rfl | cases hi

/-- The depth after the first of two parts is the depth before the second. -/
theorem depthAfter_append (depth : Nat) (v w : List (Instruction × Nat)) :
    depthAfter depth (v ++ w) = (depthAfter depth v).bind fun depth' => depthAfter depth' w := by
  fun_induction depthAfter depth v with
  | case1 depth => rfl
  | case2 depth position rest ih => exact ih
  | case3 position rest => rfl
  | case4 position rest outer ih => exact ih
  | case5 depth x rest hopen hclose ih =>
    obtain ⟨i, position⟩ := x
    have hi : i.isPlain = true := by
      rw [Instruction.isPlain_iff]
      exact ⟨fun h => hopen position (by rw [h]), fun h => hclose position (by rw [h])⟩
    rw [List.cons_append, depthAfter_plain hi]
    exact ih

theorem depthAfter_of_balanced {v : List (Instruction × Nat)} (h : Balanced (v.map Prod.fst)) (depth : Nat) :
    depthAfter depth v = .ok depth := by
  generalize hw : v.map Prod.fst = w at h
  induction h generalizing v depth with
  | nil =>
    rw [List.map_eq_nil_iff] at hw
    subst hw
    rfl
  | plain hi _ ih =>
    obtain ⟨⟨i, position⟩, v, rfl, rfl, hv⟩ := List.map_eq_cons_iff.1 hw
    rw [depthAfter_plain hi, ih depth hv]
  | loop _ _ ihb ihr =>
    obtain ⟨⟨_, start⟩, u, rfl, rfl, hu⟩ := List.map_eq_cons_iff.1 hw
    obtain ⟨body, u, rfl, hbody, hu⟩ := List.map_eq_append_iff.1 hu
    obtain ⟨⟨_, stop⟩, rest, rfl, rfl, hrest⟩ := List.map_eq_cons_iff.1 hu
    show depthAfter (depth + 1) (body ++ _) = _
    rw [depthAfter_append, ihb (depth + 1) hbody]
    show depthAfter depth rest = _
    exact ihr depth hrest

/-- The depth counts the open loops. -/
theorem depthAfter_of_opens {v : List (Instruction × Nat)} {opens : List Nat}
    (h : Opens Balanced (v.map Prod.fst) opens) : depthAfter 0 v = .ok opens.length := by
  generalize hw : v.map Prod.fst = w at h
  induction h generalizing v with
  | base h => exact depthAfter_of_balanced (hw ▸ h) 0
  | loop _ hbody ih =>
    obtain ⟨u, v, rfl, hu, hv⟩ := List.map_eq_append_iff.1 hw
    obtain ⟨⟨_, start⟩, body, rfl, rfl, rfl⟩ := List.map_eq_cons_iff.1 hv
    rw [depthAfter_append, ih hu]
    exact depthAfter_of_balanced hbody _

/-- A close behind a balanced word ends the count. -/
theorem depthAfter_of_close {v : List (Instruction × Nat)} (h : Balanced (v.map Prod.fst)) (position : Nat)
    (rest : List (Instruction × Nat)) : depthAfter 0 (v ++ (.loopClose, position) :: rest) = .error position := by
  rw [depthAfter_append, depthAfter_of_balanced h 0]
  rfl

theorem balanced_iff_depthAfter_eq {v : List (Instruction × Nat)} :
    Balanced (v.map Prod.fst) ↔ depthAfter 0 v = .ok 0 := by
  refine ⟨fun h => depthAfter_of_balanced h 0, fun h => ?_⟩
  rcases exists_opens_or_balanced_take (v.map Prod.fst) with ⟨opens, hopens⟩ | ⟨i, hclose, hbefore⟩
  · rw [depthAfter_of_opens hopens, Except.ok.injEq, List.length_eq_zero_iff] at h
    subst h
    exact hopens.base_of_nil
  · rw [List.getElem?_map, Option.map_eq_some_iff] at hclose
    obtain ⟨⟨_, position⟩, hi, rfl⟩ := hclose
    obtain ⟨hlt, hi⟩ := List.getElem?_eq_some_iff.1 hi
    rw [← List.map_take] at hbefore
    rw [← List.take_append_drop i v, List.drop_eq_getElem_cons hlt, hi, depthAfter_of_close hbefore] at h
    cases h

theorem depthAfter_append_append {w : List (Instruction × Nat)} (hw : Balanced (w.map Prod.fst)) (depth : Nat)
    (u v : List (Instruction × Nat)) : depthAfter depth (u ++ w ++ v) = depthAfter depth (u ++ v) := by
  rw [List.append_assoc, depthAfter_append, depthAfter_append depth u v]
  congr 1
  funext depth'
  rw [depthAfter_append, depthAfter_of_balanced hw]
  rfl

end Program

/-- A balanced part of a word can be left out or put in. -/
theorem Balanced.append_append_iff {w : List Instruction} (hw : Balanced w) (u v : List Instruction) :
    Balanced (u ++ w ++ v) ↔ Balanced (u ++ v) := by
  -- the depth needs positions, whatever they are
  have hplaced : Function.Surjective (List.map (Prod.fst : Instruction × Nat → Instruction)) :=
    List.map_surjective_iff.2 Prod.fst_surjective
  obtain ⟨u, rfl⟩ := hplaced u
  obtain ⟨v, rfl⟩ := hplaced v
  obtain ⟨w, rfl⟩ := hplaced w
  rw [← List.map_append, ← List.map_append, ← List.map_append, Program.balanced_iff_depthAfter_eq,
    Program.balanced_iff_depthAfter_eq, Program.depthAfter_append_append hw]

end TapeMachine
