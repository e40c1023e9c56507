import Mathlib.Order.Monotone.Basic
import TapeMachine.Proofs.Verdict

/-!
# Blanks between symbols

A `Spacing` makes a text from another one by inserting blanks, and `Spacing.place` tells where the characters of the
first text come to stand in the second.  There is the same to find in both texts, only that it has moved along
(`Program.Verdict.spaced`); so blanks change the positions that the parser reports and nothing else
(`Program.parse_of_spacing`).
-/

namespace TapeMachine

/-- A way to make the second text from the first one by inserting blanks. -/
inductive Spacing : List Char → List Char → Type
  | done : Spacing [] []
  | keep (c : Char) {s t : List Char} : Spacing s t → Spacing (c :: s) (c :: t)
  | insert {b : Char} {s t : List Char} : Text.isBlank b = true → Spacing s t → Spacing s (b :: t)

namespace Spacing

/-- The position in the second text of the character at a position of the first. -/
def place {s t : List Char} : Spacing s t → Nat → Nat
  | done, k => k
  | keep _ _, 0 => 0
  | keep _ h, k + 1 => h.place k + 1
  | insert _ h, k => h.place k + 1

/-- The text before a character is spaced like the whole. -/
def take {s t : List Char} : (h : Spacing s t) → (k : Nat) → Spacing (s.take k) (t.take (h.place k))
  | done, 0 => done
  | done, _ + 1 => done
  | keep _ _, 0 => done
  | keep c h, k + 1 => keep c (h.take k)
  | insert hb h, k => insert hb (h.take k)

variable {s t : List Char}

theorem strictMono_place (h : Spacing s t) : StrictMono h.place := by
  induction h with
  | done => exact strictMono_id
  | keep c h ih =>
    refine strictMono_nat_of_lt_succ fun k => ?_
    cases k with
    | zero => exact Nat.zero_lt_succ _
    | succ k => exact Nat.succ_lt_succ (ih (Nat.lt_succ_self k))
  | insert hb h ih => exact fun j k hjk => Nat.succ_lt_succ (ih hjk)

theorem getElem?_place (h : Spacing s t) (k : Nat) : t[h.place k]? = s[k]? := by
  induction h generalizing k with
  | done => rfl
  | keep c h ih =>
    cases k with
    | zero => rfl
    | succ k => exact ih k
  | insert hb h ih => exact ih k

/-- What holds of blanks and of the first text holds of the second. -/
theorem forall_mem (h : Spacing s t) {P : Char → Prop} (hblank : ∀ b, Text.isBlank b = true → P b)
    (hs : ∀ c ∈ s, P c) : ∀ c ∈ t, P c := by
  induction h with
  | done => exact hs
  | keep c h ih =>
    obtain ⟨hc, hs⟩ := List.forall_mem_cons.1 hs
    exact List.forall_mem_cons.2 ⟨hc, ih hs⟩
  | insert hb h ih => exact List.forall_mem_cons.2 ⟨hblank _ hb, ih hs⟩

/-- Blanks are no instructions. -/
theorem filterMap_ofChar? (h : Spacing s t) :
    t.filterMap Instruction.ofChar? = s.filterMap Instruction.ofChar? := by
  induction h with
  | done => rfl
  | keep c h ih => rw [List.filterMap_cons, List.filterMap_cons, ih]
  | insert hb h ih => rw [List.filterMap_cons_none (Program.ofChar?_of_isBlank hb), ih]

end Spacing

/-- The same fault, found elsewhere. -/
def SourceError.moved (place : Nat → Nat) : SourceError → SourceError
  | noInstructions => noInstructions
  | invalidSymbol position symbol => invalidSymbol (place position) symbol
  | unmatchedClose position => unmatchedClose (place position)
  | unmatchedOpen count => unmatchedOpen count

namespace Program

theorem Verdict.spaced {s t : String} {answer : Except SourceError Program} (hs : Verdict s answer)
    (h : Spacing s.toList t.toList) : Verdict t (answer.mapError (SourceError.moved h.place)) := by
  have hclean {s t : List Char} (h : Spacing s t) (hs : ∀ c ∈ s, isForeign c = false) :
      ∀ c ∈ t, isForeign c = false := h.forall_mem (fun _ => isForeign_of_isBlank) hs
  cases hs with
  | @foreign position symbol hsymbol hforeign hbefore =>
    exact .foreign ((h.getElem?_place position).trans hsymbol) hforeign (hclean (h.take position) hbefore)
  | blank hblank => exact .blank (h.forall_mem (fun _ hb => hb) hblank)
  | @close position hs hclose hbefore =>
    refine .close (hclean h hs) ((h.getElem?_place position).trans hclose) ?_
    rwa [(h.take position).filterMap_ofChar?]
  | opens hs hopens hlength hcount =>
    refine .opens (hclean h hs) ?_ hlength hcount
    rwa [h.filterMap_ofChar?]
  | program hs hp hne hbalanced =>
    refine .program (hclean h hs) ?_ hne hbalanced
    rw [hp, h.filterMap_ofChar?]

/-- Blanks inserted anywhere in a text keep what the parser answers, but for the positions, which move along with the
characters they belong to. -/
theorem parse_of_spacing {s t : String} (h : Spacing s.toList t.toList) :
    parse t = (parse s).mapError (SourceError.moved h.place) ∧
      StrictMono h.place ∧ ∀ k, t.toList[h.place k]? = s.toList[k]? :=
  ⟨((parse_eq_iff.1 rfl).spaced h).parse_eq, h.strictMono_place, h.getElem?_place⟩

/-- A tab and an ideographic space before a close that is left over, and a line feed behind it. -/
theorem parse_of_spacing_close : parse "+ ]]" = .error (.unmatchedClose 2) ∧
    parse "\t+ \u3000]\n]" = .error (.unmatchedClose 4) := by
  have hclose : parse "+ ]]" = .error (.unmatchedClose 2) := by decide
  let spacing : Spacing "+ ]]".toList "\t+ \u3000]\n]".toList :=
    .insert rfl (.keep '+' (.keep ' ' (.insert rfl (.keep ']' (.insert rfl (.keep ']' .done))))))
  refine ⟨hclose, (parse_of_spacing spacing).1.trans ?_⟩
  rw [hclose]
  rfl

end Program

end TapeMachine
