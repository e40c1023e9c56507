import Mathlib.Data.List.TFAE
import Mathlib.Tactic.TFAE
import TapeMachine.Proofs.Parse

/-!
# The text of a program

`Program.text` writes a symbol for each instruction and nothing else.  From that text the program is read back, if it
can be read at all (`Program.parse_text`); and whatever text a program was read from, without its blanks it is the text
of the program (`Program.toList_text_of_parse`).  So the text stands for all texts of the program
(`Program.text_canonical`).
-/

namespace TapeMachine.Program

theorem toList_text (p : Program) : p.text.toList = p.instructions.toList.map Instruction.toChar :=
  String.toList_ofList

theorem filterMap_text (p : Program) : p.text.toList.filterMap Instruction.ofChar? = p.instructions.toList := by
  have hback : Instruction.ofChar? ∘ Instruction.toChar = some := funext Instruction.ofChar?_toChar
  rw [toList_text, List.filterMap_map, hback, List.filterMap_some]

theorem not_isForeign_of_mem_text {p : Program} {c : Char} (hc : c ∈ p.text.toList) : isForeign c = false := by
  rw [toList_text] at hc
  obtain ⟨i, -, rfl⟩ := List.mem_map.1 hc
  exact isForeign_of_ofChar? i.ofChar?_toChar

/-- A program that is balanced and not empty is read back from its text. -/
theorem parse_text {p : Program} (hne : p.instructions.toList ≠ []) (hp : Balanced p.instructions.toList) :
    parse p.text = .ok p :=
  parse_eq_ok_iff.2 ⟨fun _ => not_isForeign_of_mem_text, p.filterMap_text.symm, hne, hp⟩

theorem text_injective : Function.Injective text := by
  intro p q h
  have hinstructions : p.instructions.toList = q.instructions.toList := by
    rw [← p.filterMap_text, ← q.filterMap_text, h]
  exact congrArg Program.mk (Array.toList_inj.1 hinstructions)

/-- Without its blanks a text is the text of the program that is read from it. -/
theorem toList_text_of_parse {source : String} {p : Program} (h : parse source = .ok p) :
    p.text.toList = Text.stripped source := by
  obtain ⟨hclean, hp, -, -⟩ := parse_eq_ok_iff.1 h
  rw [toList_text]
  exact (Instruction.map_ofChar?_eq_iff.1 (map_ofChar?_filter_iff.2 ⟨hclean, hp⟩)).symm

/-- The text of a program is any text that it is read from, without the blanks, and the program is read back from it.
Texts of the same program are those that agree but for blanks. -/
theorem text_canonical {a b : String} {p q : Program} (ha : parse a = .ok p) (hb : parse b = .ok q) :
    p.text = String.ofList (Text.stripped a) ∧ parse p.text = .ok p ∧
      List.TFAE [parse a = parse b, p.text = q.text, Text.stripped a = Text.stripped b] := by
  obtain ⟨-, -, hne, hbalanced⟩ := parse_eq_ok_iff.1 ha
  have hpa := toList_text_of_parse ha
  have hqb := toList_text_of_parse hb
  refine ⟨?_, parse_text hne hbalanced, ?_⟩
  · rw [← hpa, String.ofList_toList]
  · tfae_have 1 → 2 := by
      intro h
      rw [ha, hb, Except.ok.injEq] at h
      rw [h]
    tfae_have 2 → 3 := by
      intro h
      rw [← hpa, ← hqb, h]
    tfae_have 3 → 1 := by
      intro h
      rw [← hpa, ← hqb, String.toList_inj] at h
      rw [ha, hb, text_injective h]
    tfae_finish

/-- The same loop, once with blanks before, between and behind its symbols. -/
theorem text_canonical_spaced :
    let p : Program := ⟨#[.input, .loopOpen, .output, .input, .loopClose]⟩
    parse ",[.,]" = .ok p ∧ parse "\n, [\u2003.,\x0b]\r\n" = .ok p ∧ parse p.text = .ok p ∧
      Text.stripped ",[.,]" = Text.stripped "\n, [\u2003.,\x0b]\r\n" := by
  intro p
  have ha : parse ",[.,]" = .ok p := by decide
  have hb : parse "\n, [\u2003.,\x0b]\r\n" = .ok p := by decide
  obtain ⟨-, hback, hsame⟩ := text_canonical ha hb
  exact ⟨ha, hb, hback, (hsame.out 0 2).1 (ha.trans hb.symm)⟩

end TapeMachine.Program
