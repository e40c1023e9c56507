import TapeMachine.Proofs.Depth

/-!
# What the parser finds

`Program.Verdict` says what there is to find in a source text: a foreign character, nothing but blanks, a close behind
balanced instructions, open loops at the end, or a program.  In every text there is exactly one of these to find, and
it is what `Program.parse` answers (`Program.parse_eq_iff`).  Later modules mostly use the form that speaks of programs
alone (`Program.parse_eq_ok_iff`).
-/

namespace TapeMachine.Program

/-- What is to be found in a source text.  All but the first ask that no character is foreign; where the loop ends are
at fault, the close that is reported stands behind balanced instructions, and the opens are those of the open loops. -/
inductive Verdict (source : String) : Except SourceError Program → Prop
  | foreign {position : Nat} {symbol : Char} :
    source.toList[position]? = some symbol → isForeign symbol = true →
      (∀ c ∈ source.toList.take position, isForeign c = false) →
        Verdict source (.error (.invalidSymbol position symbol))
  | blank : (∀ c ∈ source.toList, Text.isBlank c = true) → Verdict source (.error .noInstructions)
  | close {position : Nat} :
    (∀ c ∈ source.toList, isForeign c = false) → source.toList[position]? = some ']' →
      Balanced ((source.toList.take position).filterMap Instruction.ofChar?) →
        Verdict source (.error (.unmatchedClose position))
  | opens {opens : List Nat} {count : Nat} :
    (∀ c ∈ source.toList, isForeign c = false) → Opens Balanced (source.toList.filterMap Instruction.ofChar?) opens →
      opens.length = count → count ≠ 0 → Verdict source (.error (.unmatchedOpen count))
  | program {p : Program} :
    (∀ c ∈ source.toList, isForeign c = false) → p.instructions.toList = source.toList.filterMap Instruction.ofChar? →
      p.instructions.toList ≠ [] → Balanced p.instructions.toList → Verdict source (.ok p)

/-! ### The instructions of a text -/

theorem ofChar?_of_isBlank {c : Char} (h : Text.isBlank c = true) : Instruction.ofChar? c = none := by
  cases hi : Instruction.ofChar? c with
  | none => rfl
  | some i =>
    rw [Instruction.ofChar?_eq_some_iff] at hi
    subst hi
    cases i <;> cases h

theorem isForeign_of_isBlank {c : Char} (h : Text.isBlank c = true) : isForeign c = false := by
  simp [isForeign, h]

theorem isForeign_of_ofChar? {c : Char} {i : Instruction} (h : Instruction.ofChar? c = some i) :
    isForeign c = false := by
  simp [isForeign, h]

theorem map_fst_placed (cs : List Char) (first : Nat) :
    (placed (cs.zipIdx first)).map Prod.fst = cs.filterMap Instruction.ofChar? := by
  have h (x : Char × Nat) : ((Instruction.ofChar? x.1).map (·, x.2)).map Prod.fst = Instruction.ofChar? x.1 := by
    cases Instruction.ofChar? x.1 <;> rfl
  calc (placed (cs.zipIdx first)).map Prod.fst
      = (cs.zipIdx first).filterMap fun x => Instruction.ofChar? x.1 := by
        rw [placed, List.map_filterMap]
        simp only [h]
    _ = ((cs.zipIdx first).map Prod.fst).filterMap Instruction.ofChar? := by
        rw [List.filterMap_map]
        rfl
    _ = cs.filterMap Instruction.ofChar? := by rw [List.zipIdx_map_fst]

section Split

variable {cs : List Char} {position : Nat} {c : Char} (hc : cs[position]? = some c)

include hc

theorem eq_take_append_cons : cs = cs.take position ++ c :: cs.drop (position + 1) := by
  obtain ⟨hlt, rfl⟩ := List.getElem?_eq_some_iff.1 hc
  rw [← List.drop_eq_getElem_cons hlt, List.take_append_drop]

theorem zipIdx_eq_append_cons : cs.zipIdx =
    (cs.take position).zipIdx ++ (c, position) :: (cs.drop (position + 1)).zipIdx (position + 1) := by
  have hlt : position < cs.length := (List.getElem?_eq_some_iff.1 hc).1
  conv_lhs => rw [eq_take_append_cons hc, List.zipIdx_append, List.zipIdx_cons,
    List.length_take_of_le (Nat.le_of_lt hlt), Nat.zero_add]

theorem placed_eq_append_cons {i : Instruction} (hi : Instruction.ofChar? c = some i) : placed cs.zipIdx =
    placed (cs.take position).zipIdx ++ (i, position) :: placed ((cs.drop (position + 1)).zipIdx (position + 1)) := by
  conv_lhs => rw [zipIdx_eq_append_cons hc, placed, List.filterMap_append]
  exact congrArg (_ ++ ·) (List.filterMap_cons_some (congrArg (Option.map (·, position)) hi))

end Split

/-- Every instruction of a text has its symbol at some position. -/
theorem exists_position {cs : List Char} {index : Nat} {i : Instruction}
    (hi : (cs.filterMap Instruction.ofChar?)[index]? = some i) : ∃ position, cs[position]? = some i.toChar ∧
      (cs.take position).filterMap Instruction.ofChar? = (cs.filterMap Instruction.ofChar?).take index := by
  induction cs generalizing index with
  | nil => simp at hi
  | cons c cs ih =>
    cases hc : Instruction.ofChar? c with
    | none =>
      rw [List.filterMap_cons_none hc] at hi ⊢
      obtain ⟨position, hposition, hbefore⟩ := ih hi
      refine ⟨position + 1, hposition, ?_⟩
      rw [List.take_succ_cons, List.filterMap_cons_none hc, hbefore]
    | some j =>
      rw [List.filterMap_cons_some hc] at hi ⊢
      cases index with
      | zero =>
        rw [List.getElem?_cons_zero, Option.some.injEq] at hi
        subst hi
        exact ⟨0, congrArg some (Instruction.ofChar?_eq_some_iff.1 hc), rfl⟩
      | succ index =>
        rw [List.getElem?_cons_succ] at hi
        obtain ⟨position, hposition, hbefore⟩ := ih hi
        refine ⟨position + 1, hposition, ?_⟩
        rw [List.take_succ_cons, List.filterMap_cons_some hc, hbefore, List.take_succ_cons]

/-! ### Verdicts and answers -/

theorem find?_isForeign_eq_none_iff {cs : List Char} :
    (cs.zipIdx.find? fun x => isForeign x.1) = none ↔ ∀ c ∈ cs, isForeign c = false := by
  rw [List.find?_eq_none]
  constructor
  · intro h c hc
    obtain ⟨position, hlt, rfl⟩ := List.getElem_of_mem hc
    have := h (cs[position], position) (by simp [List.mem_zipIdx_iff_getElem?])
    simpa using this
  · intro h x hx
    have := h x.1 (List.fst_mem_of_mem_zipIdx hx)
    simp [this]

theorem find?_isForeign_eq_some {cs : List Char} {position : Nat} {symbol : Char}
    (hsymbol : cs[position]? = some symbol) (hforeign : isForeign symbol = true)
    (hbefore : ∀ c ∈ cs.take position, isForeign c = false) :
    (cs.zipIdx.find? fun x => isForeign x.1) = some (symbol, position) := by
  rw [zipIdx_eq_append_cons hsymbol, List.find?_append, find?_isForeign_eq_none_iff.2 hbefore, Option.none_or]
  exact List.find?_cons_of_pos hforeign

/-- Without foreign characters the loop ends decide. -/
theorem parse_of_forall_not_foreign {source : String} (h : ∀ c ∈ source.toList, isForeign c = false) :
    parse source =
      if placed source.toList.zipIdx = [] then .error .noInstructions
      else
        match depthAfter 0 (placed source.toList.zipIdx) with
        | .error position => .error (.unmatchedClose position)
        | .ok 0 => .ok ⟨((placed source.toList.zipIdx).map Prod.fst).toArray⟩
        | .ok count => .error (.unmatchedOpen count) := by
  unfold parse
  dsimp only
  rw [find?_isForeign_eq_none_iff.2 h]
  dsimp only
  split
  · rename_i hnil
    exact (if_pos hnil).symm
  · rename_i hne
    exact (if_neg hne).symm

/-- What there is to find is what the parser finds. -/
theorem Verdict.parse_eq {source : String} {answer : Except SourceError Program} (h : Verdict source answer) :
    parse source = answer := by
  cases h with
  | foreign hsymbol hforeign hbefore =>
    unfold parse
    dsimp only
    rw [find?_isForeign_eq_some hsymbol hforeign hbefore]
  | blank hblank =>
    have hplaced : placed source.toList.zipIdx = [] := by
      rw [← List.map_eq_nil_iff, map_fst_placed, List.filterMap_eq_nil_iff]
      exact fun c hc => ofChar?_of_isBlank (hblank c hc)
    rw [parse_of_forall_not_foreign fun c hc => isForeign_of_isBlank (hblank c hc), if_pos hplaced]
  | close hclean hclose hbefore =>
    have hplaced := placed_eq_append_cons hclose (i := .loopClose) rfl
    have hne : placed source.toList.zipIdx ≠ [] := by simp [hplaced]
    rw [← map_fst_placed _ 0] at hbefore
    rw [parse_of_forall_not_foreign hclean, if_neg hne, hplaced, depthAfter_of_close hbefore]
  | @opens opens count hclean hopens hlength hcount =>
    subst hlength
    have hne : placed source.toList.zipIdx ≠ [] := by
      intro hnil
      rw [← map_fst_placed _ 0, hnil] at hopens
      obtain ⟨o, ho⟩ := List.exists_mem_of_length_pos (Nat.pos_of_ne_zero hcount)
      exact Nat.not_lt_zero o (hopens.lt_length o ho)
    rw [← map_fst_placed _ 0] at hopens
    rw [parse_of_forall_not_foreign hclean, if_neg hne, depthAfter_of_opens hopens]
    cases opens with
    | nil => exact absurd rfl hcount
    | cons open_ opens => rfl
  | @program p hclean hp hne hbalanced =>
    rw [hp, ← map_fst_placed _ 0] at hne hbalanced
    rw [parse_of_forall_not_foreign hclean, if_neg (mt (congrArg (List.map Prod.fst)) hne),
      depthAfter_of_balanced hbalanced]
    simp [map_fst_placed, ← hp]

theorem exists_verdict (source : String) : ∃ answer, Verdict source answer := by
  by_cases hclean : ∀ c ∈ source.toList, isForeign c = false
  · by_cases hblank : ∀ c ∈ source.toList, Text.isBlank c = true
    · exact ⟨_, .blank hblank⟩
    · rcases exists_opens_or_balanced_take (source.toList.filterMap Instruction.ofChar?) with
        ⟨opens, hopens⟩ | ⟨index, hclose, hbefore⟩
      · by_cases hcount : opens.length = 0
        · -- some character is no blank, so it is the symbol of an instruction
          have hne : source.toList.filterMap Instruction.ofChar? ≠ [] := by
            intro hnil
            rw [List.filterMap_eq_nil_iff] at hnil
            refine hblank fun c hc => ?_
            have := hclean c hc
            simpa [isForeign, hnil c hc] using this
          rw [List.length_eq_zero_iff] at hcount
          subst hcount
          exact ⟨_, .program (p := ⟨(source.toList.filterMap Instruction.ofChar?).toArray⟩) hclean rfl hne
            hopens.base_of_nil⟩
        · exact ⟨_, .opens hclean hopens rfl hcount⟩
      · obtain ⟨position, hposition, htake⟩ := exists_position hclose
        exact ⟨_, .close hclean hposition (htake ▸ hbefore)⟩
  · have hforeign : ∃ c ∈ source.toList, isForeign c = true := by simpa using hclean
    have hlt := List.findIdx_lt_length_of_exists hforeign
    refine ⟨_, .foreign (List.getElem?_eq_getElem hlt) List.findIdx_getElem ?_⟩
    intro c hc
    obtain ⟨k, hk, rfl⟩ := List.mem_take_iff_getElem.1 hc
    simpa using List.not_of_lt_findIdx (p := isForeign) (show k < source.toList.findIdx isForeign by omega)

theorem parse_eq_iff {source : String} {answer : Except SourceError Program} :
    parse source = answer ↔ Verdict source answer := by
  constructor
  · rintro rfl
    obtain ⟨answer, h⟩ := exists_verdict source
    rwa [h.parse_eq]
  · exact Verdict.parse_eq

/-- A text is a program if it has no foreign characters and its instructions are balanced and at least one. -/
theorem parse_eq_ok_iff {source : String} {p : Program} : parse source = .ok p ↔
    (∀ c ∈ source.toList, isForeign c = false) ∧ p.instructions.toList = source.toList.filterMap Instruction.ofChar? ∧
      p.instructions.toList ≠ [] ∧ Balanced p.instructions.toList := by
  rw [parse_eq_iff]
  constructor
  · intro h
    cases h with
    | program hclean hp hne hbalanced => exact ⟨hclean, hp, hne, hbalanced⟩
  · rintro ⟨hclean, hp, hne, hbalanced⟩
    exact .program hclean hp hne hbalanced

end TapeMachine.Program
