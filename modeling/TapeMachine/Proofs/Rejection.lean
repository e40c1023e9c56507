import Mathlib.Data.Set.Card
import TapeMachine.Proofs.Matching
import TapeMachine.Proofs.Verdict

/-!
# Rejected texts

What a rejection says of the text.  The parser and the jump table find the same faults, though the parser stops at the
first close that is left over and the table goes on behind it (`Program.parse_agrees_with_jumpTable`).  A rejection
also says how the text can be repaired: the text before a close that is left over is the beginning of a program, and
opens that are left over want as many closes, no fewer and no more (`Program.parse_rejects`).
-/

namespace TapeMachine

namespace Instruction

/-- The symbols of the instructions. -/
def alphabet : List Char := ['>', '<', '+', '-', '.', ',', '[', ']']

theorem mem_alphabet_iff {c : Char} : c ∈ alphabet ↔ ∃ i, ofChar? c = some i := by
  constructor
  · intro h
    simp only [alphabet, List.mem_cons, List.not_mem_nil, or_false] at h
    rcases h with rfl | rfl | rfl | rfl | rfl | rfl | rfl | rfl <;> exact ⟨_, rfl⟩
  · rintro ⟨i, hi⟩
    rw [ofChar?_eq_some_iff] at hi
    subst hi
    cases i <;> decide

end Instruction

/-! ### The entries that a jump table lacks -/

namespace JumpTable

/-- The places of an instruction in a word at which the jump table has no entry. -/
def leftOver (w : List Instruction) (e : Instruction) : Set Nat :=
  {i | w[i]? = some e ∧ (ofList w)[i]? = some none}

variable {w : List Instruction} {i : Nat}

theorem mem_leftOver_iff {e : Instruction} : i ∈ leftOver w e ↔ w[i]? = some e ∧ ¬ HasPartner w i := by
  rw [leftOver, Set.mem_ofPred_eq, getElem?_ofList_eq_none_iff, and_congr_right_iff]
  exact fun hi => and_iff_right (List.getElem?_eq_some_iff.1 hi).1

theorem leftOver_loopClose_of_opens {opens : List Nat} (h : Opens Balanced w opens) :
    leftOver w .loopClose = ∅ := by
  refine Set.eq_empty_of_forall_notMem fun i hi => ?_
  obtain ⟨hclose, hnone⟩ := mem_leftOver_iff.1 hi
  exact hnone (h.hasPartner_of_close hclose)

theorem leftOver_loopOpen_of_opens {opens : List Nat} (h : Opens Balanced w opens) :
    leftOver w .loopOpen = opens.toFinset := by
  ext i
  rw [mem_leftOver_iff, ← h.mem_iff, List.coe_toFinset, Set.mem_ofPred_eq]

theorem ncard_leftOver_loopOpen {opens : List Nat} (h : Opens Balanced w opens) :
    (leftOver w .loopOpen).ncard = opens.length := by
  rw [leftOver_loopOpen_of_opens h, Set.ncard_coe_finset, List.toFinset_card_of_nodup h.nodup]

theorem isLeast_leftOver_loopClose (hclose : w[i]? = some .loopClose) (hbefore : Balanced (w.take i)) :
    IsLeast (leftOver w .loopClose) i := by
  constructor
  · exact mem_leftOver_iff.2 ⟨hclose, not_hasPartner_of_balanced_take hclose hbefore⟩
  · intro k hk
    obtain ⟨hkclose, hnone⟩ := mem_leftOver_iff.1 hk
    by_contra hlt
    exact hnone (hasPartner_of_lt_of_balanced_take hbefore (by omega) hkclose rfl)

end JumpTable

namespace Program

open JumpTable (leftOver)

theorem isForeign_eq_false_iff {c : Char} :
    isForeign c = false ↔ Text.isBlank c = true ∨ c ∈ Instruction.alphabet := by
  rw [Instruction.mem_alphabet_iff, ← Option.isSome_iff_exists, isForeign, Bool.and_eq_false_iff,
    Bool.not_eq_false', Option.isNone_eq_false_iff]

theorem isForeign_iff {c : Char} : isForeign c = true ↔ Text.isBlank c = false ∧ c ∉ Instruction.alphabet := by
  rw [← Bool.not_eq_false, isForeign_eq_false_iff, not_or, Bool.not_eq_true]

/-! ### The parser and the jump table -/

/-- A text of blanks and symbols is a program if its jump table lacks no entry of a loop end.  Otherwise the first close
that lacks one is reported with the position of its symbol, or if there is none, the number of opens that do. -/
theorem parse_agrees_with_jumpTable {source : String}
    (hclean : ∀ c ∈ source.toList, Text.isBlank c = true ∨ c ∈ Instruction.alphabet)
    (hsome : ∃ c ∈ source.toList, c ∈ Instruction.alphabet) :
    let w := source.toList.filterMap Instruction.ofChar?
    ((∃ p, parse source = .ok p) ↔ leftOver w .loopOpen = ∅ ∧ leftOver w .loopClose = ∅) ∧
      ((∃ position, parse source = .error (.unmatchedClose position)) ↔ (leftOver w .loopClose).Nonempty) ∧
      (∀ position, parse source = .error (.unmatchedClose position) → ∃ i, IsLeast (leftOver w .loopClose) i ∧
        source.toList[position]? = some ']' ∧
          ((source.toList.take position).filterMap Instruction.ofChar?).length = i) ∧
      ∀ count, parse source = .error (.unmatchedOpen count) ↔
        leftOver w .loopClose = ∅ ∧ 1 ≤ count ∧ (leftOver w .loopOpen).ncard = count := by
  intro w
  obtain ⟨answer, hverdict⟩ := exists_verdict source
  have hparse := hverdict.parse_eq
  cases hverdict with
  | foreign hsymbol hforeign _ =>
    have := hclean _ (List.mem_of_getElem? hsymbol)
    rw [← isForeign_eq_false_iff, hforeign] at this
    cases this
  | blank hblank =>
    obtain ⟨c, hc, hsymbol⟩ := hsome
    obtain ⟨i, hi⟩ := Instruction.mem_alphabet_iff.1 hsymbol
    rw [ofChar?_of_isBlank (hblank c hc)] at hi
    cases hi
  | @close position _ hclose hbefore =>
    -- the close has as many instructions before it as there are symbols before its own
    have hw : w = (source.toList.take position).filterMap Instruction.ofChar? ++
        .loopClose :: (source.toList.drop (position + 1)).filterMap Instruction.ofChar? := by
      conv_lhs => rw [show w = source.toList.filterMap Instruction.ofChar? from rfl, eq_take_append_cons hclose,
        List.filterMap_append]
      rfl
    have hleast : IsLeast (leftOver w .loopClose)
        ((source.toList.take position).filterMap Instruction.ofChar?).length := by
      apply JumpTable.isLeast_leftOver_loopClose
      · rw [hw]
        simp
      · rw [hw, List.take_left]
        exact hbefore
    have hne := hleast.nonempty.ne_empty
    rw [hparse]
    refine ⟨by simp [hne], ⟨fun _ => hleast.nonempty, fun _ => ⟨_, rfl⟩⟩, ?_, by simp [hne]⟩
    rintro _ ⟨⟩
    exact ⟨_, hleast, hclose, rfl⟩
  | @opens opens count _ hopens hlength hcount =>
    have hcard : (leftOver w .loopOpen).ncard = count := (JumpTable.ncard_leftOver_loopOpen hopens).trans hlength
    have hnone : leftOver w .loopClose = ∅ := JumpTable.leftOver_loopClose_of_opens hopens
    have hne : leftOver w .loopOpen ≠ ∅ := by
      intro hempty
      rw [hempty, Set.ncard_empty] at hcard
      exact hcount hcard.symm
    rw [hparse, hnone, hcard]
    refine ⟨by simp [hne], by simp, by simp, ?_⟩
    intro count'
    constructor
    · rintro ⟨⟩
      exact ⟨rfl, Nat.one_le_iff_ne_zero.2 hcount, rfl⟩
    · rintro ⟨-, -, rfl⟩
      rfl
  | @program p _ hp _ hbalanced =>
    rw [hp] at hbalanced
    have hopens : Opens Balanced w [] := .base hbalanced
    have hcard : (leftOver w .loopOpen).ncard = 0 := JumpTable.ncard_leftOver_loopOpen hopens
    have hopen : leftOver w .loopOpen = ∅ := by
      rw [JumpTable.leftOver_loopOpen_of_opens hopens, List.toFinset_nil, Finset.coe_empty]
    rw [hparse, hopen, JumpTable.leftOver_loopClose_of_opens hopens]
    refine ⟨by simp, by simp, by simp, ?_⟩
    intro count
    rw [Set.ncard_empty]
    constructor
    · rintro ⟨⟩
    · rintro ⟨-, hcount, rfl⟩
      cases hcount

/-- Two loops, then a close and an open that are left over.  The close is the sixth instruction, at position seven. -/
theorem parse_agrees_with_jumpTable_stray :
    let source := "[ [+]\t]][-"
    let w := source.toList.filterMap Instruction.ofChar?
    (∀ c ∈ source.toList, Text.isBlank c = true ∨ c ∈ Instruction.alphabet) ∧
      (∃ c ∈ source.toList, c ∈ Instruction.alphabet) ∧ parse source = .error (.unmatchedClose 7) ∧
        IsLeast (leftOver w .loopClose) 5 ∧ 6 ∈ leftOver w .loopOpen := by
  intro source w
  have hclean : ∀ c ∈ source.toList, Text.isBlank c = true ∨ c ∈ Instruction.alphabet := by
    have hall : source.toList.all (fun c => Text.isBlank c ∨ c ∈ Instruction.alphabet) = true := by decide
    simpa only [List.all_eq_true, decide_eq_true_eq] using hall
  have hsome : ∃ c ∈ source.toList, c ∈ Instruction.alphabet := ⟨'[', by decide, by decide⟩
  have hparse : parse source = .error (.unmatchedClose 7) := by decide
  obtain ⟨-, -, hclose, -⟩ := parse_agrees_with_jumpTable hclean hsome
  obtain ⟨i, hleast, -, hi⟩ := hclose 7 hparse
  refine ⟨hclean, hsome, hparse, ?_, ⟨by decide, by decide⟩⟩
  rwa [show i = 5 from hi.symm.trans (by decide)] at hleast

/-! ### Repairs -/

/-- So many closes. -/
def closes (n : Nat) : String := String.ofList (List.replicate n ']')

theorem toList_append_closes (s : String) (n : Nat) : (s ++ closes n).toList = s.toList ++ List.replicate n ']' := by
  rw [String.toList_append, closes, String.toList_ofList]

theorem filterMap_append_closes (s : String) (n : Nat) : (s ++ closes n).toList.filterMap Instruction.ofChar? =
    s.toList.filterMap Instruction.ofChar? ++ List.replicate n .loopClose := by
  have hclose : Instruction.ofChar? ']' = some .loopClose := rfl
  rw [toList_append_closes, List.filterMap_append, List.filterMap_replicate_of_some hclose]

variable {s : String}

/-- The text before a close that is left over can be continued to a program. -/
theorem exists_parse_take {position : Nat} (hclean : ∀ c ∈ s.toList, isForeign c = false)
    (hbefore : Balanced ((s.toList.take position).filterMap Instruction.ofChar?)) :
    ∃ (t : String) (p : Program), parse (String.ofList (s.toList.take position) ++ t) = .ok p := by
  refine ⟨"+", ⟨((s.toList.take position).filterMap Instruction.ofChar? ++ [Instruction.increment]).toArray⟩, ?_⟩
  refine (Verdict.program ?_ ?_ (by simp) ?_).parse_eq
  · rw [String.toList_append, String.toList_ofList]
    refine List.forall_mem_append.2 ⟨fun c hc => hclean c (List.mem_of_mem_take hc), fun c hc => ?_⟩
    rw [List.mem_singleton.1 hc]
    rfl
  · rw [String.toList_append, String.toList_ofList, List.filterMap_append]
    rfl
  · exact hbefore.append (.plain rfl .nil)

/-- Whatever comes behind a close that is left over, it is the fault that is reported. -/
theorem parse_take_append {position : Nat} (hclean : ∀ c ∈ s.toList, isForeign c = false)
    (hclose : s.toList[position]? = some ']')
    (hbefore : Balanced ((s.toList.take position).filterMap Instruction.ofChar?)) {t : String}
    (ht : ∀ c ∈ t.toList, isForeign c = false) :
    parse (String.ofList (s.toList.take (position + 1)) ++ t) = .error (.unmatchedClose position) := by
  have hlt : position < s.toList.length := (List.getElem?_eq_some_iff.1 hclose).1
  have htoList : (String.ofList (s.toList.take (position + 1)) ++ t).toList =
      s.toList.take position ++ ']' :: t.toList := by
    rw [String.toList_append, String.toList_ofList, List.take_add_one, hclose]
    simp
  refine (Verdict.close ?_ ?_ ?_).parse_eq
  · rw [htoList]
    refine List.forall_mem_append.2 ⟨fun c hc => hclean c (List.mem_of_mem_take hc), ?_⟩
    exact List.forall_mem_cons.2 ⟨rfl, ht⟩
  · rw [htoList, List.getElem?_append_right (by simp), List.length_take_of_le (Nat.le_of_lt hlt), Nat.sub_self]
    rfl
  · rw [htoList, List.take_append_of_le_length (by simp; omega), List.take_take, Nat.min_self]
    exact hbefore

/-- Closes behind a text with open loops: too few, as many, or too many. -/
theorem parse_append_closes {opens : List Nat} (hclean : ∀ c ∈ s.toList, isForeign c = false)
    (hopens : Opens Balanced (s.toList.filterMap Instruction.ofChar?) opens) (hne : opens ≠ []) :
    (∀ m < opens.length, parse (s ++ closes m) = .error (.unmatchedOpen (opens.length - m))) ∧
      (∃ p, parse (s ++ closes opens.length) = .ok p) ∧
      ∀ m, opens.length < m → parse (s ++ closes m) = .error (.unmatchedClose (s.length + opens.length)) := by
  have hcleanAfter (m : Nat) : ∀ c ∈ (s ++ closes m).toList, isForeign c = false := by
    rw [toList_append_closes]
    refine List.forall_mem_append.2 ⟨hclean, fun c hc => ?_⟩
    rw [List.eq_of_mem_replicate hc]
    rfl
  have hall : Balanced ((s ++ closes opens.length).toList.filterMap Instruction.ofChar?) := by
    have h := hopens.append_replicate Balanced.append (Nat.le_refl opens.length)
    rw [List.drop_length] at h
    rw [filterMap_append_closes]
    exact h.base_of_nil
  refine ⟨?_, ?_, ?_⟩
  · intro m hm
    have h := hopens.append_replicate Balanced.append (Nat.le_of_lt hm)
    rw [← filterMap_append_closes] at h
    exact (Verdict.opens (hcleanAfter m) h List.length_drop (by omega)).parse_eq
  · refine ⟨⟨((s ++ closes opens.length).toList.filterMap Instruction.ofChar?).toArray⟩, ?_⟩
    refine (Verdict.program (hcleanAfter _) rfl ?_ hall).parse_eq
    rw [filterMap_append_closes]
    simp [hne]
  · intro m hm
    -- all but the first closes are too many
    obtain ⟨rest, rfl⟩ := Nat.exists_eq_add_of_le (Nat.succ_le_of_lt hm)
    have htoList : (s ++ closes (opens.length + 1 + rest)).toList =
        (s ++ closes opens.length).toList ++ ']' :: List.replicate rest ']' := by
      rw [toList_append_closes, toList_append_closes, Nat.add_assoc, ← List.replicate_append_replicate,
        Nat.add_comm 1, List.replicate_succ, List.append_assoc]
    have hlength : s.length + opens.length = (s ++ closes opens.length).toList.length := by
      rw [toList_append_closes, List.length_append, List.length_replicate, String.length_toList]
    rw [hlength]
    refine (Verdict.close (hcleanAfter _) ?_ ?_).parse_eq
    · rw [htoList, List.getElem?_append_right (Nat.le_refl _), Nat.sub_self]
      rfl
    · rwa [htoList, List.take_left]

/-- A foreign character is reported before anything else, the first one first, and a text of blanks next.  The text up
to a close that is reported is the beginning of a program, but with the close it is none, whatever comes behind it.  A
text with open loops becomes a program by as many closes at its end, and by no other number of them. -/
theorem parse_rejects (s : String) :
    (∀ (position : Nat) (symbol : Char), parse s = .error (.invalidSymbol position symbol) ↔
        s.toList[position]? = some symbol ∧ IsLeast {k | ∃ c, s.toList[k]? = some c ∧
          Text.isBlank c = false ∧ c ∉ Instruction.alphabet} position) ∧
      (parse s = .error .noInstructions ↔ ∀ c ∈ s.toList, Text.isBlank c = true) ∧
      (∀ position, parse s = .error (.unmatchedClose position) →
        s.toList[position]? = some ']' ∧
          (∃ (t : String) (p : Program), parse (String.ofList (s.toList.take position) ++ t) = .ok p) ∧
          ∀ t : String, (∀ c ∈ t.toList, Text.isBlank c = true ∨ c ∈ Instruction.alphabet) →
            parse (String.ofList (s.toList.take (position + 1)) ++ t) = .error (.unmatchedClose position)) ∧
      ∀ count, parse s = .error (.unmatchedOpen count) →
        (∀ m < count, parse (s ++ closes m) = .error (.unmatchedOpen (count - m))) ∧
          (∃ p, parse (s ++ closes count) = .ok p) ∧
          ∀ m, count < m → parse (s ++ closes m) = .error (.unmatchedClose (s.length + count)) := by
  simp only [← isForeign_iff, ← isForeign_eq_false_iff]
  refine ⟨?_, ?_, ?_, ?_⟩
  · intro position symbol
    rw [parse_eq_iff]
    constructor
    · intro h
      cases h with
      | foreign hsymbol hforeign hbefore =>
        refine ⟨hsymbol, ⟨symbol, hsymbol, hforeign⟩, ?_⟩
        rintro k ⟨c, hc, hcforeign⟩
        by_contra hlt
        have := hbefore c (List.mem_of_getElem? (i := k) (by rw [List.getElem?_take_of_lt (by omega), hc]))
        rw [hcforeign] at this
        cases this
    · rintro ⟨hsymbol, ⟨c, hc, hforeign⟩, hleast⟩
      rw [hsymbol, Option.some.injEq] at hc
      subst hc
      refine .foreign hsymbol hforeign fun c hc => ?_
      obtain ⟨k, hk, rfl⟩ := List.mem_take_iff_getElem.1 hc
      by_contra hforeign
      have := hleast ⟨_, List.getElem?_eq_getElem (by omega), Bool.eq_true_of_not_eq_false hforeign⟩
      omega
  · rw [parse_eq_iff]
    constructor
    · intro h
      cases h with
      | blank hblank => exact hblank
    · exact .blank
  · intro position h
    rw [parse_eq_iff] at h
    cases h with
    | close hclean hclose hbefore =>
      exact ⟨hclose, exists_parse_take hclean hbefore, fun t ht => parse_take_append hclean hclose hbefore ht⟩
  · intro count h
    rw [parse_eq_iff] at h
    cases h with
    | opens hclean hopens hlength hcount =>
      subst hlength
      exact parse_append_closes hclean hopens (fun hnil => hcount (congrArg List.length hnil))

/-- Two loops too many, with a blank between them; and a close too many behind a loop. -/
theorem parse_rejects_repaired :
    parse "[\n[+" = .error (.unmatchedOpen 2) ∧ parse ("[\n[+" ++ closes 1) = .error (.unmatchedOpen 1) ∧
      parse ("[\n[+" ++ closes 5) = .error (.unmatchedClose 6) ∧ parse "[-] ][" = .error (.unmatchedClose 4) ∧
        parse ("[-] ]" ++ "[[-]") = .error (.unmatchedClose 4) := by
  have hopen : parse "[\n[+" = .error (.unmatchedOpen 2) := by decide
  have hclose : parse "[-] ][" = .error (.unmatchedClose 4) := by decide
  have hclean : ∀ c ∈ "[[-]".toList, Text.isBlank c = true ∨ c ∈ Instruction.alphabet := by
    have hall : "[[-]".toList.all (fun c => Text.isBlank c ∨ c ∈ Instruction.alphabet) = true := by decide
    simpa only [List.all_eq_true, decide_eq_true_eq] using hall
  obtain ⟨-, -, -, hcloses⟩ := parse_rejects "[\n[+"
  obtain ⟨-, -, hrest, -⟩ := parse_rejects "[-] ]["
  obtain ⟨hfew, -, hmany⟩ := hcloses 2 hopen
  exact ⟨hopen, hfew 1 (by decide), hmany 5 (by decide), hclose, (hrest 4 hclose).2.2 "[[-]" hclean⟩

end Program

end TapeMachine
