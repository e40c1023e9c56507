import TapeMachine.Proofs.Verdict

/-!
# What the parser accepts

A source text is a program if, without its blanks, it is a word of the grammar `Word` and not empty; the instructions
are those of its symbols, one for one.
-/

namespace TapeMachine

/-- The characters of a text that are not blank. -/
def Text.stripped (text : String) : List Char := text.toList.filter fun c => !isBlank c

/-- A word is empty, or one of six symbols and a word, or a word in brackets and a word. -/
inductive Word : List Char → Prop
  | empty : Word []
  | symbol {c : Char} {rest : List Char} : c ∈ ['>', '<', '+', '-', '.', ','] → Word rest → Word (c :: rest)
  | brackets {body rest : List Char} : Word body → Word rest → Word ('[' :: (body ++ ']' :: rest))

/-! ### Words and balanced instructions -/

theorem Instruction.isPlain_iff_toChar_mem {i : Instruction} :
    i.isPlain = true ↔ i.toChar ∈ ['>', '<', '+', '-', '.', ','] := by
  cases i <;> decide

theorem Balanced.word {w : List Instruction} (h : Balanced w) : Word (w.map Instruction.toChar) := by
  induction h with
  | nil => exact .empty
  | plain hi _ ih => exact .symbol (Instruction.isPlain_iff_toChar_mem.1 hi) ih
  | loop _ _ ihb ihr =>
    rw [List.map_cons, List.map_append, List.map_cons]
    exact .brackets ihb ihr

theorem Word.exists_balanced {cs : List Char} (h : Word cs) :
    ∃ w, Balanced w ∧ w.map Instruction.toChar = cs := by
  induction h with
  | empty => exact ⟨[], .nil, rfl⟩
  | @symbol c rest hc _ ih =>
    obtain ⟨w, hw, rfl⟩ := ih
    obtain ⟨i, rfl⟩ : ∃ i : Instruction, i.toChar = c := by
      simp only [List.mem_cons, List.not_mem_nil, or_false] at hc
      rcases hc with rfl | rfl | rfl | rfl | rfl | rfl
      · exact ⟨.advance, rfl⟩
      · exact ⟨.retreat, rfl⟩
      · exact ⟨.increment, rfl⟩
      · exact ⟨.decrement, rfl⟩
      · exact ⟨.output, rfl⟩
      · exact ⟨.input, rfl⟩
    exact ⟨i :: w, .plain (Instruction.isPlain_iff_toChar_mem.2 hc) hw, rfl⟩
  | brackets _ _ ihb ihr =>
    obtain ⟨body, hbody, rfl⟩ := ihb
    obtain ⟨rest, hrest, rfl⟩ := ihr
    exact ⟨.loopOpen :: (body ++ .loopClose :: rest), .loop hbody hrest, by simp [Instruction.toChar]⟩

theorem Instruction.map_ofChar?_eq_iff {cs : List Char} {w : List Instruction} :
    cs.map ofChar? = w.map some ↔ cs = w.map toChar := by
  induction cs generalizing w with
  | nil => cases w <;> simp
  | cons c cs ih =>
    cases w with
    | nil => simp
    | cons i w => simp [ih, ofChar?_eq_some_iff]

/-- The symbols of a word are those of balanced instructions. -/
theorem word_iff {cs : List Char} : Word cs ↔ ∃ w, Balanced w ∧ cs.map Instruction.ofChar? = w.map some := by
  constructor
  · intro h
    obtain ⟨w, hw, rfl⟩ := h.exists_balanced
    exact ⟨w, hw, Instruction.map_ofChar?_eq_iff.2 rfl⟩
  · rintro ⟨w, hw, h⟩
    rw [Instruction.map_ofChar?_eq_iff] at h
    subst h
    exact hw.word

/-! ### The grammar of programs -/

namespace Program

/-- Without foreign characters, what is not blank is a symbol. -/
theorem map_ofChar?_filter_iff {cs : List Char} {w : List Instruction} :
    (cs.filter fun c => !Text.isBlank c).map Instruction.ofChar? = w.map some ↔
      (∀ c ∈ cs, isForeign c = false) ∧ w = cs.filterMap Instruction.ofChar? := by
  induction cs generalizing w with
  | nil => simp
  | cons c cs ih =>
    by_cases hblank : Text.isBlank c = true
    · have hforeign := isForeign_of_isBlank hblank
      simp [hblank, ofChar?_of_isBlank hblank, hforeign, ih]
    · cases hi : Instruction.ofChar? c with
      | none =>
        have hforeign : isForeign c = true := by simp [isForeign, hblank, hi]
        constructor
        · intro h
          cases w with
          | nil => simp [hblank] at h
          | cons i w => simp [hblank, hi] at h
        · rintro ⟨h, _⟩
          have := h c List.mem_cons_self
          rw [hforeign] at this
          cases this
      | some i =>
        have hforeign := isForeign_of_ofChar? hi
        cases w with
        | nil => simp [hblank, hi]
        | cons j w =>
          have hcons := @ih w
          simp only [hblank, hi, hforeign, List.filter_cons, List.map_cons, List.filterMap_cons, List.cons.injEq,
            List.mem_cons, forall_eq_or_imp, Option.some.injEq, Bool.not_false, if_true, true_and, hcons]
          constructor
          · rintro ⟨rfl, h, rfl⟩
            exact ⟨h, rfl, rfl⟩
          · rintro ⟨h, rfl, rfl⟩
            exact ⟨rfl, h, rfl⟩

/-- A text is a program if and only if it is a word that is not empty, and the program is the image of the word. -/
theorem parse_eq_ok_iff_word (source : String) :
    ((∃ p, parse source = .ok p) ↔ Text.stripped source ≠ [] ∧ Word (Text.stripped source)) ∧
      (∀ p, parse source = .ok p ↔ Text.stripped source ≠ [] ∧ Word (Text.stripped source) ∧
        (Text.stripped source).map Instruction.ofChar? = p.instructions.toList.map some) ∧
      ∀ p, parse source = .ok p → 0 < p.size ∧ ∀ i e, p.instructions[i]? = some e → e.isPlain = false →
        HasPartner p.instructions.toList i := by
  have hok (p : Program) : parse source = .ok p ↔ Text.stripped source ≠ [] ∧ Word (Text.stripped source) ∧
      (Text.stripped source).map Instruction.ofChar? = p.instructions.toList.map some := by
    rw [parse_eq_ok_iff, ← and_assoc, ← map_ofChar?_filter_iff, word_iff]
    change (Text.stripped source).map _ = _ ∧ _ ↔ _
    constructor
    · rintro ⟨himage, hne, hbalanced⟩
      refine ⟨?_, ⟨_, hbalanced, himage⟩, himage⟩
      intro h
      rw [h, List.map_nil, eq_comm, List.map_eq_nil_iff] at himage
      exact hne himage
    · rintro ⟨hne, ⟨w, hw, hword⟩, himage⟩
      -- the word has one image, so the balanced one is the program
      rw [hword] at himage
      have hp : w = p.instructions.toList := (List.map_inj_right fun _ _ h => Option.some.inj h).1 himage
      subst hp
      refine ⟨hword, ?_, hw⟩
      intro h
      rw [h, List.map_nil, List.map_eq_nil_iff] at hword
      exact hne hword
  refine ⟨?_, hok, ?_⟩
  · constructor
    · rintro ⟨p, hp⟩
      obtain ⟨hne, hword, _⟩ := (hok p).1 hp
      exact ⟨hne, hword⟩
    · rintro ⟨hne, hword⟩
      obtain ⟨w, _, himage⟩ := word_iff.1 hword
      exact ⟨⟨w.toArray⟩, (hok _).2 ⟨hne, hword, himage⟩⟩
  · intro p hp
    obtain ⟨_, _, hne, hbalanced⟩ := parse_eq_ok_iff.1 hp
    constructor
    · have := List.length_pos_iff.2 hne
      rwa [Array.length_toList] at this
    · intro i e hi he
      rw [← Array.getElem?_toList] at hi
      exact hbalanced.hasPartner hi he

/-- A loop in a loop, with a no-break space between its symbols. -/
theorem parse_loop_in_loop : parse "+[ [-]\xa0>]" =
      .ok ⟨#[.increment, .loopOpen, .loopOpen, .decrement, .loopClose, .advance, .loopClose]⟩ ∧
    Word ['+', '[', '[', '-', ']', '>', ']'] ∧
    HasPartner [.increment, .loopOpen, .loopOpen, .decrement, .loopClose, .advance, .loopClose] 6 := by
  have hparse : parse "+[ [-]\xa0>]" =
      .ok ⟨#[.increment, .loopOpen, .loopOpen, .decrement, .loopClose, .advance, .loopClose]⟩ := by rfl
  obtain ⟨hiff, -, hends⟩ := parse_eq_ok_iff_word "+[ [-]\xa0>]"
  exact ⟨hparse, (hiff.1 ⟨_, hparse⟩).2, (hends _ hparse).2 6 .loopClose rfl rfl⟩

end Program

end TapeMachine
