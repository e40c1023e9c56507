import TapeMachine.Proofs.Table

/-!
# Matchings

The partners of a word pair its loop ends off: an index has at most one partner (`eq_of_partners`), and of two pairs
that are not apart one lies within the other (`Partners.nested`).  The jump table of a word is this matching, and what
it has no entry for is left over (`JumpTable.ofList_matching`).

What is left over in a word depends on how far the word can be read (`exists_opens_or_balanced_take`).  Either the
opens left over are the open loops at its end and no close is; or some close comes after a balanced word, and it is the
first one left over.
-/

namespace TapeMachine

variable {w : List Instruction} {i j k : Nat}

/-! ### One partner at most -/

/-- The jump table has room for one partner of an index. -/
theorem eq_of_partners (hj : Partners w i j ∨ Partners w j i) (hk : Partners w i k ∨ Partners w k i) : j = k := by
  rw [← JumpTable.partner?_ofList_iff] at hj hk
  rw [hj] at hk
  exact Option.some.inj hk

/-- The loop ends of a balanced part of a word are partners of each other. -/
theorem Balanced.exists_partners {body : List Instruction} (hbody : Balanced body) (pre post : List Instruction)
    {e : Instruction} (hi : (pre ++ body ++ post)[i]? = some e) (he : e.isPlain = false) (hpre : pre.length ≤ i)
    (hpost : i < pre.length + body.length) : ∃ j, pre.length ≤ j ∧ j < pre.length + body.length ∧
      (Partners (pre ++ body ++ post) i j ∨ Partners (pre ++ body ++ post) j i) := by
  obtain ⟨k, rfl⟩ := Nat.exists_eq_add_of_le hpre
  rw [List.getElem?_append_left (by simpa using hpost), List.getElem?_append_right hpre,
    Nat.add_sub_cancel_left] at hi
  obtain ⟨j, hj⟩ := hbody.hasPartner hi he
  have hlt : j < body.length := by
    rcases hj with h | h
    · exact h.lt_length
    · exact Nat.lt_trans h.lt h.lt_length
  exact ⟨pre.length + j, by omega, by omega, hj.imp (fun h => h.append pre post) fun h => h.append pre post⟩

namespace Partners

variable {a b c d : Nat}

/-- Two pairs do not cross. -/
theorem nested (h : Partners w a b) (h' : Partners w c d) (hac : a < c) (hcb : c < b) : d < b := by
  obtain ⟨pre, body, post, rfl, rfl, rfl, hbody⟩ := h.exists_eq
  have hw : pre ++ .loopOpen :: (body ++ .loopClose :: post) = pre ++ [.loopOpen] ++ body ++ .loopClose :: post := by
    simp
  rw [hw] at h'
  have hlength : (pre ++ [Instruction.loopOpen]).length = pre.length + 1 := by simp
  obtain ⟨d', -, hd', hpartners⟩ := hbody.exists_partners (pre ++ [.loopOpen]) (.loopClose :: post) h'.isOpen rfl
    (by omega) (by omega)
  have := eq_of_partners (.inl h') hpartners
  omega

/-- Two pairs are the same, or one lies within the other, or they are apart. -/
theorem same_or_nested_or_apart (h : Partners w a b) (h' : Partners w c d) :
    (a = c ∧ b = d) ∨ (a < c ∧ d < b) ∨ (c < a ∧ b < d) ∨ b < c ∨ d < a := by
  -- an open is no close
  have hbc : b ≠ c := fun heq => by
    have := h'.isOpen
    rw [← heq, h.isClose] at this
    cases this
  have hda : d ≠ a := fun heq => by
    have := h.isOpen
    rw [← heq, h'.isClose] at this
    cases this
  rcases Nat.lt_trichotomy a c with hac | rfl | hca
  · rcases Nat.lt_or_ge c b with hcb | hbc'
    · exact .inr (.inl ⟨hac, h.nested h' hac hcb⟩)
    · omega
  · exact .inl ⟨rfl, eq_of_partners (.inl h) (.inl h')⟩
  · rcases Nat.lt_or_ge a d with had | hda'
    · exact .inr (.inr (.inl ⟨hca, h'.nested h hca had⟩))
    · omega

/-- Partners in a word are partners in its beginning, if they stand there. -/
theorem of_append {v : List Instruction} (h : Partners (w ++ v) a b) (hb : b < w.length) : Partners w a b := by
  have hab := h.lt
  have hopen := h.isOpen
  have hclose := h.isClose
  have hbody := h.balanced
  rw [List.getElem?_append_left (by omega)] at hopen
  rw [List.getElem?_append_left hb] at hclose
  rw [List.extract_eq_take_drop, List.drop_append_of_le_length (by omega),
    List.take_append_of_le_length (by rw [List.length_drop]; omega), ← List.extract_eq_take_drop] at hbody
  exact ⟨hopen, hclose, hab, hbody⟩

/-- Partners in a word are partners in its end, if they stand there. -/
theorem of_append_right {v : List Instruction} (h : Partners (v ++ w) (v.length + a) (v.length + b)) :
    Partners w a b := by
  have hab := h.lt
  have hopen := h.isOpen
  have hclose := h.isClose
  have hbody := h.balanced
  rw [List.getElem?_append_right (Nat.le_add_right _ _), Nat.add_sub_cancel_left] at hopen hclose
  rw [List.extract_eq_take_drop, Nat.add_assoc, List.drop_length_add_append, Nat.add_sub_add_left,
    ← List.extract_eq_take_drop] at hbody
  exact ⟨hopen, hclose, by omega, hbody⟩

theorem min_max_iff : Partners w (min i j) (max i j) ↔ Partners w i j ∨ Partners w j i := by
  rcases Nat.lt_or_ge i j with hlt | hge
  · rw [Nat.min_eq_left (Nat.le_of_lt hlt), Nat.max_eq_right (Nat.le_of_lt hlt),
      or_iff_left fun h => Nat.lt_asymm h.lt hlt]
  · rw [Nat.min_eq_right hge, Nat.max_eq_left hge, or_iff_right fun h => Nat.not_lt_of_ge hge h.lt]

end Partners

/-! ### The entries of the jump table -/

namespace JumpTable

theorem getElem?_ofList_eq_some_iff : (ofList w)[i]? = some (some j) ↔ Partners w i j ∨ Partners w j i := by
  rw [← partner?_ofList_iff, partner?, Option.join_eq_some_iff]

theorem getElem?_ofList_eq_none_iff : (ofList w)[i]? = some none ↔ i < w.length ∧ ¬ HasPartner w i := by
  constructor
  · intro h
    have hlt := (Array.getElem?_eq_some_iff.1 h).1
    rw [size_ofList] at hlt
    refine ⟨hlt, ?_⟩
    rintro ⟨j, hj⟩
    rw [← getElem?_ofList_eq_some_iff, h] at hj
    cases hj
  · rintro ⟨hlt, hnone⟩
    rcases hentry : (ofList w)[i]? with _ | _ | j
    · rw [Array.getElem?_eq_none_iff, size_ofList] at hentry
      omega
    · rfl
    · exact absurd ⟨j, getElem?_ofList_eq_some_iff.1 hentry⟩ hnone

/-- The jump table of any word, whether its loops pair up or not, has an entry for exactly those indices that have a
partner, and the entry is the partner.  So an entry leads to an entry that leads back, and no two pairs cross. -/
theorem ofList_matching (w : List Instruction) :
    (ofList w).size = w.length ∧
      (∀ i j : Nat, (ofList w)[i]? = some (some j) ↔ Partners w (min i j) (max i j)) ∧
      (∀ i j : Nat, (ofList w)[i]? = some (some j) → (ofList w)[j]? = some (some i) ∧ i ≠ j) ∧
      (∀ a b c d : Nat, (ofList w)[a]? = some (some b) → (ofList w)[c]? = some (some d) →
        ¬ (a < c ∧ c < b ∧ b < d)) ∧
      ∀ (i : Nat) (e : Instruction), w[i]? = some e →
        ((ofList w)[i]? = some none ↔ e.isPlain = true ∨ ∀ j, ¬ Partners w (min i j) (max i j)) := by
  have hentry (i j : Nat) : (ofList w)[i]? = some (some j) ↔ Partners w (min i j) (max i j) := by
    rw [getElem?_ofList_eq_some_iff, Partners.min_max_iff]
  refine ⟨size_ofList w, hentry, ?_, ?_, ?_⟩
  · intro i j h
    rw [getElem?_ofList_eq_some_iff] at h ⊢
    refine ⟨h.symm, ?_⟩
    rcases h with h | h
    · exact Nat.ne_of_lt h.lt
    · exact Nat.ne_of_gt h.lt
  · rintro a b c d hab hcd ⟨hac, hcb, hbd⟩
    rw [hentry, Nat.min_eq_left (by omega), Nat.max_eq_right (by omega)] at hab hcd
    have := hab.nested hcd hac hcb
    omega
  · intro i e hi
    have hlt : i < w.length := (List.getElem?_eq_some_iff.1 hi).1
    simp only [getElem?_ofList_eq_none_iff, hlt, true_and, Partners.min_max_iff, HasPartner, not_exists]
    constructor
    · exact .inr
    · rintro (hplain | hnone) j
      · -- a plain instruction is neither end of a loop
        rintro (h | h)
        · have := h.isOpen
          rw [hi] at this
          cases this
          cases hplain
        · have := h.isClose
          rw [hi] at this
          cases this
          cases hplain
      · exact hnone j

/-- A close, then an open, then a loop: the first two are left over. -/
theorem ofList_matching_left_over :
    let w : List Instruction := [.loopClose, .loopOpen, .increment, .loopOpen, .decrement, .loopClose]
    (ofList w)[3]? = some (some 5) ∧ Partners w 3 5 ∧ (ofList w)[5]? = some (some 3) ∧
      (ofList w)[1]? = some none ∧ ∀ j, ¬ Partners w (min 1 j) (max 1 j) := by
  intro w
  obtain ⟨-, hentry, hback, -, hnone⟩ := ofList_matching w
  have hthree : (ofList w)[3]? = some (some 5) := by decide
  have hone : (ofList w)[1]? = some none := by decide
  refine ⟨hthree, (hentry 3 5).1 hthree, (hback 3 5 hthree).1, hone, ?_⟩
  exact ((hnone 1 .loopOpen rfl).1 hone).resolve_left (by decide)

end JumpTable

/-! ### What is left over -/

section Cut

variable (hclose : w[i]? = some .loopClose) (hbefore : Balanced (w.take i))

include hclose hbefore

/-- A close behind a balanced word is left over. -/
theorem not_hasPartner_of_balanced_take : ¬ HasPartner w i := by
  have hlt : i < w.length := (List.getElem?_eq_some_iff.1 hclose).1
  have hw : [] ++ w.take i ++ w.drop i = w := List.take_append_drop i w
  rintro ⟨j, hj | hj⟩
  · have := hj.isOpen
    rw [hclose] at this
    cases this
  · -- its open would have a partner before it
    have hji := hj.lt
    obtain ⟨k, -, hk, hpartners⟩ := hbefore.exists_partners [] (w.drop i) (hw.symm ▸ hj.isOpen) rfl (Nat.zero_le j)
      (by simp; omega)
    rw [hw] at hpartners
    have := eq_of_partners (.inl hj) hpartners
    simp at hk
    omega

omit hclose in
theorem hasPartner_of_lt_of_balanced_take (hk : k < i) {e : Instruction} (he : w[k]? = some e)
    (hend : e.isPlain = false) : HasPartner w k := by
  rw [← List.getElem?_take_of_lt hk] at he
  have := (hbefore.hasPartner he hend).append [] (w.drop i)
  simpa using this

end Cut

namespace Opens

variable {base : List Instruction → Prop} {opens : List Nat}

theorem nodup (h : Opens base w opens) : opens.Nodup := by
  induction h with
  | base _ => exact List.nodup_nil
  | loop h _ ih =>
    refine List.nodup_cons.2 ⟨?_, ih⟩
    intro hmem
    exact Nat.lt_irrefl _ (h.lt_length _ hmem)

/-- The loop ends behind the last open loop are partners of each other. -/
theorem exists_partners_behind {u body : List Instruction} (hbody : Balanced body) {e : Instruction}
    (hi : (u ++ .loopOpen :: body)[i]? = some e) (he : e.isPlain = false) (hlt : u.length < i) :
    ∃ j, u.length < j ∧ (Partners (u ++ .loopOpen :: body) i j ∨ Partners (u ++ .loopOpen :: body) j i) := by
  have hw : u ++ .loopOpen :: body = u ++ [.loopOpen] ++ body ++ [] := by simp
  have hlength : (u ++ [Instruction.loopOpen]).length = u.length + 1 := by simp
  have hend : i < u.length + 1 + body.length := by
    have := (List.getElem?_eq_some_iff.1 hi).1
    simp at this
    omega
  rw [hw] at hi ⊢
  obtain ⟨j, hj, -, hpartners⟩ := hbody.exists_partners (u ++ [.loopOpen]) [] hi he (by omega) (by omega)
  exact ⟨j, by omega, hpartners⟩

/-- If a word can be read to its end, no close is left over. -/
theorem hasPartner_of_close (h : Opens Balanced w opens) (hi : w[i]? = some .loopClose) : HasPartner w i := by
  induction h with
  | base h => exact h.hasPartner hi rfl
  | @loop u body opens _ hbody ih =>
    rcases Nat.lt_trichotomy i u.length with hlt | rfl | hgt
    · rw [List.getElem?_append_left hlt] at hi
      simpa using (ih hi).append [] (.loopOpen :: body)
    · simp at hi
    · obtain ⟨j, -, hpartners⟩ := exists_partners_behind hbody hi rfl hgt
      exact ⟨j, hpartners⟩

/-- If a word can be read to its end, the opens left over are its open loops. -/
theorem mem_iff (h : Opens Balanced w opens) : i ∈ opens ↔ w[i]? = some .loopOpen ∧ ¬ HasPartner w i := by
  induction h generalizing i with
  | base h =>
    simp only [List.not_mem_nil, false_iff, not_and, not_not]
    exact fun hi => h.hasPartner hi rfl
  | @loop u body opens h hbody ih =>
    rw [List.mem_cons]
    constructor
    · intro hmem
      have hle : i ≤ u.length := by
        rcases hmem with rfl | hmem
        · exact Nat.le_refl _
        · exact Nat.le_of_lt (h.lt_length i hmem)
      have hopen : (u ++ .loopOpen :: body)[i]? = some .loopOpen := by
        rcases hmem with rfl | hmem
        · simp
        · rw [List.getElem?_append_left (h.lt_length i hmem)]
          exact (ih.1 hmem).1
      refine ⟨hopen, ?_⟩
      rintro ⟨j, hj | hj⟩
      · rcases Nat.lt_trichotomy j u.length with hlt | rfl | hgt
        · -- both would stand before the last open loop
          have hij := hj.lt
          have hmem := hmem.resolve_left (by omega)
          exact (ih.1 hmem).2 ⟨j, .inl (hj.of_append hlt)⟩
        · have := hj.isClose
          simp at this
        · -- the close has its partner behind the last open loop
          obtain ⟨k, hk, hpartners⟩ := exists_partners_behind hbody hj.isClose rfl hgt
          have := eq_of_partners (.inr hj) hpartners
          omega
      · have := hj.isClose
        rw [hopen] at this
        cases this
    · rintro ⟨hi, hnone⟩
      rcases Nat.lt_trichotomy i u.length with hlt | rfl | hgt
      · rw [List.getElem?_append_left hlt] at hi
        refine .inr (ih.2 ⟨hi, ?_⟩)
        intro hpartner
        exact hnone (by simpa using hpartner.append [] (.loopOpen :: body))
      · exact .inl rfl
      · obtain ⟨j, -, hpartners⟩ := exists_partners_behind hbody hi rfl hgt
        exact absurd ⟨j, hpartners⟩ hnone

end Opens

end TapeMachine
