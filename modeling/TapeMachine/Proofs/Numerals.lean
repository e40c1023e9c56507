import TapeMachine.Command.Count

/-!
# Numerals and their values

A numeral denotes the value of its decimal digits (`Text.Numeral.Denotes`), which has no bound.  The value that is kept
while a numeral is read never goes down, so once it does not fit the counter, the value of the whole numeral does not
either (`Text.Numeral.readOnto_of_digits`).  So a text is read if and only if it is a numeral that denotes what is read
and that fits (`Text.Numeral.read_eq_ok_iff`), and counts are those numerals that do not denote zero
(`Command.readCount_exact`).
-/

namespace TapeMachine

namespace Text.Numeral

/-- An optional plus sign and one or more decimal digits, which have a value. -/
def Denotes (text : String) (n : Nat) : Prop :=
  ∃ digits, digits ≠ [] ∧ (text.toList = digits ∨ text.toList = '+' :: digits) ∧
    (∀ c ∈ digits, c.isDigit = true) ∧ Nat.ofDigitChars 10 digits 0 = n

/-! ### Digits -/

theorem ofDigitChars_cons (c : Char) (digits : List Char) (n : Nat) :
    Nat.ofDigitChars 10 (c :: digits) n = Nat.ofDigitChars 10 digits (10 * n + digitValue c) :=
  Nat.ofDigitChars_cons

/-- Digits that follow make a value no smaller. -/
theorem le_ofDigitChars (digits : List Char) (n : Nat) : n ≤ Nat.ofDigitChars 10 digits n := by
  induction digits generalizing n with
  | nil => exact Nat.le_refl n
  | cons c digits ih =>
    rw [ofDigitChars_cons]
    have := ih (10 * n + digitValue c)
    omega

theorem readOnto_of_digits {n : Nat} {digits : List Char} (hdigits : ∀ c ∈ digits, c.isDigit = true)
    (hn : n ≤ Counter.max) : readOnto n digits =
      if Counter.max < Nat.ofDigitChars 10 digits n then .error .tooLarge else .ok (Nat.ofDigitChars 10 digits n) := by
  fun_induction readOnto n digits with
  | case1 n => rw [Nat.ofDigitChars_nil, if_neg (Nat.not_lt.2 hn)]
  | case2 n c rest hc =>
    have := hdigits c List.mem_cons_self
    simp [this] at hc
  | case3 n c rest _ hlarge =>
    have hvalue := le_ofDigitChars rest (10 * n + digitValue c)
    rw [ofDigitChars_cons, if_pos (Nat.lt_of_lt_of_le hlarge hvalue)]
  | case4 n c rest _ hfits ih =>
    rw [ofDigitChars_cons]
    exact ih (fun c hc => hdigits c (List.mem_cons_of_mem _ hc)) (Nat.le_of_not_lt hfits)

theorem isDigit_of_readOnto {n v : Nat} {digits : List Char} (h : readOnto n digits = .ok v) :
    ∀ c ∈ digits, c.isDigit = true := by
  fun_induction readOnto n digits with
  | case1 => exact nofun
  | case2 => cases h
  | case3 => cases h
  | case4 n c rest hc _ ih =>
    refine List.forall_mem_cons.2 ⟨?_, ih h⟩
    simpa using hc

/-! ### Signs -/

/-- A sign is passed over if there is one; the first digit is no sign. -/
theorem read_of_digits {text : String} {digits : List Char} (hne : digits ≠ [])
    (htext : text.toList = digits ∨ text.toList = '+' :: digits) (hdigits : ∀ c ∈ digits, c.isDigit = true) :
    read text = readOnto 0 digits := by
  obtain ⟨c, rest, rfl⟩ := List.exists_cons_of_ne_nil hne
  unfold read
  rcases htext with htext | htext
  · rw [htext]
    split
    · rename_i hnil
      cases hnil
    · rename_i heq
      cases heq
      have := hdigits '+' List.mem_cons_self
      cases this
    · rfl
  · rw [htext]
    rfl

theorem exists_digits_of_read {text : String} {v : Nat} (h : read text = .ok v) :
    ∃ digits, digits ≠ [] ∧ (text.toList = digits ∨ text.toList = '+' :: digits) ∧ readOnto 0 digits = .ok v := by
  have hdigits {digits : List Char} (h : readDigits digits = .ok v) : digits ≠ [] ∧ readOnto 0 digits = .ok v := by
    unfold readDigits at h
    split at h
    · cases h
    · rename_i hne
      exact ⟨hne, h⟩
  unfold read at h
  split at h
  · cases h
  · rename_i digits heq
    obtain ⟨hne, hread⟩ := hdigits h
    exact ⟨digits, hne, .inr heq, hread⟩
  · obtain ⟨hne, hread⟩ := hdigits h
    exact ⟨text.toList, hne, .inl rfl, hread⟩

/-! ### Texts -/

theorem Denotes.read_eq {text : String} {n : Nat} (h : Denotes text n) :
    read text = if Counter.max < n then .error .tooLarge else .ok n := by
  obtain ⟨digits, hne, htext, hdigits, rfl⟩ := h
  rw [read_of_digits hne htext hdigits, readOnto_of_digits hdigits (Nat.zero_le _)]

theorem read_eq_ok_iff {text : String} {n : Nat} : read text = .ok n ↔ Denotes text n ∧ n ≤ Counter.max := by
  constructor
  · intro h
    obtain ⟨digits, hne, htext, hread⟩ := exists_digits_of_read h
    have hdenotes : Denotes text (Nat.ofDigitChars 10 digits 0) :=
      ⟨digits, hne, htext, isDigit_of_readOnto hread, rfl⟩
    rw [hdenotes.read_eq] at h
    split at h
    · cases h
    · rename_i hfits
      cases h
      exact ⟨hdenotes, Nat.le_of_not_lt hfits⟩
  · rintro ⟨hdenotes, hfits⟩
    rw [hdenotes.read_eq, if_neg (Nat.not_lt.2 hfits)]

theorem Denotes.read_eq_tooLarge_iff {text : String} {n : Nat} (h : Denotes text n) :
    read text = .error .tooLarge ↔ Counter.max < n := by
  rw [h.read_eq]
  split
  · exact iff_of_true rfl ‹_›
  · exact iff_of_false nofun ‹_›

/-- Every number is denoted by its decimal text. -/
theorem denotes_toString (n : Nat) : Denotes (toString n) n := by
  refine ⟨Nat.toDigits 10 n, Nat.toDigits_ne_nil, .inl ?_, ?_, Nat.ofDigitChars_ten_toDigits⟩
  · rw [Nat.toString_eq_repr, Nat.toList_repr]
  · exact fun c hc => Nat.isDigit_of_mem_toDigits (by decide) (by decide) hc

end Text.Numeral

namespace Command

open Text (NumeralError)
open Text.Numeral (Denotes)

/-! ### Counts -/

variable {text : String} {n : Nat}

theorem readCount_eq_ok_iff : readCount text = .ok n ↔ Denotes text n ∧ 1 ≤ n ∧ n ≤ Counter.max := by
  constructor
  · intro h
    unfold readCount at h
    split at h
    · cases h
    · cases h
    · rename_i v hne hread
      cases h
      obtain ⟨hdenotes, hfits⟩ := Text.Numeral.read_eq_ok_iff.1 hread
      exact ⟨hdenotes, Nat.one_le_iff_ne_zero.2 hne, hfits⟩
  · rintro ⟨hdenotes, hpos, hfits⟩
    obtain ⟨k, rfl⟩ := Nat.exists_eq_add_of_le' hpos
    unfold readCount
    rw [Text.Numeral.read_eq_ok_iff.2 ⟨hdenotes, hfits⟩]
    rfl

theorem readCount_eq_zero_iff : readCount text = .error .zero ↔ Denotes text 0 := by
  constructor
  · intro h
    unfold readCount at h
    split at h
    · cases h
    · rename_i hread
      exact (Text.Numeral.read_eq_ok_iff.1 hread).1
    · cases h
  · intro hdenotes
    unfold readCount
    rw [Text.Numeral.read_eq_ok_iff.2 ⟨hdenotes, Nat.zero_le _⟩]
    rfl

theorem readCount_eq_malformed_iff {cause : NumeralError} :
    readCount text = .error (.malformed text cause) ↔ Text.Numeral.read text = .error cause := by
  unfold readCount
  split
  · rename_i heq
    rw [heq, Except.error.injEq, Except.error.injEq, CountError.malformed.injEq]
    exact and_iff_right rfl
  · rename_i heq
    rw [heq]
    exact iff_of_false nofun nofun
  · rename_i heq
    rw [heq]
    exact iff_of_false nofun nofun

/-- A count that is malformed is so as the text that it was given as. -/
theorem text_eq_of_readCount {text' : String} {cause : NumeralError}
    (h : readCount text = .error (.malformed text' cause)) : text' = text := by
  unfold readCount at h
  split at h
  · cases h
    rfl
  · cases h
  · cases h

namespace CountError

variable (what : String)

/-- The message that a count is zero is that of no other error. -/
theorem message_eq_message_zero_iff {e : CountError} : e.message what = zero.message what ↔ e = zero := by
  cases e with
  | zero => exact iff_of_true rfl rfl
  | malformed text cause =>
    refine iff_of_false (fun h => ?_) nofun
    have hchars := congrArg String.toList h
    simp [message, String.toList_append] at hchars

theorem message_malformed_inj {cause cause' : NumeralError} :
    (malformed text cause).message what = (malformed text cause').message what ↔ cause = cause' := by
  unfold message
  rw [String.append_right_inj]
  cases cause <;> cases cause' <;> decide

end CountError

variable (what : String)

theorem mapError_eq_ok_iff : (readCount text).mapError (CountError.message what) = .ok n ↔ readCount text = .ok n := by
  cases readCount text with
  | ok v =>
    change Except.ok v = Except.ok n ↔ _
    rw [Except.ok.injEq, Except.ok.injEq]
  | error e => exact iff_of_false nofun nofun

theorem mapError_eq_zero_iff : (readCount text).mapError (CountError.message what) =
    .error (CountError.zero.message what) ↔ readCount text = .error .zero := by
  cases readCount text with
  | ok v => exact iff_of_false nofun nofun
  | error e =>
    change Except.error (e.message what) = _ ↔ _
    rw [Except.error.injEq, Except.error.injEq]
    exact CountError.message_eq_message_zero_iff what

theorem mapError_eq_malformed_iff {cause : NumeralError} : (readCount text).mapError (CountError.message what) =
    .error ((CountError.malformed text cause).message what) ↔ readCount text = .error (.malformed text cause) := by
  cases hcount : readCount text with
  | ok v => exact iff_of_false nofun nofun
  | error e =>
    change Except.error (e.message what) = _ ↔ _
    rw [Except.error.injEq, Except.error.injEq]
    cases e with
    | zero =>
      refine iff_of_false (fun h => ?_) nofun
      cases (CountError.message_eq_message_zero_iff what).1 h.symm
    | malformed text' cause' =>
      obtain rfl := text_eq_of_readCount hcount
      rw [CountError.malformed.injEq, CountError.message_malformed_inj]
      exact (and_iff_right rfl).symm

/-- A text is read as a count if it is a numeral that denotes the count, which is at least one and less than
`UInt64.size`.  A numeral that denotes zero, and no other text, is told to be zero; a numeral that does not denote less
than `UInt64.size`, and no other numeral, is told to be too large.  The decimal text of a count is read as that
count. -/
theorem readCount_exact :
    let parse (text : String) := (readCount text).mapError (CountError.message what)
    (∀ text n, parse text = .ok n ↔ Denotes text n ∧ 1 ≤ n ∧ n < UInt64.size) ∧
      (∀ text, parse text = .error ("The " ++ what ++ " should be more than zero") ↔ Denotes text 0) ∧
      (∀ text n, Denotes text n →
        (parse text = .error ("Invalid " ++ what ++ " '" ++ text ++ "': number too large to fit in target type") ↔
          UInt64.size ≤ n)) ∧
      ∀ n, 1 ≤ n → n < UInt64.size → parse (toString n) = .ok n := by
  intro parse
  have hmax : UInt64.size = Counter.max + 1 := rfl
  have hok (text : String) (n : Nat) : parse text = .ok n ↔ Denotes text n ∧ 1 ≤ n ∧ n < UInt64.size := by
    rw [mapError_eq_ok_iff, readCount_eq_ok_iff, hmax, Nat.lt_succ_iff]
  refine ⟨hok, ?_, ?_, ?_⟩
  · intro text
    exact (mapError_eq_zero_iff what).trans readCount_eq_zero_iff
  · intro text n hdenotes
    have htold : parse text = .error ((CountError.malformed text .tooLarge).message what) ↔
        readCount text = .error (.malformed text .tooLarge) := mapError_eq_malformed_iff what
    have hmessage : (CountError.malformed text .tooLarge).message what =
        "Invalid " ++ what ++ " '" ++ text ++ "': number too large to fit in target type" := String.append_assoc
    rw [← hmessage, htold, readCount_eq_malformed_iff, hdenotes.read_eq_tooLarge_iff, hmax, Nat.lt_iff_add_one_le]
  · intro n hpos hlt
    exact (hok (toString n) n).2 ⟨Text.Numeral.denotes_toString n, hpos, hlt⟩

/-- A sign and leading zeros before the greatest count, and the first number that is too large. -/
theorem readCount_exact_greatest :
    let parse (text : String) := (readCount text).mapError (CountError.message "step limit")
    Denotes "+00018446744073709551615" 18446744073709551615 ∧ Denotes "18446744073709551616" 18446744073709551616 ∧
      parse "+00018446744073709551615" = .ok 18446744073709551615 ∧
      parse "18446744073709551616" =
        .error "Invalid step limit '18446744073709551616': number too large to fit in target type" ∧
      parse (toString 18446744073709551615) = .ok 18446744073709551615 := by
  intro parse
  have hfits : Denotes "+00018446744073709551615" 18446744073709551615 :=
    ⟨"00018446744073709551615".toList, by decide, .inr (by decide), List.all_eq_true.1 (by decide), by decide⟩
  have hlarge : Denotes "18446744073709551616" 18446744073709551616 :=
    ⟨"18446744073709551616".toList, by decide, .inl rfl, List.all_eq_true.1 (by decide), by decide⟩
  obtain ⟨hok, -, htooLarge, htext⟩ := readCount_exact "step limit"
  exact ⟨hfits, hlarge, (hok _ _).2 ⟨hfits, by decide, by decide⟩, (htooLarge _ _ hlarge).2 (by decide),
    htext _ (by decide) (by decide)⟩

end Command

end TapeMachine
