import Mathlib
import TapeMachine.Source.Load

/-!
# Loading under a limit

Of a file one byte more is looked at than the limit allows.  That is enough to tell whether the file is too large
(`Source.lt_size_sample_iff`), and if it is not, the whole of it is looked at (`Source.sample_of_size_le`).  So whether
a file is too large does not depend on what is in it, and whether it is UTF-8 matters only if it is not
(`Source.load_within_limit`).
-/

namespace TapeMachine

/-- The same error, met at another path. -/
def LoadError.at (path : String) : LoadError → LoadError
  | unreadable _ cause => unreadable path cause
  | tooLarge _ limit => tooLarge path limit

namespace Source

/-! ### The bytes that are looked at -/

section Sample

variable {limit : Nat} (hlimit : limit < Counter.max) {contents : ByteArray}

include hlimit

theorem sample_eq (contents : ByteArray) : sample limit contents = contents.extract 0 (limit + 1) := by
  rw [sample, Counter.wrap_of_le hlimit]

theorem lt_size_sample_iff : limit < (sample limit contents).size ↔ limit < contents.size := by
  rw [sample_eq hlimit, ByteArray.size_extract]
  omega

theorem sample_of_size_le (h : contents.size ≤ limit) : sample limit contents = contents := by
  apply ByteArray.ext
  rw [sample_eq hlimit, ByteArray.data_extract]
  exact Array.extract_eq_self_of_le (Nat.le_succ_of_le h)

end Sample

/-! ### The text that they stand for -/

theorem decode_eq_ok_iff {path text : String} {bytes : ByteArray} :
    decode path bytes = .ok text ↔ text.toUTF8 = bytes := by
  unfold decode String.fromUTF8?
  by_cases hvalid : bytes.IsValidUTF8
  · rw [dif_pos hvalid]
    dsimp only
    rw [Except.ok.injEq, ← String.toByteArray_inj]
    exact eq_comm
  · rw [dif_neg hvalid]
    refine iff_of_false (fun h => nomatch h) ?_
    rintro rfl
    exact hvalid text.isValidUTF8

/-- Bytes that stand for no text. -/
theorem decode_eq_notUtf8_iff {path : String} {bytes : ByteArray} :
    (∃ fault, decode path bytes = .error (.unreadable path (.notUtf8 fault))) ↔ ¬ bytes.IsValidUTF8 := by
  unfold decode String.fromUTF8?
  by_cases hvalid : bytes.IsValidUTF8
  · rw [dif_pos hvalid]
    exact iff_of_false (fun ⟨_, h⟩ => nomatch h) (not_not_intro hvalid)
  · rw [dif_neg hvalid]
    exact iff_of_true ⟨_, rfl⟩ hvalid

/-! ### Loading -/

variable {path path' : String} {contents contents' : ByteArray} {limit : Nat}

theorem load_of_lt_size (hlimit : limit < Counter.max) (path : String) (hlarge : limit < contents.size) :
    load path limit (.ok contents) = .error (.tooLarge path limit) := by
  unfold load
  simp only [Except.map, accept, if_pos ((lt_size_sample_iff hlimit).2 hlarge)]

theorem load_of_size_le (hlimit : limit < Counter.max) (path : String) (hfits : contents.size ≤ limit) :
    load path limit (.ok contents) = decode path contents := by
  unfold load
  simp only [Except.map, sample_of_size_le hlimit hfits, accept, if_neg (Nat.not_lt.2 hfits)]

/-- The path is named in an error and has no part in anything else. -/
theorem decode_at (path path' : String) (bytes : ByteArray) :
    decode path' bytes = (decode path bytes).mapError (LoadError.at path') := by
  unfold decode
  split <;> rfl

theorem load_of_sample_eq (path path' : String) (hsample : sample limit contents' = sample limit contents) :
    load path' limit (.ok contents') = (load path limit (.ok contents)).mapError (LoadError.at path') := by
  unfold load
  simp only [Except.map, hsample, accept]
  by_cases hlarge : limit < (sample limit contents).size
  · rw [if_pos hlarge, if_pos hlarge]
    rfl
  · rw [if_neg hlarge, if_neg hlarge]
    exact decode_at path path' _

/-- A file that can be read is refused for its size if it is larger than the limit, whatever is in it.  Otherwise it is
refused if it is not UTF-8, and if it is, the text is the one with these very bytes.  No more is made use of than one
byte past the limit, so the limit must not be the greatest counter. -/
theorem load_within_limit (path : String) (contents : ByteArray) : ∀ limit < Counter.max,
    let loaded := load path limit (.ok contents)
    (loaded = .error (.tooLarge path limit) ↔ limit < contents.size) ∧
      (contents.size ≤ limit →
        ((∃ fault, loaded = .error (.unreadable path (.notUtf8 fault))) ↔ ¬ contents.IsValidUTF8) ∧
          (contents.IsValidUTF8 → ∃ text, loaded = .ok text ∧ text.toUTF8 = contents)) ∧
      ∀ (path' : String) (contents' : ByteArray), contents'.extract 0 (limit + 1) = contents.extract 0 (limit + 1) →
        load path' limit (.ok contents') = loaded.mapError (LoadError.at path') := by
  intro limit hlimit loaded
  refine ⟨⟨?_, load_of_lt_size hlimit path⟩, ?_, ?_⟩
  · intro hloaded
    refine Nat.lt_of_not_le fun hfits => ?_
    have hdecoded : decode path contents = .error (.tooLarge path limit) :=
      (load_of_size_le hlimit path hfits).symm.trans hloaded
    unfold decode at hdecoded
    split at hdecoded <;> cases hdecoded
  · intro hfits
    have hloaded : loaded = decode path contents := load_of_size_le hlimit path hfits
    rw [hloaded]
    refine ⟨decode_eq_notUtf8_iff, fun hvalid => ?_⟩
    exact ⟨.fromUTF8 contents hvalid, decode_eq_ok_iff.2 rfl, rfl⟩
  · intro path' contents' hsame
    rw [← sample_eq hlimit, ← sample_eq hlimit] at hsame
    exact load_of_sample_eq path path' hsame

/-- A limit that cuts a character in two, and a character that is broken off by another one. -/
theorem load_within_limit_cut :
    let whole : ByteArray := ⟨#[0x2b, 0xc3, 0xa9]⟩
    let broken : ByteArray := ⟨#[0x2b, 0xc3, 0x2e, 0x2e]⟩
    4 < Counter.max ∧
      load "/w" 1 (.ok whole) = .error (.tooLarge "/w" 1) ∧ load "b" 1 (.ok broken) = .error (.tooLarge "b" 1) ∧
      (∃ text, load "/w" 3 (.ok whole) = .ok text ∧ text.toUTF8 = whole) ∧
      ∃ fault, load "b" 4 (.ok broken) = .error (.unreadable "b" (.notUtf8 fault)) := by
  intro whole broken
  have hvalid : whole.IsValidUTF8 := ⟨['+', 'é'], by decide⟩
  have hinvalid : ¬ broken.IsValidUTF8 := by decide
  obtain ⟨hlarge, -, hsame⟩ := load_within_limit "/w" whole 1 (by decide)
  obtain ⟨-, hfits, -⟩ := load_within_limit "/w" whole 3 (by decide)
  obtain ⟨-, hfaulty, -⟩ := load_within_limit "b" broken 4 (by decide)
  have hcut : load "/w" 1 (.ok whole) = .error (.tooLarge "/w" 1) := hlarge.2 (by decide)
  refine ⟨by decide, hcut, ?_, (hfits (by decide)).2 hvalid, (hfaulty (by decide)).1.2 hinvalid⟩
  rw [hsame "b" broken (by decide), hcut]
  rfl

end Source

end TapeMachine
