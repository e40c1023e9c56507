import TapeMachine.Command.Arguments
import TapeMachine.Proofs.Numerals

/-!
# Counts on a command line

A count that is read is at least one and fits the counter (`inBounds_of_readCount`), and whatever is met on a command
line, the counts known so far stay within these bounds (`Reading.Counted.take`).  So the limits that a command line
sets are within them too (`Arguments.inBounds_of_parse`), and what is known of a command whose limits are counters
holds of what it asks for (`Arguments.within_of_parse`).
-/

namespace TapeMachine

namespace Command

/-- Within the bounds of a count. -/
def InBounds (n : Nat) : Prop := 1 ≤ n ∧ n ≤ Counter.max

theorem inBounds_of_readCount {text : String} {n : Nat} (h : readCount text = .ok n) : InBounds n :=
  (readCount_eq_ok_iff.1 h).2

namespace Reading

/-- The counts known so far are within their bounds. -/
structure Counted (r : Reading) : Prop where
  sourceSize : ∀ n ∈ r.sourceSize, InBounds n
  stepLimit : ∀ n ∈ r.stepLimit, InBounds n

theorem inBounds_of_readCount {quantity : Quantity} {value : String} {n : Nat}
    (h : readCount quantity value = .ok n) : InBounds n := by
  unfold readCount at h
  split at h
  · cases h
    rename_i hread
    exact Command.inBounds_of_readCount hread
  · cases h

namespace Counted

variable {r r' : Reading}

theorem assign (h : r.Counted) {value : String} {parameter : Parameter} (hr : r.assign value parameter = .ok r') :
    r'.Counted := by
  unfold Reading.assign at hr
  split at hr
  · split at hr
    · cases hr
    · cases hr
      exact ⟨h.sourceSize, h.stepLimit⟩
  · cases hread : readCount .sourceSize value with
    | error cause =>
      rw [hread] at hr
      cases hr
    | ok n =>
      rw [hread] at hr
      cases hr
      exact ⟨by rintro _ ⟨⟩; exact inBounds_of_readCount hread, h.stepLimit⟩
  · split at hr
    · cases hr
    · cases hread : readCount .stepLimit value with
      | error cause =>
        rw [hread] at hr
        cases hr
      | ok n =>
        rw [hread] at hr
        cases hr
        exact ⟨h.sourceSize, by rintro _ ⟨⟩; exact inBounds_of_readCount hread⟩

theorem settle (h : r.Counted) (hr : r.settle = .ok r') : r'.Counted := by
  unfold Reading.settle at hr
  split at hr
  · cases hr
    exact h
  · cases hr
  · exact assign (r := { r with waiting := none }) ⟨h.sourceSize, h.stepLimit⟩ hr

theorem raise (h : r.Counted) {flag : Flag} (hr : r.raise flag = .ok r') : r'.Counted := by
  unfold Reading.raise at hr
  split at hr
  · cases hr
  · rename_i r₁ hsettle
    have h₁ := h.settle hsettle
    split at hr
    · cases hr
      exact ⟨h₁.sourceSize, h₁.stepLimit⟩
    · split at hr
      · cases hr
      · cases hr
        exact ⟨h₁.sourceSize, h₁.stepLimit⟩
    · cases hr

theorem raiseAll (h : r.Counted) {letters : List Char} (hr : r.raiseAll letters = .ok r') : r'.Counted := by
  induction letters generalizing r with
  | nil =>
    cases hr
    exact h
  | cons letter letters ih =>
    unfold Reading.raiseAll at hr
    split at hr
    · cases hr
    · split at hr
      · rename_i hraise
        exact ih (h.raise hraise) hr
      · cases hr

theorem expectStepLimit (h : r.Counted) {value : Option String} (hr : r.expectStepLimit value = .ok r') :
    r'.Counted := by
  unfold Reading.expectStepLimit at hr
  split at hr
  · cases hr
  · rename_i r₁ hsettle
    have h₁ := h.settle hsettle
    have hwaiting : ({ r₁ with waiting := some (.count .stepLimit, value) } : Reading).Counted :=
      ⟨h₁.sourceSize, h₁.stepLimit⟩
    dsimp only at hr
    split at hr
    · exact hwaiting.settle hr
    · cases hr
      exact hwaiting

theorem takeLong (h : r.Counted) {name : String} {value : Option String} (hr : r.takeLong name value = .ok r') :
    r'.Counted := by
  unfold Reading.takeLong at hr
  split at hr
  · exact h.expectStepLimit hr
  · split at hr
    · cases hr
    · cases hr
    · exact h.raise hr

theorem takeOperand (h : r.Counted) {text : String} (hr : r.takeOperand text = .ok r') : r'.Counted := by
  unfold Reading.takeOperand at hr
  split at hr
  · cases hr
  · split at hr
    · cases hr
    · rename_i r₁ hsettle
      have h₁ := h.settle hsettle
      cases hr
      exact ⟨h₁.sourceSize, h₁.stepLimit⟩

theorem takePlain (h : r.Counted) {text : String} (hr : r.takePlain text = .ok r') : r'.Counted := by
  unfold Reading.takePlain at hr
  split at hr
  · cases hr
    exact ⟨h.sourceSize, h.stepLimit⟩
  · exact h.takeOperand hr

theorem take (h : r.Counted) {text : String} (hr : r.take text = .ok r') : r'.Counted := by
  unfold Reading.take at hr
  split at hr
  · exact h.takeOperand hr
  · split at hr
    · exact h.takeLong hr
    · exact h.raiseAll hr
    · cases hr
      exact ⟨h.sourceSize, h.stepLimit⟩
    · exact h.takePlain hr

theorem foldlM_take (h : r.Counted) {texts : List String} (hr : texts.foldlM Reading.take r = .ok r') :
    r'.Counted := by
  induction texts generalizing r with
  | nil =>
    cases hr
    exact h
  | cons text texts ih =>
    rw [List.foldlM_cons] at hr
    cases htake : r.take text with
    | error cause =>
      rw [htake] at hr
      cases hr
    | ok r₁ =>
      rw [htake] at hr
      exact ih (h.take htake) hr

theorem finish (h : r.Counted) {arguments : Arguments} (hr : r.finish = .ok arguments) :
    InBounds arguments.settings.sourceLimit ∧ ∀ n ∈ arguments.settings.stepLimit, InBounds n := by
  unfold Reading.finish at hr
  split at hr
  · cases hr
  · rename_i r₁ hsettle
    have h₁ := h.settle hsettle
    split at hr
    · cases hr
    · cases hr
    · cases hr
      refine ⟨?_, h₁.stepLimit⟩
      dsimp only
      cases hsize : r₁.sourceSize with
      | none => exact ⟨by decide, by decide⟩
      | some n => exact h₁.sourceSize n hsize

end Counted

end Reading

/-- The limits that a command line sets are within the bounds of a count. -/
theorem Arguments.inBounds_of_parse {texts : List String} {arguments : Arguments}
    (h : Arguments.parse texts = .ok arguments) :
    InBounds arguments.settings.sourceLimit ∧ ∀ n ∈ arguments.settings.stepLimit, InBounds n := by
  unfold Arguments.parse at h
  split at h
  · rename_i r hr
    have hnothing : ({} : Reading).Counted := ⟨nofun, nofun⟩
    exact (hnothing.foldlM_take hr).finish h
  · cases h

theorem Arguments.within_of_parse {texts : List String} {arguments : Arguments}
    (h : Arguments.parse texts = .ok arguments) (hlimit : arguments.settings.sourceLimit ≠ Counter.max) :
    arguments.settings.Within := by
  obtain ⟨⟨-, hsource⟩, hsteps⟩ := Arguments.inBounds_of_parse h
  exact ⟨Nat.lt_of_le_of_ne hsource hlimit, fun n hn => (hsteps n hn).2⟩

end Command

end TapeMachine
