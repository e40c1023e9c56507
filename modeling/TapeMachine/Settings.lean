import TapeMachine.Machine.Run

/-!
# Settings

The policy around a run: how large a source text may be and how many instructions it may dispatch.
-/

namespace TapeMachine

structure Settings where
  /-- The largest source text, in bytes: one mebibyte unless said otherwise. -/
  sourceLimit : Nat := 1024 * 1024
  stepLimit : Option Nat := none
deriving DecidableEq, Repr

namespace Settings

/-- Both limits are counters, and the one on the source is not the greatest of them, so that one byte past it can be
looked at. -/
structure Within (settings : Settings) : Prop where
  sourceLimit_lt : settings.sourceLimit < Counter.max
  stepLimit_le : ∀ n ∈ settings.stepLimit, n ≤ Counter.max

/-- The limits of a run, without a cancel flag. -/
def limits (settings : Settings) {σ : Type} : Limits σ where
  steps := settings.stepLimit

end Settings

end TapeMachine
