import Mathlib.Order.Bounds.Basic
import TapeMachine.Proofs.Cuts

/-!
# Where a run stops

A run stops after the least number of steps after which its program has finished, its step limit is used up or its
cancel flag is set (`Machine.Stops`), and of several reasons it tells the first (`Machine.runFor_of_isLeast`).  Nothing
is asked of the flag, which may depend on the number of steps and on what has happened on the streams.  A run that
fails has gone through steps before which there was no reason to stop, as every run has
(`Machine.exists_snd_runFor_eq`).
-/

namespace TapeMachine.Machine

variable {σ : Type} [Host σ] {m : Machine} {s : σ} {limits : Limits σ} {k : ℕ}

/-! ### Reasons to stop -/

/-- A reason to stop a run is there after so many of its steps. -/
def Stops (m : Machine) (s : σ) (limits : Limits σ) (k : ℕ) : Halt → Prop
  | .finished => (m.after s k).1.isFinished = true
  | .stepLimit => ∃ n ∈ limits.steps, min n (Counter.max - m.steps) ≤ k
  | .cancelled => ∃ flag ∈ limits.cancel, flag (m.dispatched + k) (m.after s k).2 = true

instance : ∀ why, Decidable (m.Stops s limits k why)
  | .finished => inferInstanceAs (Decidable (_ = true))
  | .stepLimit => inferInstanceAs (Decidable (∃ n ∈ limits.steps, _))
  | .cancelled => inferInstanceAs (Decidable (∃ flag ∈ limits.cancel, _))

/-- The first reason to stop a run after so many of its steps, if there is one. -/
def firstReason? (m : Machine) (s : σ) (limits : Limits σ) (k : ℕ) : Option Halt :=
  [.finished, .stepLimit, .cancelled].find? fun why => m.Stops s limits k why

theorem firstReason?_eq_none_iff : m.firstReason? s limits k = none ↔ ∀ why, ¬ m.Stops s limits k why := by
  rw [firstReason?, List.find?_eq_none]
  constructor
  · intro h why
    have := h why (by cases why <;> decide)
    simpa using this
  · intro h why _
    simpa using h why

section Order

theorem firstReason?_of_finished (h : m.Stops s limits k .finished) :
    m.firstReason? s limits k = some .finished :=
  List.find?_cons_of_pos (by simpa using h)

variable (hfinished : ¬ m.Stops s limits k .finished)

include hfinished

theorem firstReason?_of_stepLimit (h : m.Stops s limits k .stepLimit) :
    m.firstReason? s limits k = some .stepLimit := by
  rw [firstReason?, List.find?_cons_of_neg (by simpa using hfinished)]
  exact List.find?_cons_of_pos (by simpa using h)

theorem firstReason?_of_cancelled (hlimit : ¬ m.Stops s limits k .stepLimit) (h : m.Stops s limits k .cancelled) :
    m.firstReason? s limits k = some .cancelled := by
  rw [firstReason?, List.find?_cons_of_neg (by simpa using hfinished), List.find?_cons_of_neg (by simpa using hlimit)]
  exact List.find?_cons_of_pos (by simpa using h)

end Order

/-- The counter does not begin again before the step limit is used up, so it shows when that is. -/
theorem budget_any_iff (hgo : m.GoesOn s k) (hbefore : ∀ j < k, ¬ m.Stops s limits j .stepLimit) :
    (m.budget limits).any (· ≤ (m.after s k).1.steps) = true ↔ m.Stops s limits k .stepLimit := by
  cases hlimit : limits.steps with
  | none => simp [budget, Stops, hlimit]
  | some n =>
    have hstops (j : ℕ) : m.Stops s limits j .stepLimit ↔ min n (Counter.max - m.steps) ≤ j := by
      simp [Stops, hlimit]
    have hcounter := m.steps_le
    have hle : m.steps + k ≤ Counter.max := by
      cases k with
      | zero => exact hcounter
      | succ k =>
        have := (hstops k).not.1 (hbefore k (Nat.lt_succ_self k))
        omega
    rw [hstops, hgo.steps_after_of_le hle]
    simp only [budget, hlimit, Counter.add, Option.map_some, Option.any_some, decide_eq_true_eq]
    omega

/-- A run looks at the reasons in their order. -/
theorem halt?_eq_firstReason? (hgo : m.GoesOn s k) (hbefore : ∀ j < k, ¬ m.Stops s limits j .stepLimit) :
    halt? (m.budget limits) limits.cancel (m.after s k).1 (m.after s k).2 = m.firstReason? s limits k := by
  have hend : (m.after s k).1.isFinished = true ↔ m.Stops s limits k .finished := Iff.rfl
  have hbudget := budget_any_iff hgo hbefore
  have hflag : (limits.cancel.any fun flag => flag (m.dispatched + k) (m.after s k).2) = true ↔
      m.Stops s limits k .cancelled := Option.any_eq_true _ _
  rw [halt?, hgo.dispatched_after]
  by_cases hfinished : m.Stops s limits k .finished
  · rw [if_pos (hend.2 hfinished), firstReason?_of_finished hfinished]
  · rw [if_neg (mt hend.1 hfinished)]
    by_cases hlimit : m.Stops s limits k .stepLimit
    · rw [if_pos (hbudget.2 hlimit), firstReason?_of_stepLimit hfinished hlimit]
    · rw [if_neg (mt hbudget.1 hlimit)]
      by_cases hset : m.Stops s limits k .cancelled
      · rw [if_pos (hflag.2 hset), firstReason?_of_cancelled hfinished hlimit hset]
      · rw [if_neg (mt hflag.1 hset), firstReason?_eq_none_iff.2]
        rintro (_ | _ | _) <;> assumption

/-! ### Steps without a reason to stop -/

theorem halt?_eq_none_iff (hbefore : ∀ j < k, ∀ why, ¬ m.Stops s limits j why) :
    halt? (m.budget limits) limits.cancel (m.after s k).1 (m.after s k).2 = none ↔
      ∀ why, ¬ m.Stops s limits k why := by
  rw [halt?_eq_firstReason? (fun j hj => hbefore j hj .finished) (fun j hj => hbefore j hj .stepLimit),
    firstReason?_eq_none_iff]

/-- A run goes on through all the steps before which there is no reason to stop. -/
theorem runUntil_of_forall_not_stops (hbefore : ∀ j < k, ∀ why, ¬ m.Stops s limits j why)
    (hfailures : m.failures s k = []) (fuel : ℕ) :
    runUntil (m.budget limits) limits.cancel (k + fuel) m s =
      runUntil (m.budget limits) limits.cancel fuel (m.after s k).1 (m.after s k).2 := by
  refine runUntil_of_forall_halt? (fun j hj => ?_) hfailures fuel
  exact (halt?_eq_none_iff fun i hi => hbefore i (Nat.lt_trans hi hj)).2 (hbefore j hj)

/-- A run is still going on after as many instructions as it may dispatch, if there has been no reason to stop. -/
theorem runFor_of_forall_not_stops {fuel : ℕ} (hbefore : ∀ j ≤ fuel, ∀ why, ¬ m.Stops s limits j why)
    (hfailures : m.failures s fuel = []) : m.runFor fuel limits s = (none, m.after s fuel) := by
  have hearlier : ∀ j < fuel, ∀ why, ¬ m.Stops s limits j why := fun j hj => hbefore j (Nat.le_of_lt hj)
  have hhalt := (halt?_eq_none_iff hearlier).2 (hbefore fuel (Nat.le_refl fuel))
  have hrun := runUntil_of_forall_not_stops hearlier hfailures 0
  rw [Nat.add_zero, runUntil, hhalt] at hrun
  unfold runFor
  rw [hrun]
  rfl

/-- A run stops at the first reason, after the least number of steps after which there is one. -/
theorem runFor_of_isLeast (hleast : IsLeast {k | ∃ why, m.Stops s limits k why} k) (hfailures : m.failures s k = []) :
    m.GoesOn s k ∧ ∃ why, m.firstReason? s limits k = some why ∧ ∀ fuel, m.runFor fuel limits s =
      if k ≤ fuel then (some (.ok ⟨why, Counter.wrap (m.steps + k)⟩), m.after s k) else (none, m.after s fuel) := by
  obtain ⟨⟨why', hwhy'⟩, hleast⟩ := hleast
  have hbefore : ∀ j < k, ∀ why, ¬ m.Stops s limits j why :=
    fun j hj why hwhy => Nat.not_le_of_lt hj (hleast ⟨why, hwhy⟩)
  have hgo : m.GoesOn s k := fun j hj => hbefore j hj .finished
  obtain ⟨why, hwhy⟩ := Option.ne_none_iff_exists'.1 fun hnone => firstReason?_eq_none_iff.1 hnone why' hwhy'
  refine ⟨hgo, why, hwhy, fun fuel => ?_⟩
  by_cases hfuel : k ≤ fuel
  · obtain ⟨rest, rfl⟩ := Nat.exists_eq_add_of_le hfuel
    have hhalt := (halt?_eq_firstReason? hgo fun j hj => hbefore j hj .stepLimit).trans hwhy
    unfold runFor
    rw [if_pos hfuel, runUntil_of_forall_not_stops hbefore hfailures, runUntil_of_halt hhalt, ← hgo.steps_after]
    rfl
  · rw [if_neg hfuel]
    exact runFor_of_forall_not_stops (fun j hj => hbefore j (by omega)) (failures_of_le hfailures (by omega))

/-- What a run has done is a number of steps, with no reason to stop before any of them, whether it fails or not. -/
theorem exists_snd_runFor_eq (limits : Limits σ) (fuel : ℕ) (m : Machine) (s : σ) :
    ∃ k, (∀ j < k, ∀ why, ¬ m.Stops s limits j why) ∧ (m.runFor fuel limits s).2 = m.after s k := by
  obtain ⟨k, hhalt, hafter, -⟩ := exists_runUntil_eq (m.budget limits) limits.cancel fuel m s
  refine ⟨k, fun j => ?_, hafter⟩
  induction j using Nat.strongRecOn with
  | ind j ih => exact fun hj => (halt?_eq_none_iff fun i hi => ih i hi (Nat.lt_trans hi hj)).1 (hhalt j hj)

end TapeMachine.Machine
