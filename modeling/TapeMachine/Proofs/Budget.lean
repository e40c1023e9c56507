import Mathlib.Data.ENat.Lattice
import TapeMachine.Proofs.Stops
import TapeMachine.Stream.Reliable

/-!
# How far a run goes

A run that nothing but a step limit can stop goes on for as many steps as the limit allows (`Machine.allowed`), or for
as many as are left to the end of the program (`Machine.remaining`), whichever is less (`Machine.runFor_eq_ite`).  It
has finished if no more were left than are allowed.  With failures it ends sooner, but never goes further; so the step
counter stays within its bounds (`Machine.runFor_within_budget`).
-/

namespace TapeMachine.Machine

variable {σ : Type} {m : Machine} {s : σ}

/-! ### Steps that a limit allows -/

/-- How many steps a limit allows from here on, the counter being bounded. -/
def allowed (m : Machine) (limit : Option ℕ) : ℕ∞ := limit.elim ⊤ fun n => (m.granted n : ℕ∞)

theorem lt_allowed_iff {limit : Option ℕ} {k : ℕ} :
    (k : ℕ∞) < m.allowed limit ↔ ∀ b ∈ m.budget ({ steps := limit } : Limits σ), m.steps + k < b := by
  cases limit with
  | none => simp [allowed, budget]
  | some n =>
    rw [budget_steps, allowed, Option.elim_some, Nat.cast_lt]
    simp only [Option.mem_some_iff, forall_eq', granted]
    omega

variable [Host σ]

theorem allowed_le_iff {limit : Option ℕ} {k : ℕ} :
    m.allowed limit ≤ k ↔ m.Stops s { steps := limit } k .stepLimit := by
  cases limit with
  | none => simp [allowed, Stops]
  | some n =>
    simp only [allowed, Option.elim_some, Nat.cast_le, granted, Stops, Option.mem_some_iff, exists_eq_left']
    omega

/-! ### Steps left to the end -/

/-- How many steps are left to the end of the program, infinitely many if it is never reached. -/
noncomputable def remaining (m : Machine) (s : σ) : ℕ∞ :=
  ⨅ n : {n : ℕ // (m.after s n).1.isFinished = true}, (n : ℕ∞)

/-- What has finished stays so. -/
theorem isFinished_after_of_le {k n : ℕ} (h : (m.after s k).1.isFinished = true) (hk : k ≤ n) :
    (m.after s n).1.isFinished = true := by
  obtain ⟨rest, rfl⟩ := Nat.exists_eq_add_of_le hk
  rwa [after_add, after_of_isFinished h]

theorem remaining_le_iff {n : ℕ} : m.remaining s ≤ n ↔ (m.after s n).1.isFinished = true := by
  constructor
  · intro h
    have hlt : m.remaining s < (n + 1 : ℕ) := lt_of_le_of_lt h (by exact_mod_cast Nat.lt_succ_self n)
    obtain ⟨⟨k, hend⟩, hk⟩ := iInf_lt_iff.1 hlt
    have hk : k < n + 1 := by exact_mod_cast hk
    exact isFinished_after_of_le hend (by omega)
  · intro hend
    exact iInf_le (fun n : {n : ℕ // (m.after s n).1.isFinished = true} => (n : ℕ∞)) ⟨n, hend⟩

theorem lt_remaining_iff {n : ℕ} : (n : ℕ∞) < m.remaining s ↔ ¬ (m.after s n).1.isFinished = true := by
  rw [← not_le, remaining_le_iff]

theorem goesOn_iff {n : ℕ} : m.GoesOn s n ↔ (n : ℕ∞) ≤ m.remaining s := by
  constructor
  · intro hgo
    refine le_iInf ?_
    rintro ⟨k, hend⟩
    have hk : ¬ k < n := fun hlt => hgo k hlt hend
    exact_mod_cast Nat.le_of_not_lt hk
  · intro h k hk hend
    have hle : (n : ℕ∞) ≤ k := h.trans (remaining_le_iff.2 hend)
    have hle : n ≤ k := by exact_mod_cast hle
    omega

/-- Only the machines on the way matter, not what their hosts are. -/
theorem remaining_congr {τ : Type} [Host τ] {t : τ} (h : ∀ n, (m.after s n).1 = (m.after t n).1) :
    m.remaining s = m.remaining t := by
  refine ENat.eq_of_forall_natCast_le_iff fun n => ?_
  rw [← goesOn_iff, ← goesOn_iff, GoesOn, GoesOn]
  simp only [h]

/-! ### Where a run stops -/

/-- With a step limit alone there is no reason to stop as long as more steps are allowed and are left. -/
theorem forall_not_stops_iff {limit : Option ℕ} {k : ℕ} : (∀ why, ¬ m.Stops s { steps := limit } k why) ↔
    (k : ℕ∞) < m.allowed limit ∧ (k : ℕ∞) < m.remaining s := by
  rw [← not_le, ← not_le, allowed_le_iff (s := s), remaining_le_iff]
  constructor
  · intro h
    exact ⟨h .stepLimit, h .finished⟩
  · rintro ⟨hlimit, hend⟩ (_ | _ | _)
    · exact hend
    · exact hlimit
    · rintro ⟨flag, hflag, -⟩
      cases hflag

section Reaches

variable {limit : Option ℕ} {k fuel : ℕ} (hallowed : (k : ℕ∞) < m.allowed limit)
  (hremaining : (k : ℕ∞) < m.remaining s) (hfailures : m.failures s k = [])

include hallowed hremaining

theorem not_stops_of_le {j : ℕ} (hj : j ≤ k) : ∀ why, ¬ m.Stops s { steps := limit } j why := by
  have hle : (j : ℕ∞) ≤ k := by exact_mod_cast hj
  exact forall_not_stops_iff.2 ⟨hle.trans_lt hallowed, hle.trans_lt hremaining⟩

include hfailures

theorem runFor_of_le (hfuel : fuel ≤ k) : m.runFor fuel { steps := limit } s = (none, m.after s fuel) :=
  runFor_of_forall_not_stops (fun _ hj => not_stops_of_le hallowed hremaining (hj.trans hfuel))
    (failures_of_le hfailures hfuel)

/-- A run gets to any step that the limit allows, if the program has not finished and nothing has failed before, and
dispatches it. -/
theorem runUntil_of_lt (hfuel : k < fuel) : ∃ rest,
    runUntil (m.budget ({ steps := limit } : Limits σ)) none fuel m s =
        runUntil (m.budget ({ steps := limit } : Limits σ)) none (rest + 1) (m.after s k).1 (m.after s k).2 ∧
      halt? (m.budget ({ steps := limit } : Limits σ)) none (m.after s k).1 (m.after s k).2 = none := by
  obtain ⟨rest, rfl⟩ := Nat.exists_eq_add_of_le (Nat.succ_le_of_lt hfuel)
  have hbefore : ∀ j < k, ∀ why, ¬ m.Stops s { steps := limit } j why :=
    fun j hj => not_stops_of_le hallowed hremaining hj.le
  refine ⟨rest, ?_, (halt?_eq_none_iff hbefore).2 (not_stops_of_le hallowed hremaining le_rfl)⟩
  rw [Nat.succ_add, ← Nat.add_succ]
  exact runUntil_of_forall_not_stops hbefore hfailures (rest + 1)

/-- A run that gets to a step that fails ends there. -/
theorem runFor_of_error {cause : RunError} (herror : ((m.after s k).1.step (m.after s k).2).1 = .error cause)
    (hfuel : k < fuel) : m.runFor fuel { steps := limit } s = (some (.error cause), m.after s (k + 1)) := by
  obtain ⟨rest, hrun, hhalt⟩ := runUntil_of_lt hallowed hremaining hfailures hfuel
  unfold runFor
  dsimp only
  rw [hrun, runUntil_of_error hhalt herror, after_succ_eq_step]
  rfl

/-- What holds after a step that a run gets to, and every step keeps, holds at the end of the run. -/
theorem keeps_runFor {P : Machine → σ → Prop} (hstep : ∀ m s, P m s → P (m.step s).2.1 (m.step s).2.2)
    (hP : P (m.after s (k + 1)).1 (m.after s (k + 1)).2) (hfuel : k < fuel) :
    P (m.runFor fuel { steps := limit } s).2.1 (m.runFor fuel { steps := limit } s).2.2 := by
  obtain ⟨rest, hrun, hhalt⟩ := runUntil_of_lt hallowed hremaining hfailures hfuel
  rw [after_succ_eq_step] at hP
  rw [snd_runFor, hrun]
  cases hanswer : ((m.after s k).1.step (m.after s k).2).1 with
  | error cause =>
    rw [runUntil_of_error hhalt hanswer]
    exact hP
  | ok dispatched =>
    rw [runUntil_of_ok hhalt hanswer]
    exact keeps_runUntil hstep _ _ rest hP

end Reaches

/-- The lesser of the numbers of steps that are allowed and that are left says what stops the run. -/
theorem firstReason?_of_eq {limit : Option ℕ} {k : ℕ} (hk : min (m.allowed limit) (m.remaining s) = k) :
    m.firstReason? s { steps := limit } k =
      some (if m.remaining s ≤ m.allowed limit then .finished else .stepLimit) := by
  by_cases hle : m.remaining s ≤ m.allowed limit
  · rw [min_eq_right hle] at hk
    rw [if_pos hle]
    exact firstReason?_of_finished (remaining_le_iff.1 hk.le)
  · have hlt := not_le.1 hle
    rw [min_eq_left hlt.le] at hk
    rw [if_neg hle]
    exact firstReason?_of_stepLimit (lt_remaining_iff.1 (hk ▸ hlt)) (allowed_le_iff.1 hk.le)

theorem isLeast_of_eq {limit : Option ℕ} {k : ℕ} (hk : min (m.allowed limit) (m.remaining s) = k) :
    IsLeast {k | ∃ why, m.Stops s { steps := limit } k why} k := by
  constructor
  · by_contra hnone
    obtain ⟨hallowed, hremaining⟩ := forall_not_stops_iff.1 (not_exists.1 hnone)
    exact (lt_min hallowed hremaining).ne' hk
  · rintro j ⟨why, hwhy⟩
    by_contra hlt
    have hjk : (j : ℕ∞) < k := by exact_mod_cast Nat.lt_of_not_le hlt
    rw [← hk, lt_min_iff, ← forall_not_stops_iff] at hjk
    exact hjk why hwhy

/-- A run that does not fail goes on for as many steps as the limit allows, or as are left to the end if that is
less. -/
theorem runFor_eq_ite {limit : Option ℕ}
    (hfailures : ∀ n : ℕ, (n : ℕ∞) ≤ min (m.allowed limit) (m.remaining s) → m.failures s n = []) (fuel : ℕ) :
    m.runFor fuel { steps := limit } s =
      if min (m.allowed limit) (m.remaining s) ≤ fuel then
        (some (.ok ⟨if m.remaining s ≤ m.allowed limit then .finished else .stepLimit,
          Counter.wrap (m.steps + (min (m.allowed limit) (m.remaining s)).toNat)⟩),
          m.after s (min (m.allowed limit) (m.remaining s)).toNat)
      else (none, m.after s fuel) := by
  by_cases hfuel : min (m.allowed limit) (m.remaining s) ≤ fuel
  · obtain ⟨k, hk, hkfuel⟩ := ENat.le_natCast_iff.1 hfuel
    obtain ⟨-, why, hwhy, hrun⟩ := runFor_of_isLeast (isLeast_of_eq hk) (hfailures k hk.ge)
    rw [firstReason?_of_eq hk, Option.some_inj] at hwhy
    rw [if_pos hfuel, hrun fuel, if_pos hkfuel, hwhy, hk, ENat.toNat_natCast]
  · have hlt := not_le.1 hfuel
    obtain ⟨hallowed, hremaining⟩ := lt_min_iff.1 hlt
    rw [if_neg hfuel, runFor_of_le hallowed hremaining (hfailures fuel hlt.le) le_rfl]

/-! ### Runs without failures -/

theorem Executes.perform_of_neverFails {p : Program} (h : m.Executes p) (hp : Balanced p.instructions.toList)
    (hs : Host.NeverFails s) {i : Instruction} (hi : p.instructions[m.ip]? = some i) :
    ∃ place s', m.perform s i = (.ok place, s') ∧ Host.NeverFails s' := by
  have hjump (hend : i.isPlain = false) : ∃ place s', m.jump s = (.ok place, s') ∧ Host.NeverFails s' := by
    obtain ⟨target, -, heq⟩ := h.exists_jump_eq hp hi hend s
    exact ⟨_, _, heq, Host.sustained_neverFails.jumped hs _ _⟩
  cases i with
  | output =>
    obtain ⟨s', heq, hs'⟩ := Host.sustained_neverFails.write hs m.tape.cell
    dsimp only [Machine.perform]
    rw [heq]
    exact ⟨_, _, rfl, hs'⟩
  | input =>
    obtain ⟨s₁, hflush, hs₁⟩ := Host.sustained_neverFails.flush hs
    obtain ⟨byte?, s', hread, hs'⟩ := Host.sustained_neverFails.read hs₁
    dsimp only [Machine.perform]
    rw [hflush]
    dsimp only
    rw [hread]
    cases byte? with
    | none => exact ⟨_, _, rfl, hs'⟩
    | some byte => exact ⟨_, _, rfl, hs'⟩
  | loopOpen =>
    dsimp only [Machine.perform]
    split
    · exact hjump rfl
    · exact ⟨_, _, rfl, hs⟩
  | loopClose =>
    dsimp only [Machine.perform]
    split
    · exact ⟨_, _, rfl, hs⟩
    · exact hjump rfl
  | _ => exact ⟨_, _, rfl, hs⟩

theorem Executes.step_of_neverFails {p : Program} (h : m.Executes p) (hp : Balanced p.instructions.toList)
    (hs : Host.NeverFails s) : failure? (m.step s).1 = none ∧ Host.NeverFails (m.step s).2.2 := by
  have hinstructions : m.program.instructions = p.instructions := by rw [h.program]
  unfold Machine.step
  rw [hinstructions]
  split
  · exact ⟨rfl, hs⟩
  · rename_i i hi
    obtain ⟨place, s', heq, hs'⟩ := h.perform_of_neverFails hp hs hi
    rw [heq]
    exact ⟨rfl, hs'⟩

theorem Executes.failures_of_neverFails {p : Program} (h : m.Executes p) (hp : Balanced p.instructions.toList)
    (hs : Host.NeverFails s) (n : ℕ) : m.failures s n = [] := by
  induction n generalizing m s with
  | zero => rfl
  | succ n ih =>
    obtain ⟨hnone, hs'⟩ := h.step_of_neverFails hp hs
    rw [failures_succ, hnone]
    exact ih (h.step hp s) hs'

/-! ### Runs with failures -/

/-- A run with a bound on the step count ends. -/
theorem isSome_runUntil {b fuel : ℕ} (hb : b ≤ Counter.max) (cancel : Option (ℕ → σ → Bool))
    (hfuel : b - m.steps ≤ fuel) : (runUntil (some b) cancel fuel m s).1.isSome = true := by
  induction fuel generalizing m s with
  | zero =>
    have hle : b ≤ m.steps := by omega
    rw [runUntil, halt?]
    by_cases hm : m.isFinished = true
    · simp [hm]
    · simp [hm, hle]
  | succ fuel ih =>
    cases hhalt : halt? (some b) cancel m s with
    | some halt =>
      rw [runUntil_of_halt hhalt]
      rfl
    | none =>
      have hlt := lt_of_halt? hhalt b rfl
      have hsteps := steps_step_of_lt (not_isFinished_of_halt? hhalt) (Nat.lt_of_lt_of_le hlt hb) s
      cases hanswer : (m.step s).1 with
      | error cause =>
        rw [runUntil_of_error hhalt hanswer]
        rfl
      | ok dispatched =>
        rw [runUntil_of_ok hhalt hanswer]
        exact ih (by omega)

/-- A run with a step limit, from any state that calls on a machine can reach and on any streams.  If nothing fails, it
goes on for as many steps as the limit allows, or as are left to the end if that is less, and has finished if no more
were left than allowed.  If something fails, it goes no further; and it ends.  The step counter stays within 64 bits. -/
theorem runFor_within_budget {source : String} {p : Program} (hsource : Program.parse source = .ok p)
    {σ : Type} [Host σ] {first s : σ} {m : Machine} (hreach : Reachable p first m s) {τ : Type} [Host τ] (t : τ)
    (limit : ℕ) :
    let bound := min limit (Counter.max - m.steps)
    (Host.NeverFails t →
      let count := (min (bound : ℕ∞) (m.remaining t)).toNat
      m.GoesOn t count ∧ ∀ fuel, bound ≤ fuel →
        m.runFor fuel { steps := some limit } t =
          (some (.ok ⟨if m.remaining t ≤ bound then .finished else .stepLimit, m.steps + count⟩), m.after t count)) ∧
      ∀ fuel, ∃ n ≤ bound, m.GoesOn t n ∧ (m.runFor fuel { steps := some limit } t).2 = m.after t n ∧
        (∀ k ≤ n, (m.after t k).1.steps = m.steps + k ∧ m.steps + k ≤ Counter.max) ∧
          (bound ≤ fuel → (m.runFor fuel { steps := some limit } t).1.isSome = true) := by
  obtain ⟨-, -, -, hp⟩ := Program.parse_eq_ok_iff.1 hsource
  intro bound
  have hcounter := m.steps_le
  have hgranted : m.granted limit = bound := by
    unfold granted
    omega
  constructor
  · intro ht count
    have hallowed : m.allowed (some limit) = bound := by rw [allowed, Option.elim_some, hgranted]
    have hcount : (count : ℕ∞) = min (bound : ℕ∞) (m.remaining t) :=
      ENat.natCast_toNat (ne_top_of_le_ne_top (ENat.natCast_ne_top bound) (min_le_left _ _))
    refine ⟨goesOn_iff.2 (hcount ▸ min_le_right _ _), ?_⟩
    intro fuel hfuel
    have hfailures := (hreach.executes hp).failures_of_neverFails hp ht
    have hle : count ≤ bound := by exact_mod_cast hcount.le.trans (min_le_left _ _)
    rw [runFor_eq_ite (fun n _ => hfailures n) fuel, hallowed,
      if_pos ((min_le_left _ _).trans (by exact_mod_cast hfuel)), Counter.wrap_of_le (by omega)]
  · intro fuel
    obtain ⟨n, hbefore, hafter⟩ := exists_snd_runFor_eq ({ steps := some limit } : Limits τ) fuel m t
    have hgo : m.GoesOn t n := fun j hj => hbefore j hj .finished
    -- the step limit is not used up before the last of the steps
    have hbound : n ≤ bound := by
      by_contra hlt
      exact hbefore bound (Nat.lt_of_not_le hlt) .stepLimit ⟨limit, rfl, le_rfl⟩
    refine ⟨n, hbound, hgo, hafter, ?_, ?_⟩
    · intro k hk
      have hgok : m.GoesOn t k := fun j hj => hgo j (by omega)
      exact ⟨hgok.steps_after_of_le (by omega), by omega⟩
    · intro hfuel
      have hbudget : m.budget ({ steps := some limit } : Limits τ) = some (m.steps + bound) := by
        rw [budget_steps, Option.some_inj]
        omega
      have hsome : (runUntil (some (m.steps + bound)) none fuel m t).1.isSome = true :=
        isSome_runUntil (by omega) none (by omega)
      unfold runFor
      rw [hbudget]
      simpa using hsome

/-- A machine whose write has failed writes again: three instructions are left, more than a limit of two allows. -/
theorem runFor_within_budget_retried :
    let p : Program := ⟨#[.input, .loopOpen, .output, .input, .loopClose]⟩
    let script : Script := { reads := [.byte 2], writes := [.fail .brokenPipe] }
    let m := ((start p).after script 3).1
    let t : Script := { reads := [.byte 0] }
    Program.parse ",[.,]" = .ok p ∧ Reachable p script m ((start p).after script 3).2 ∧ Host.NeverFails t ∧
      m.remaining t = 3 ∧
        (m.runFor 4 { steps := some 4 } t).1 = some (.ok ⟨.finished, 6⟩) ∧
          (m.runFor 2 { steps := some 2 } t).1 = some (.ok ⟨.stepLimit, 5⟩) := by
  intro p script m t
  have hparse : Program.parse ",[.,]" = .ok p := by rfl
  have hreach : Reachable p script m ((start p).after script 3).2 := ⟨[.run 9 {}], by rfl⟩
  have hsteps : m.steps = 3 := by rfl
  have ht : Host.NeverFails t := Script.IsFaultless.neverFails ⟨by decide, by decide, by decide⟩
  have hremaining : m.remaining t = 3 := by
    refine le_antisymm (remaining_le_iff (n := 3).2 (by decide +kernel)) (goesOn_iff (n := 3).1 ?_)
    unfold GoesOn
    decide +kernel
  obtain ⟨hfour, -⟩ := runFor_within_budget hparse hreach t 4
  obtain ⟨htwo, -⟩ := runFor_within_budget hparse hreach t 2
  have hbound : ∀ n ≤ 4, min n (Counter.max - m.steps) = n := by
    intro n hn
    have hroom : 7 ≤ Counter.max := by decide
    omega
  have hfinished := (hfour ht).2 4 (Nat.min_le_left _ _)
  have hstopped := (htwo ht).2 2 (Nat.min_le_left _ _)
  rw [hbound 4 (by omega), hremaining, hsteps] at hfinished
  rw [hbound 2 (by omega), hremaining, hsteps] at hstopped
  refine ⟨hparse, hreach, ht, hremaining, ?_, ?_⟩
  · have hcount : min ((4 : ℕ) : ℕ∞) 3 = (3 : ℕ) := by decide
    rw [hfinished, hcount, ENat.toNat_natCast, if_pos (by decide)]
  · have hcount : min ((2 : ℕ) : ℕ∞) 3 = (2 : ℕ) := by decide
    rw [hstopped, hcount, ENat.toNat_natCast, if_neg (by decide)]

end TapeMachine.Machine
