import TapeMachine.Proofs.Retry

/-!
# Cuts of a run

Calls on a machine, whatever their limits and cancel flags, are a number of steps (`exists_goesOn_calls`), and the
step counter tells how many until it begins again.  So two lists of calls that end with the same step count end in the
same state, and have failed in the same way; a run that was stopped can be taken up again as if it had not been stopped
(`runFor_resume`); and two runs with step limits are one run with their sum (`calls_eq_of_steps_eq`).
-/

namespace TapeMachine.Machine

variable {σ : Type}

/-! ### The bounds of a run -/

theorem not_isFinished_of_halt? {budget : Option Nat} {cancel : Option (Nat → σ → Bool)} {m : Machine} {s : σ}
    (h : halt? budget cancel m s = none) : ¬ m.isFinished = true := by
  intro hend
  rw [halt?, if_pos hend] at h
  cases h

theorem lt_of_halt? {budget : Option Nat} {cancel : Option (Nat → σ → Bool)} {m : Machine} {s : σ}
    (h : halt? budget cancel m s = none) : ∀ b ∈ budget, m.steps < b := by
  rintro b ⟨⟩
  refine Nat.lt_of_not_le fun hle => ?_
  rw [halt?, if_neg (not_isFinished_of_halt? h), if_pos (by simpa using hle)] at h
  cases h

theorem budget_steps (m : Machine) (n : Nat) :
    m.budget ({ steps := some n } : Limits σ) = some (min (m.steps + n) Counter.max) := rfl

theorem le_of_mem_budget (m : Machine) {limits : Limits σ} {b : Nat} (hb : b ∈ m.budget limits) : b ≤ Counter.max := by
  obtain ⟨n, -, rfl⟩ := Option.map_eq_some_iff.1 hb
  exact Nat.min_le_right _ _

/-- How many steps a step limit allows, the counter being bounded. -/
def granted (m : Machine) (n : Nat) : Nat := min (m.steps + n) Counter.max - m.steps

theorem granted_le (m : Machine) (n : Nat) : m.granted n ≤ n := by
  unfold granted
  omega

variable [Host σ]

theorem runUntil_of_ok {budget : Option Nat} {cancel : Option (Nat → σ → Bool)} {m : Machine} {s : σ}
    {dispatched : Bool} (h : halt? budget cancel m s = none) (hok : (m.step s).1 = .ok dispatched) (fuel : Nat) :
    runUntil budget cancel (fuel + 1) m s = runUntil budget cancel fuel (m.step s).2.1 (m.step s).2.2 :=
  runUntil_succ h (Prod.ext hok rfl) fuel

theorem runUntil_of_error {budget : Option Nat} {cancel : Option (Nat → σ → Bool)} {m : Machine} {s : σ}
    {cause : RunError} (h : halt? budget cancel m s = none) (herror : (m.step s).1 = .error cause) (fuel : Nat) :
    runUntil budget cancel (fuel + 1) m s = (some (.error cause), (m.step s).2) := by
  have hstep : m.step s = (.error cause, (m.step s).2) := Prod.ext herror rfl
  rw [runUntil, h]
  dsimp only
  rw [hstep]

/-! ### Calls are steps -/

theorem fst_call_step (m : Machine) (s : σ) : (m.call s .step).1 = failure? (m.step s).1 := by
  rw [call]
  split <;> rename_i heq <;> rw [heq] <;> rfl

theorem fst_call_run (m : Machine) (s : σ) (fuel : Nat) (limits : Limits σ) :
    (m.call s (.run fuel limits)).1 = (runUntil (m.budget limits) limits.cancel fuel m s).1.bind failure? := by
  rw [call, runFor]
  generalize runUntil (m.budget limits) limits.cancel fuel m s = reached
  obtain ⟨_ | _ | _, m', s'⟩ := reached <;> rfl

theorem fst_calls_cons (m : Machine) (s : σ) (c : Call σ) (cs : List (Call σ)) :
    (m.calls s (c :: cs)).1 = (m.call s c).1.toList ++ ((m.call s c).2.1.calls (m.call s c).2.2 cs).1 := rfl

/-- One step, while there is an instruction left. -/
theorem goesOn_one {m : Machine} (h : ¬ m.isFinished = true) (s : σ) : m.GoesOn s 1 :=
  goesOn_succ_iff.2 ⟨h, goesOn_zero _ _⟩

/-- Below its greatest value the counter goes up by one. -/
theorem steps_step_of_lt {m : Machine} (h : ¬ m.isFinished = true) (hlt : m.steps < Counter.max) (s : σ) :
    (m.step s).2.1.steps = m.steps + 1 := (goesOn_one h s).steps_after_of_le hlt

theorem failures_one (m : Machine) (s : σ) : m.failures s 1 = (failure? (m.step s).1).toList := by
  rw [failures_succ]
  exact List.append_nil _

/-- What a run has done is a number of steps, and nothing has stopped it before any of them. -/
theorem exists_runUntil_eq (budget : Option Nat) (cancel : Option (Nat → σ → Bool)) (fuel : Nat) (m : Machine)
    (s : σ) : ∃ n, (∀ k < n, halt? budget cancel (m.after s k).1 (m.after s k).2 = none) ∧
      (runUntil budget cancel fuel m s).2 = m.after s n ∧
        ((runUntil budget cancel fuel m s).1.bind failure?).toList = m.failures s n := by
  induction fuel generalizing m s with
  | zero =>
    refine ⟨0, fun k hk => absurd hk (Nat.not_lt_zero k), rfl, ?_⟩
    rw [runUntil]
    cases halt? budget cancel m s <;> rfl
  | succ fuel ih =>
    cases hhalt : halt? budget cancel m s with
    | some halt =>
      rw [runUntil_of_halt hhalt]
      exact ⟨0, fun k hk => absurd hk (Nat.not_lt_zero k), rfl, rfl⟩
    | none =>
      cases hanswer : (m.step s).1 with
      | ok dispatched =>
        obtain ⟨n, hgo, hafter, hfailures⟩ := ih (m.step s).2.1 (m.step s).2.2
        rw [runUntil_of_ok hhalt hanswer]
        refine ⟨n + 1, ?_, hafter, ?_⟩
        · rintro (_ | k) hk
          · exact hhalt
          · exact hgo k (Nat.lt_of_succ_lt_succ hk)
        · rw [failures_succ, hanswer]
          exact hfailures
      | error cause =>
        rw [runUntil_of_error hhalt hanswer]
        refine ⟨1, ?_, rfl, ?_⟩
        · rintro k hk
          rw [Nat.lt_one_iff.1 hk]
          exact hhalt
        · rw [failures_one, hanswer]
          rfl

theorem exists_goesOn_runUntil (budget : Option Nat) (cancel : Option (Nat → σ → Bool)) (fuel : Nat) (m : Machine)
    (s : σ) : ∃ n, m.GoesOn s n ∧ (runUntil budget cancel fuel m s).2 = m.after s n ∧
      ((runUntil budget cancel fuel m s).1.bind failure?).toList = m.failures s n := by
  obtain ⟨n, hhalt, hreached⟩ := exists_runUntil_eq budget cancel fuel m s
  exact ⟨n, fun k hk => not_isFinished_of_halt? (hhalt k hk), hreached⟩

theorem exists_goesOn_call (m : Machine) (s : σ) (c : Call σ) :
    ∃ n, m.GoesOn s n ∧ (m.call s c).2 = m.after s n ∧ (m.call s c).1.toList = m.failures s n := by
  cases c with
  | step =>
    rw [snd_call_step, fst_call_step]
    by_cases hm : m.isFinished = true
    · rw [step_of_isFinished hm]
      exact ⟨0, goesOn_zero m s, rfl, rfl⟩
    · exact ⟨1, goesOn_one hm s, rfl, (failures_one m s).symm⟩
  | run fuel limits =>
    rw [snd_call_run, fst_call_run]
    exact exists_goesOn_runUntil _ _ fuel m s

/-- Calls are a number of steps, and the failures are those of the steps. -/
theorem exists_goesOn_calls (m : Machine) (s : σ) (cs : List (Call σ)) :
    ∃ n, m.GoesOn s n ∧ m.calls s cs = (m.failures s n, m.after s n) := by
  induction cs generalizing m s with
  | nil => exact ⟨0, goesOn_zero m s, rfl⟩
  | cons c cs ih =>
    obtain ⟨n, hgo, hafter, hfailures⟩ := exists_goesOn_call m s c
    obtain ⟨k, hgok, hcalls⟩ := ih (m.call s c).2.1 (m.call s c).2.2
    rw [hafter] at hgok hcalls
    refine ⟨n + k, hgo.add hgok, Prod.ext ?_ ?_⟩
    · rw [fst_calls_cons, hfailures, hafter, hcalls, failures_add]
    · rw [snd_calls_cons, hafter, hcalls, after_add]

/-! ### Runs taken up again -/

/-- A run goes on from where its steps lead, as long as nothing stops it and nothing fails. -/
theorem runUntil_of_forall_halt? {budget : Option Nat} {cancel : Option (Nat → σ → Bool)} {m : Machine} {s : σ}
    {n : Nat} (hhalt : ∀ k < n, halt? budget cancel (m.after s k).1 (m.after s k).2 = none)
    (hfailures : m.failures s n = []) (fuel : Nat) :
    runUntil budget cancel (n + fuel) m s = runUntil budget cancel fuel (m.after s n).1 (m.after s n).2 := by
  induction n generalizing m s with
  | zero => rw [Nat.zero_add]; rfl
  | succ n ih =>
    rw [failures_succ, List.append_eq_nil_iff] at hfailures
    obtain ⟨hanswer, hfailures⟩ := hfailures
    obtain ⟨dispatched, hok⟩ : ∃ dispatched, (m.step s).1 = .ok dispatched := by
      cases h : (m.step s).1 with
      | ok dispatched => exact ⟨dispatched, rfl⟩
      | error cause =>
        rw [h] at hanswer
        cases hanswer
    have hfirst : halt? budget cancel m s = none := hhalt 0 (Nat.zero_lt_succ n)
    rw [Nat.add_right_comm, runUntil_of_ok hfirst hok, after_succ]
    exact ih (fun k hk => hhalt (k + 1) (Nat.succ_lt_succ hk)) hfailures

/-- A run that may go on for so many steps goes on from where they lead. -/
theorem runUntil_of_goesOn {budget : Option Nat} {m : Machine} {s : σ} {n : Nat} (hgo : m.GoesOn s n)
    (hfailures : m.failures s n = []) (hbudget : ∀ b ∈ budget, n ≤ b - m.steps ∧ b ≤ Counter.max) (fuel : Nat) :
    runUntil budget none (n + fuel) m s = runUntil budget none fuel (m.after s n).1 (m.after s n).2 := by
  refine runUntil_of_forall_halt? (fun k hk => ?_) hfailures fuel
  have hgok : m.GoesOn s k := fun j hj => hgo j (Nat.lt_trans hj hk)
  have hwithin : ¬ (budget.any (· ≤ (m.after s k).1.steps)) = true := by
    rw [Option.any_eq_true]
    rintro ⟨b, hb, hle⟩
    -- below the budget the counter has not begun again
    obtain ⟨hn, hmax⟩ := hbudget b hb
    have hsteps := hgok.steps_after_of_le (by omega)
    have := of_decide_eq_true hle
    omega
  rw [halt?, if_neg (hgo k hk), if_neg hwithin]
  rfl

/-- A run goes on, under what is left of its step limit, from any state it leads through. -/
theorem runFor_resume {m : Machine} {s : σ} {n : Nat} (hgo : m.GoesOn s n) (hfailures : m.failures s n = [])
    {limit : Option Nat} (hlimit : limit.isSome = true → m.steps + n ≤ Counter.max) (fuel : Nat) :
    m.runFor (n + fuel) { steps := limit.map (n + ·) } s =
      (m.after s n).1.runFor fuel { steps := limit } (m.after s n).2 := by
  have hbudget : m.budget ({ steps := limit.map (n + ·) } : Limits σ) =
      (m.after s n).1.budget ({ steps := limit } : Limits σ) := by
    cases limit with
    | none => rfl
    | some k =>
      rw [Option.map_some, budget_steps, budget_steps, hgo.steps_after_of_le (hlimit rfl), Nat.add_assoc]
  unfold runFor
  rw [hbudget, runUntil_of_goesOn hgo hfailures]
  intro b hb
  cases limit with
  | none => cases hb
  | some k =>
    have hroom : m.steps + n ≤ Counter.max := hlimit rfl
    rw [budget_steps, hgo.steps_after_of_le hroom] at hb
    cases hb
    omega

/-- A run that ends without a failure is a number of steps without a failure. -/
theorem exists_goesOn_of_runFor {m m' : Machine} {s s' : σ} {fuel : Nat} {limits : Limits σ} {outcome : Outcome}
    (h : m.runFor fuel limits s = (some (.ok outcome), m', s')) :
    ∃ n, m.GoesOn s n ∧ m.failures s n = [] ∧ m.after s n = (m', s') := by
  obtain ⟨n, hgo, hafter, hfailures⟩ := exists_goesOn_runUntil (m.budget limits) limits.cancel fuel m s
  unfold runFor at h
  generalize runUntil (m.budget limits) limits.cancel fuel m s = reached at h hafter hfailures
  obtain ⟨_ | _ | halt, m₁, s₁⟩ := reached
  · cases h
  · cases h
  · cases h
    exact ⟨n, hgo, hfailures.symm, hafter.symm⟩

/-- The outcome of a run that a step limit alone can stop. -/
def outcome (m : Machine) : Outcome := ⟨if m.isFinished then .finished else .stepLimit, m.steps⟩

/-- A run below a bound on the step count is as many steps as the bound leaves, if none of them fails. -/
theorem runUntil_some {m : Machine} {s : σ} {b fuel : Nat} (hb : b ≤ Counter.max)
    (hfailures : m.failures s (b - m.steps) = []) (hfuel : b - m.steps ≤ fuel) :
    runUntil (some b) none fuel m s =
      (some (.ok (m.after s (b - m.steps)).1.outcome.halt), m.after s (b - m.steps)) := by
  obtain ⟨k, hk, hgo, heq, hend⟩ := exists_goesOn m s (b - m.steps)
  obtain ⟨rest, hrest⟩ := Nat.exists_eq_add_of_le hk
  obtain ⟨spare, rfl⟩ := Nat.exists_eq_add_of_le (Nat.le_trans hk hfuel)
  rw [hrest, failures_add, List.append_eq_nil_iff] at hfailures
  have hbudget : ∀ b' ∈ some b, k ≤ b' - m.steps ∧ b' ≤ Counter.max := by
    rintro _ ⟨⟩
    exact ⟨hk, hb⟩
  rw [runUntil_of_goesOn hgo hfailures.1 hbudget, heq]
  have hcounter := m.steps_le
  have hsteps := hgo.steps_after_of_le (by omega)
  generalize m.after s k = reached at hend hsteps
  obtain ⟨m', s'⟩ := reached
  dsimp only at hend hsteps ⊢
  have hhalt : halt? (some b) none m' s' = some m'.outcome.halt := by
    unfold halt? outcome
    by_cases hm' : m'.isFinished = true
    · rw [if_pos hm', if_pos hm']
    · -- otherwise the bound is reached
      have hreached : b ≤ m'.steps := by
        have := mt hend hm'
        omega
      rw [if_neg hm', if_neg hm', if_pos (by simp [hreached])]
  exact runUntil_of_halt hhalt spare

/-- A run with a step limit is as many steps as the limit allows, if none of them fails. -/
theorem runFor_steps {m : Machine} {s : σ} {n fuel : Nat} (hfailures : m.failures s (m.granted n) = [])
    (hfuel : m.granted n ≤ fuel) :
    m.runFor fuel { steps := some n } s =
      (some (.ok (m.after s (m.granted n)).1.outcome), m.after s (m.granted n)) := by
  unfold runFor
  rw [budget_steps, runUntil_some (Nat.min_le_right _ _) hfailures hfuel]
  rfl

/-- What the sum of two limits allows is what the first one does and then the second one. -/
theorem after_granted_add (m : Machine) (s : σ) (a b : Nat) :
    m.after s (m.granted (a + b)) = (m.after s (m.granted a)).1.after (m.after s (m.granted a)).2
      ((m.after s (m.granted a)).1.granted b) := by
  obtain ⟨k, hk, hgo, heq, hend⟩ := exists_goesOn m s (m.granted a)
  rw [heq]
  by_cases hlt : k < m.granted a
  · have hle : k ≤ m.granted (a + b) := by
      unfold granted at hk ⊢
      omega
    obtain ⟨rest, hrest⟩ := Nat.exists_eq_add_of_le hle
    rw [hrest, after_add, after_of_isFinished (hend hlt), after_of_isFinished (hend hlt)]
  · have hsum : m.granted (a + b) = k + (m.after s k).1.granted b := by
      have hcounter := m.steps_le
      unfold granted at hk hlt ⊢
      have hsteps := hgo.steps_after_of_le (by omega)
      omega
    rw [hsum, after_add]

theorem failures_of_le {m : Machine} {s : σ} {n k : Nat} (h : m.failures s n = []) (hk : k ≤ n) :
    m.failures s k = [] := by
  obtain ⟨rest, rfl⟩ := Nat.exists_eq_add_of_le hk
  rw [failures_add, List.append_eq_nil_iff] at h
  exact h.1

theorem calls_of_isFinished {m : Machine} (h : m.isFinished = true) (s : σ) (cs : List (Call σ)) :
    m.calls s cs = ([], m, s) := by
  obtain ⟨n, hgo, hcalls⟩ := exists_goesOn_calls m s cs
  cases n with
  | zero => exact hcalls
  | succ n => exact absurd h (goesOn_succ_iff.1 hgo).1

/-- Until it begins again, the step counter says all about how far calls have got, whatever the calls were.  In
particular two runs with step limits do what one run with their sum does, a run that was stopped can be taken up again
under any other limit, and calls after the end change nothing. -/
theorem calls_eq_of_steps_eq {source : String} {p : Program} (hsource : Program.parse source = .ok p)
    (script : Script) :
    (∀ cs cs' : List (Call Script), ((start p).calls script cs).2.1.dispatched ≤ Counter.max →
        ((start p).calls script cs').2.1.dispatched ≤ Counter.max →
          ((start p).calls script cs).2.1.steps = ((start p).calls script cs').2.1.steps →
            (start p).calls script cs = (start p).calls script cs') ∧
      ∀ m s, Reachable p script m s →
        (s.IsFaultless → ∀ n, m.failures s n = []) ∧
        (∀ a b, m.failures s (a + b) = [] →
          ∀ fuelA fuelB fuel, a ≤ fuelA → b ≤ fuelB → a + b ≤ fuel → ∃ first last m₁ s₁ reached,
            m.runFor fuelA { steps := some a } s = (some (.ok first), m₁, s₁) ∧
              m₁.runFor fuelB { steps := some b } s₁ = (some (.ok last), reached) ∧
                m.runFor fuel { steps := some (a + b) } s = (some (.ok last), reached)) ∧
        (∀ fuel limits outcome m' s', m.runFor fuel limits s = (some (.ok outcome), m', s') →
          ∃ n, m'.dispatched = m.dispatched + n ∧ ∀ (limit : Option Nat) (fuel' : Nat),
            (limit.isSome = true → m.steps + n ≤ Counter.max) →
              m.runFor (n + fuel') { steps := limit.map (n + ·) } s = m'.runFor fuel' { steps := limit } s') ∧
        (m.isFinished = true → ∀ cs, m.calls s cs = ([], m, s)) := by
  obtain ⟨-, -, -, hp⟩ := Program.parse_eq_ok_iff.1 hsource
  constructor
  · intro cs cs' hcount hcount' hsteps
    rw [steps_of_le hcount, steps_of_le hcount'] at hsteps
    obtain ⟨n, hgo, hcalls⟩ := exists_goesOn_calls (start p) script cs
    obtain ⟨n', hgo', hcalls'⟩ := exists_goesOn_calls (start p) script cs'
    rw [hcalls, hcalls', hgo.dispatched_after, hgo'.dispatched_after, Nat.add_left_cancel_iff] at hsteps
    rw [hcalls, hcalls', hsteps]
  intro m s hreach
  refine ⟨failures_of_isFaultless (hreach.executes hp) hp, ?_, ?_, fun hend => calls_of_isFinished hend s⟩
  · intro a b hfailures fuelA fuelB fuel hfuelA hfuelB hfuel
    have hsum := runFor_steps (failures_of_le hfailures (m.granted_le (a + b)))
      (Nat.le_trans (m.granted_le (a + b)) hfuel)
    rw [after_granted_add] at hsum
    have hboth := failures_of_le hfailures
      (Nat.add_le_add (m.granted_le a) ((m.after s (m.granted a)).1.granted_le b))
    rw [failures_add, List.append_eq_nil_iff] at hboth
    have hfirst := runFor_steps hboth.1 (Nat.le_trans (m.granted_le a) hfuelA)
    have hsecond := runFor_steps hboth.2 (Nat.le_trans (granted_le _ b) hfuelB)
    exact ⟨_, _, _, _, _, hfirst, hsecond, hsum⟩
  · intro fuel limits outcome m' s' hrun
    obtain ⟨n, hgo, hfailures, hafter⟩ := exists_goesOn_of_runFor hrun
    have hcount := hgo.dispatched_after
    rw [hafter] at hcount
    refine ⟨n, hcount, ?_⟩
    intro limit fuel' hlimit
    rw [runFor_resume hgo hfailures hlimit, hafter]

/-- A write and a read fail on the way.  Behind them, two runs from the sixth step on are one run. -/
theorem calls_eq_of_steps_eq_echo :
    let script : Script := { reads := [.byte 2, .fail .wouldBlock, .byte 1], writes := [.fail .brokenPipe] }
    let p : Program := ⟨#[.input, .loopOpen, .output, .input, .loopClose]⟩
    let sixth : Limits Script := { cancel := some fun steps _ => decide (6 ≤ steps) }
    let cs := [.run 9 { steps := some 0 }, .step, .run 9 { steps := some 3 }, .run 9 sixth, .run 9 sixth]
    let cs' := [.run 9 {}, .run 9 {}, .step]
    Program.parse ",[.,]" = .ok p ∧ (start p).calls script cs = (start p).calls script cs' ∧
      ((start p).calls script cs).1 = [.io .brokenPipe, .io .wouldBlock] ∧
      ∃ first last m₁ s₁ reached,
        ((start p).calls script cs).2.1.runFor 2 { steps := some 2 } ((start p).calls script cs).2.2 =
            (some (.ok first), m₁, s₁) ∧
          m₁.runFor 3 { steps := some 3 } s₁ = (some (.ok last), reached) ∧
            ((start p).calls script cs).2.1.runFor 5 { steps := some 5 } ((start p).calls script cs).2.2 =
              (some (.ok last), reached) := by
  intro script p sixth cs cs'
  have hparse : Program.parse ",[.,]" = .ok p := by rfl
  obtain ⟨hcalls, hreachable⟩ := calls_eq_of_steps_eq hparse script
  obtain ⟨hfaultless, hsum, -⟩ := hreachable _ _ ⟨cs, rfl⟩
  have hclean : ((start p).calls script cs).2.2.IsFaultless := ⟨by decide +kernel, by decide +kernel, by decide +kernel⟩
  refine ⟨hparse, hcalls cs cs' (by decide +kernel) (by decide +kernel) (by decide +kernel), by decide +kernel, ?_⟩
  exact hsum 2 3 (hfaultless hclean 5) 2 3 5 (by decide) (by decide) (by decide)

end TapeMachine.Machine
