import TapeMachine.Proofs.Budget

/-!
# One machine on two hosts

A machine that is put on either of two related hosts does the same there, as long as it meets nothing that tells the
hosts apart.  If a step that does not meet it has the same answer on both hosts and leaves them related (`Coincide`),
any number of steps lead to the same machine with the same failures (`together_of_forall`) and with the same answers
(`answers_eq_of_forall`), and a run does the same (`coincide_runFor`).
-/

namespace TapeMachine

/-- Two hosts answer alike, and are related afterwards. -/
structure Host.AnswerAlike {α σ τ : Type} (R : σ → τ → Prop) (x : α × σ) (y : α × τ) : Prop where
  answer_eq : x.1 = y.1
  related : R x.2 y.2

theorem Host.AnswerAlike.exists_eq {α σ τ : Type} {R : σ → τ → Prop} {x : α × σ} {y : α × τ}
    (h : AnswerAlike R x y) : ∃ answer s t, x = (answer, s) ∧ y = (answer, t) ∧ R s t := by
  obtain ⟨answer, s⟩ := x
  obtain ⟨answer', t⟩ := y
  obtain ⟨rfl, hR⟩ := h
  exact ⟨answer, s, t, rfl, rfl, hR⟩

namespace Machine

open Host (AnswerAlike)

variable {σ τ : Type} [Host σ] [Host τ] {R : σ → τ → Prop} {m : Machine} {s : σ} {t : τ}

/-! ### One step -/

/-- The same answer and the same machine, and related hosts. -/
structure Coincide {α : Type} (R : σ → τ → Prop) (x : α × Machine × σ) (y : α × Machine × τ) : Prop where
  answer_eq : x.1 = y.1
  machine_eq : x.2.1 = y.2.1
  related : R x.2.2 y.2.2

omit [Host σ] [Host τ] in
theorem Coincide.exists_eq {α : Type} {x : α × Machine × σ} {y : α × Machine × τ} (h : Coincide R x y) :
    ∃ answer m s t, x = (answer, m, s) ∧ y = (answer, m, t) ∧ R s t := by
  obtain ⟨answer, m, s⟩ := x
  obtain ⟨answer', m', t⟩ := y
  obtain ⟨rfl, rfl, hR⟩ := h
  exact ⟨answer, m, s, t, rfl, rfl, hR⟩

theorem answerAlike_jump (hst : R s t)
    (hjumped : ∀ source target, R (Host.jumped source target s) (Host.jumped source target t)) :
    AnswerAlike R (m.jump s) (m.jump t) := by
  unfold jump
  split
  · exact ⟨rfl, hjumped _ _⟩
  · exact ⟨rfl, hst⟩

theorem answerAlike_output (h : AnswerAlike R (Host.write m.tape.cell s) (Host.write m.tape.cell t)) :
    AnswerAlike R (m.perform s .output) (m.perform t .output) := by
  obtain ⟨answer, s', t', hs, ht, hR⟩ := h.exists_eq
  dsimp only [perform]
  rw [hs, ht]
  cases answer with
  | ok => exact ⟨rfl, hR⟩
  | error cause => exact ⟨rfl, hR⟩

theorem answerAlike_input (hflush : AnswerAlike R (Host.flush s) (Host.flush t))
    (hread : ∀ {s' : σ} {t' : τ}, Host.flush s = (.ok (), s') → R s' t' →
      AnswerAlike R (Host.read s') (Host.read t')) :
    AnswerAlike R (m.perform s .input) (m.perform t .input) := by
  obtain ⟨answer, s₁, t₁, hs, ht, hR⟩ := hflush.exists_eq
  dsimp only [perform]
  rw [hs, ht]
  cases answer with
  | error cause => exact ⟨rfl, hR⟩
  | ok =>
    obtain ⟨answer, s', t', hs', ht', hR⟩ := (hread hs hR).exists_eq
    dsimp only
    rw [hs', ht']
    rcases answer with cause | (_ | byte)
    · exact ⟨rfl, hR⟩
    · exact ⟨rfl, hR⟩
    · exact ⟨rfl, hR⟩

/-- A step does the same on two hosts if the calls that it makes are answered alike. -/
theorem coincide_step (hst : R s t)
    (houtput : m.next? = some .output → AnswerAlike R (Host.write m.tape.cell s) (Host.write m.tape.cell t))
    (hinput : m.next? = some .input → AnswerAlike R (Host.flush s) (Host.flush t) ∧
      ∀ {s' : σ} {t' : τ}, Host.flush s = (.ok (), s') → R s' t' → AnswerAlike R (Host.read s') (Host.read t'))
    (hjumped : ∀ source target, R (Host.jumped source target s) (Host.jumped source target t)) :
    Coincide R (m.step s) (m.step t) := by
  have hjump := answerAlike_jump (m := m) hst hjumped
  cases hi : m.program.instructions[m.ip]? with
  | none =>
    unfold step
    rw [hi]
    exact ⟨rfl, rfl, hst⟩
  | some i =>
    have hperform : AnswerAlike R (m.perform s i) (m.perform t i) := by
      cases i with
      | output => exact answerAlike_output (houtput hi)
      | input => exact answerAlike_input (hinput hi).1 (hinput hi).2
      | loopOpen =>
        dsimp only [perform]
        split
        · exact hjump
        · exact ⟨rfl, hst⟩
      | loopClose =>
        dsimp only [perform]
        split
        · exact ⟨rfl, hst⟩
        · exact hjump
      | _ => exact ⟨rfl, hst⟩
    obtain ⟨answer, s', t', hs, ht, hR⟩ := hperform.exists_eq
    unfold step
    rw [hi]
    dsimp only
    rw [hs, ht]
    cases answer with
    | ok place => exact ⟨rfl, rfl, hR⟩
    | error cause => exact ⟨rfl, rfl, hR⟩

/-! ### Any number of steps -/

/-- After so many steps on either host the machines are the same, have failed alike, and their hosts are related. -/
structure Together (R : σ → τ → Prop) (m : Machine) (s : σ) (t : τ) (n : ℕ) : Prop where
  machine_eq : (m.after s n).1 = (m.after t n).1
  failures_eq : m.failures s n = m.failures t n
  related : R (m.after s n).2 (m.after t n).2

theorem Together.zero (h : R s t) : Together R m s t 0 := ⟨rfl, rfl, h⟩

theorem Together.succ (hstep : Coincide R (m.step s) (m.step t)) {n : ℕ}
    (h : Together R (m.step s).2.1 (m.step s).2.2 (m.step t).2.2 n) : Together R m s t (n + 1) := by
  obtain ⟨hanswer, hmachine, -⟩ := hstep
  obtain ⟨hm, hfailures, hR⟩ := h
  refine ⟨?_, ?_, ?_⟩
  · rw [after_succ, after_succ, hm, hmachine]
  · rw [failures_succ, failures_succ, hfailures, hanswer, hmachine]
  · rw [after_succ, after_succ, ← hmachine]
    exact hR

/-- The bounds of two runs are the same: on related hosts the one flag is set whenever the other one is. -/
structure LimitedAlike (R : σ → τ → Prop) (limits : Limits σ) (limits' : Limits τ) : Prop where
  steps_eq : limits'.steps = limits.steps
  cancel_eq : ∀ s t, R s t → ∀ n, limits.cancel.any (· n s) = limits'.cancel.any (· n t)

omit [Host σ] [Host τ] in
theorem LimitedAlike.of_steps (limit : Option ℕ) :
    LimitedAlike R { steps := limit } { steps := limit } := ⟨rfl, fun _ _ _ _ => rfl⟩

omit [Host σ] [Host τ] in
theorem halt?_congr {budget : Option ℕ} {cancel : Option (ℕ → σ → Bool)} {cancel' : Option (ℕ → τ → Bool)}
    (hcancel : ∀ s t, R s t → ∀ n, cancel.any (· n s) = cancel'.any (· n t)) (hst : R s t) :
    halt? budget cancel m s = halt? budget cancel' m t := by
  unfold halt?
  rw [hcancel s t hst m.dispatched]

section Until

variable {Q : Machine → σ → Prop}
  (hstep : ∀ {m : Machine} {s : σ} {t : τ}, R s t → ¬ Q m s → Coincide R (m.step s) (m.step t))

include hstep

/-- Steps do the same on two hosts until they meet what tells the hosts apart. -/
theorem together_of_forall {n : ℕ} (hst : R s t)
    (hQ : ∀ k < n, Together R m s t k → ¬ Q (m.after s k).1 (m.after s k).2) : Together R m s t n := by
  induction n generalizing m s t with
  | zero => exact Together.zero hst
  | succ n ih =>
    have hfirst := hstep hst (hQ 0 (by omega) (Together.zero hst))
    refine Together.succ hfirst (ih hfirst.related ?_)
    intro k hk htogether
    exact hQ (k + 1) (by omega) (Together.succ hfirst htogether)

/-- The steps before that have the same answers. -/
theorem answers_eq_of_forall {n : ℕ} (hst : R s t)
    (hQ : ∀ k < n, Together R m s t k → ¬ Q (m.after s k).1 (m.after s k).2) : m.answers s n = m.answers t n := by
  induction n generalizing m s t with
  | zero => rfl
  | succ n ih =>
    have hfirst : Coincide R (m.step s) (m.step t) := hstep hst (hQ 0 (by omega) (Together.zero hst))
    have hrest : (m.step s).2.1.answers (m.step s).2.2 n = (m.step s).2.1.answers (m.step t).2.2 n := by
      refine ih hfirst.related ?_
      intro k hk htogether
      exact hQ (k + 1) (by omega) (Together.succ hfirst htogether)
    rw [answers_succ, answers_succ, hrest, hfirst.answer_eq, hfirst.machine_eq]

/-- A run does the same on two hosts if it does not meet what tells the hosts apart before it fails or is stopped. -/
theorem coincide_runUntil {budget : Option ℕ} (hmax : ∀ b ∈ budget, b ≤ Counter.max)
    {cancel : Option (ℕ → σ → Bool)} {cancel' : Option (ℕ → τ → Bool)}
    (hcancel : ∀ s t, R s t → ∀ n, cancel.any (· n s) = cancel'.any (· n t)) {fuel : ℕ} (hst : R s t)
    (hQ : ∀ k < fuel, (∀ b ∈ budget, m.steps + k < b) → m.failures s k = [] → Together R m s t k →
      ¬ Q (m.after s k).1 (m.after s k).2) :
    Coincide R (runUntil budget cancel fuel m s) (runUntil budget cancel' fuel m t) := by
  induction fuel generalizing m s t with
  | zero =>
    unfold runUntil
    rw [halt?_congr hcancel hst]
    exact ⟨rfl, rfl, hst⟩
  | succ fuel ih =>
    have hsame : halt? budget cancel' m t = halt? budget cancel m s := (halt?_congr hcancel hst).symm
    cases hhalt : halt? budget cancel m s with
    | some halt =>
      rw [runUntil_of_halt hhalt, runUntil_of_halt (hsame.trans hhalt)]
      exact ⟨rfl, rfl, hst⟩
    | none =>
      have hm := not_isFinished_of_halt? hhalt
      have hbudget := lt_of_halt? hhalt
      have hfirst : Coincide R (m.step s) (m.step t) := hstep hst (hQ 0 (by omega) hbudget rfl (Together.zero hst))
      cases hanswer : (m.step s).1 with
      | error cause =>
        rw [runUntil_of_error hhalt hanswer, runUntil_of_error (hsame.trans hhalt) (hfirst.answer_eq ▸ hanswer)]
        exact ⟨rfl, hfirst.machine_eq, hfirst.related⟩
      | ok dispatched =>
        have hanswer' : (m.step t).1 = .ok dispatched := hfirst.answer_eq ▸ hanswer
        rw [runUntil_of_ok hhalt hanswer, runUntil_of_ok (hsame.trans hhalt) hanswer', ← hfirst.machine_eq]
        refine ih hfirst.related ?_
        intro k hk hb hfailures htogether
        refine hQ (k + 1) (by omega) ?_ ?_ (Together.succ hfirst htogether)
        · intro b hb'
          have hsteps := steps_step_of_lt hm (Nat.lt_of_lt_of_le (hbudget b hb') (hmax b hb')) s
          have := hb b hb'
          omega
        · rw [failures_succ, hanswer, hfailures]
          rfl

theorem coincide_runFor {limits : Limits σ} {limits' : Limits τ} (hlimits : LimitedAlike R limits limits') {fuel : ℕ}
    (hst : R s t)
    (hQ : ∀ k < fuel, (k : ℕ∞) < m.allowed limits.steps → m.failures s k = [] → Together R m s t k →
      ¬ Q (m.after s k).1 (m.after s k).2) :
    Coincide R (m.runFor fuel limits s) (m.runFor fuel limits' t) := by
  have hrun : Coincide R (runUntil (m.budget limits) limits.cancel fuel m s)
      (runUntil (m.budget limits) limits'.cancel fuel m t) := by
    refine coincide_runUntil hstep (fun _ => m.le_of_mem_budget) hlimits.cancel_eq hst ?_
    intro k hk hbudget hfailures htogether
    have hallowed : ∀ b ∈ m.budget ({ steps := limits.steps } : Limits σ), m.steps + k < b := hbudget
    exact hQ k hk (lt_allowed_iff.2 hallowed) hfailures htogether
  have hbudget : m.budget limits' = m.budget limits := congrArg (Option.map (Counter.add m.steps)) hlimits.steps_eq
  obtain ⟨hanswer, hmachine, hR⟩ := hrun
  unfold runFor
  rw [hbudget]
  refine ⟨?_, hmachine, hR⟩
  dsimp only
  rw [hanswer, hmachine]

end Until

end Machine

end TapeMachine
