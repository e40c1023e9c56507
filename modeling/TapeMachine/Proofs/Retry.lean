import TapeMachine.Proofs.Reachable
import TapeMachine.Proofs.Steps
import TapeMachine.Stream.Script.Fault

/-!
# Failures and retries

An instruction that fails on a script has done nothing but use up a fault (`step_of_io_error`), and the next step
dispatches it again.  So a machine whose steps are repeated, failed or not, gets to where the same machine gets on the
same script without faults (`Alike.after`), in as many steps more as there have been failures (`steps_after_eq`); and
since a script has finitely many faults, every instruction that is dispatched without them is dispatched at last
(`Alike.exists_dispatches_eq`).
-/

namespace TapeMachine.Machine

/-! ### One instruction -/

theorem exists_jump_eq (m : Machine) :
    ∃ result, (∀ s : Script, m.jump s = (result, s)) ∧ ∀ cause, result ≠ .error (.io cause) := by
  unfold jump
  split
  · exact ⟨_, fun _ => rfl, fun _ h => nomatch h⟩
  · exact ⟨_, fun _ => rfl, fun _ h => nomatch h⟩

/-- An instruction that neither reads nor writes leaves the streams alone. -/
theorem exists_perform_eq (m : Machine) {i : Instruction} (hout : i ≠ .output) (hin : i ≠ .input) :
    ∃ result, (∀ s : Script, m.perform s i = (result, s)) ∧ ∀ cause, result ≠ .error (.io cause) := by
  cases i with
  | output => exact absurd rfl hout
  | input => exact absurd rfl hin
  | loopOpen =>
    by_cases hcell : m.tape.cell = 0
    · simp only [perform, if_pos hcell]
      exact m.exists_jump_eq
    · simp only [perform, if_neg hcell]
      exact ⟨_, fun _ => rfl, fun _ h => nomatch h⟩
  | loopClose =>
    by_cases hcell : m.tape.cell = 0
    · simp only [perform, if_pos hcell]
      exact ⟨_, fun _ => rfl, fun _ h => nomatch h⟩
    · simp only [perform, if_neg hcell]
      exact m.exists_jump_eq
  | _ => exact ⟨_, fun _ => rfl, fun _ h => nomatch h⟩

variable {m : Machine} {s s' t : Script}

theorem perform_of_io_error {i : Instruction} {cause : IoError} (h : m.perform s i = (.error (.io cause), s')) :
    s.Untouched s' ∧ s'.faults < s.faults := by
  by_cases hout : i = .output
  · subst hout
    dsimp only [perform] at h
    split at h
    · cases h
    · rename_i hwrite
      cases h
      exact Script.write_of_error hwrite
  by_cases hin : i = .input
  · subst hin
    dsimp only [perform] at h
    split at h
    · rename_i hflush
      cases h
      exact Script.flush_of_error hflush
    · rename_i s₁ hflush
      have hflushed := s.untouched_flush
      rw [show s.flush = (.ok (), s₁) from hflush] at hflushed
      split at h
      · rename_i hread
        cases h
        obtain ⟨hkept, hfaults⟩ := Script.read_of_error hread
        exact ⟨hflushed.trans hkept, Nat.lt_of_lt_of_le hfaults (Script.flush_of_ok hflush)⟩
      · cases h
      · cases h
  obtain ⟨result, heq, hresult⟩ := m.exists_perform_eq hout hin
  rw [heq] at h
  cases h
  exact absurd rfl (hresult cause)

theorem perform_of_ok (ht : s.FaultlessTwin t) {i : Instruction} {place : Tape × Nat}
    (h : m.perform s i = (.ok place, s')) :
    s'.faults ≤ s.faults ∧ ∃ t', m.perform t i = (.ok place, t') ∧ s'.FaultlessTwin t' := by
  by_cases hout : i = .output
  · subst hout
    dsimp only [perform] at h ⊢
    split at h
    · rename_i hwrite
      cases h
      obtain ⟨hfaults, t', hwritet, ht'⟩ := ht.write_of_ok hwrite
      rw [show Host.write m.tape.cell t = (.ok (), t') from hwritet]
      exact ⟨hfaults, t', rfl, ht'⟩
    · cases h
  by_cases hin : i = .input
  · subst hin
    dsimp only [perform] at h ⊢
    split at h
    · cases h
    · rename_i s₁ hflush
      obtain ⟨hfaults₁, t₁, hflusht, ht₁⟩ := ht.flush_of_ok hflush
      rw [show Host.flush t = (.ok (), t₁) from hflusht]
      dsimp only
      split at h
      · cases h
      · rename_i hread
        cases h
        obtain ⟨hfaults, t', hreadt, ht'⟩ := ht₁.read_of_ok hread
        rw [show Host.read t₁ = (.ok none, t') from hreadt]
        exact ⟨Nat.le_trans hfaults hfaults₁, t', rfl, ht'⟩
      · rename_i hread
        cases h
        obtain ⟨hfaults, t', hreadt, ht'⟩ := ht₁.read_of_ok hread
        rw [show Host.read t₁ = (.ok (some _), t') from hreadt]
        exact ⟨Nat.le_trans hfaults hfaults₁, t', rfl, ht'⟩
  obtain ⟨result, heq, -⟩ := m.exists_perform_eq hout hin
  rw [heq] at h
  cases h
  exact ⟨Nat.le_refl _, t, heq t, ht⟩

/-! ### One step -/

/-- A step that fails with an error of the streams uses up a fault and does nothing else. -/
theorem step_of_io_error {cause : IoError} (h : (m.step s).1 = .error (.io cause)) :
    s.Untouched (m.step s).2.2 ∧ (m.step s).2.2.faults < s.faults := by
  revert h
  unfold step
  split
  · intro h
    cases h
  · split
    · intro h
      cases h
    · rename_i hperform
      intro h
      cases h
      exact perform_of_io_error hperform

/-- While there are instructions left, a step dispatches one, and that succeeds or fails on the streams. -/
theorem Executes.dispatch_cases {p : Program} (hm : m.Executes p) (hp : Balanced p.instructions.toList)
    (hend : ¬ m.isFinished = true) (s : Script) :
    (m.step s).2.1.Executes p ∧ ((m.step s).1 = .ok true ∨ ∃ cause, (m.step s).1 = .error (.io cause)) := by
  obtain ⟨hnext, ⟨dispatched, hok⟩ | hfail⟩ := hm.step_cases hp s
  · obtain rfl := dispatched_eq_true hend hok
    exact ⟨hnext, .inl hok⟩
  · exact ⟨hnext, .inr hfail⟩

/-- A machine and, on a faultless twin of its script, one at the same place that may have counted other steps. -/
structure Alike (m : Machine) (s : Script) (m' : Machine) (t : Script) : Prop where
  program_eq : m'.program = m.program
  jumps_eq : m'.jumps = m.jumps
  tape_eq : m'.tape = m.tape
  ip_eq : m'.ip = m.ip
  twin : s.FaultlessTwin t

namespace Alike

variable {m' : Machine}

theorem perform_eq (h : m.Alike s m' t) (u : Script) (i : Instruction) : m'.perform u i = m.perform u i := by
  obtain ⟨program, jumps, tape, ip, steps⟩ := m
  obtain ⟨program', jumps', tape', ip', steps'⟩ := m'
  obtain ⟨hprogram, hjumps, htape, hip, -⟩ := h
  dsimp only at hprogram hjumps htape hip
  subst hprogram hjumps htape hip
  cases i <;> rfl

theorem isFinished_eq (h : m.Alike s m' t) : m'.isFinished = m.isFinished := by
  unfold isFinished
  rw [h.program_eq, h.ip_eq]

theorem step_of_io_error (h : m.Alike s m' t) {cause : IoError} (hfail : (m.step s).1 = .error (.io cause)) :
    (m.step s).2.1.Alike (m.step s).2.2 m' t := by
  rw [step_of_error hfail]
  exact ⟨h.program_eq, h.jumps_eq, h.tape_eq, h.ip_eq, h.twin.of_untouched (Machine.step_of_io_error hfail).1⟩

/-- A step that succeeds does the same, and succeeds, without the faults. -/
theorem step_of_dispatched (h : m.Alike s m' t) (hok : (m.step s).1 = .ok true) :
    (m.step s).2.2.faults ≤ s.faults ∧
      ∃ m₁ t₁, m'.step t = (.ok true, m₁, t₁) ∧ (m.step s).2.1.Alike (m.step s).2.2 m₁ t₁ := by
  revert hok
  unfold step
  rw [h.program_eq, h.ip_eq]
  split
  · intro hok
    cases hok
  · split
    · rename_i hperform
      intro _
      obtain ⟨hfaults, t₁, hperformt, ht₁⟩ := perform_of_ok h.twin hperform
      rw [h.perform_eq, hperformt]
      exact ⟨hfaults, _, _, rfl, rfl, h.jumps_eq, rfl, rfl, ht₁⟩
    · intro hok
      cases hok

end Alike

/-! ### Any number of steps -/

/-- Whether an answer tells of an instruction that has succeeded. -/
def isDispatch : Except RunError Bool → Bool
  | .ok dispatched => dispatched
  | .error _ => false

def isIoError : Except RunError Bool → Bool
  | .error (.io _) => true
  | _ => false

/-- How many of some steps have dispatched an instruction that has succeeded. -/
def dispatches (answers : List (Except RunError Bool)) : Nat := answers.countP isDispatch

/-- How many of some steps have failed with an error of the streams. -/
def ioErrors (answers : List (Except RunError Bool)) : Nat := answers.countP isIoError

section Counts

variable {answers : List (Except RunError Bool)} {cause : IoError}

theorem dispatches_cons_true : dispatches (.ok true :: answers) = dispatches answers + 1 :=
  List.countP_cons_of_pos rfl

theorem dispatches_cons_error : dispatches (.error (.io cause) :: answers) = dispatches answers :=
  List.countP_cons_of_neg nofun

theorem ioErrors_cons_true : ioErrors (.ok true :: answers) = ioErrors answers :=
  List.countP_cons_of_neg nofun

theorem ioErrors_cons_error : ioErrors (.error (.io cause) :: answers) = ioErrors answers + 1 :=
  List.countP_cons_of_pos rfl

theorem counts_of_isFinished (h : m.isFinished = true) (s : Script) (n : Nat) :
    dispatches (m.answers s n) = 0 ∧ ioErrors (m.answers s n) = 0 := by
  rw [answers_of_isFinished h]
  simp [dispatches, ioErrors, isDispatch, isIoError, List.countP_replicate]

end Counts

variable {p : Program} {m' : Machine}

/-- The steps that are counted are those that succeed and those that fail. -/
theorem dispatched_after_eq (hm : m.Executes p) (hp : Balanced p.instructions.toList) (s : Script) (k : Nat) :
    (m.after s k).1.dispatched = m.dispatched + (dispatches (m.answers s k) + ioErrors (m.answers s k)) := by
  induction k generalizing m s with
  | zero => rfl
  | succ k ih =>
    by_cases hend : m.isFinished = true
    · obtain ⟨hdispatches, hioErrors⟩ := counts_of_isFinished hend s (k + 1)
      rw [after_of_isFinished hend, hdispatches, hioErrors]
      rfl
    · obtain ⟨hnext, hanswer⟩ := hm.dispatch_cases hp hend s
      rw [after_succ, ih hnext, dispatched_step hend, answers_succ]
      rcases hanswer with hok | ⟨cause, hfail⟩
      · rw [hok, dispatches_cons_true, ioErrors_cons_true]
        omega
      · rw [hfail, dispatches_cons_error, ioErrors_cons_error]
        omega

/-- Steps on a script lead to where as many steps as have succeeded lead without the faults, and there all succeed. -/
theorem Alike.after (h : m.Alike s m' t) (hm : m.Executes p) (hp : Balanced p.instructions.toList) (k : Nat) :
    m'.answers t (dispatches (m.answers s k)) = List.replicate (dispatches (m.answers s k)) (.ok true) ∧
      (m.after s k).1.Alike (m.after s k).2 (m'.after t (dispatches (m.answers s k))).1
        (m'.after t (dispatches (m.answers s k))).2 := by
  induction k generalizing m s m' t with
  | zero => exact ⟨rfl, h⟩
  | succ k ih =>
    by_cases hend : m.isFinished = true
    · rw [(counts_of_isFinished hend s (k + 1)).1, after_of_isFinished hend]
      exact ⟨rfl, h⟩
    · obtain ⟨hnext, hok | ⟨cause, hfail⟩⟩ := hm.dispatch_cases hp hend s
      · obtain ⟨-, m₁, t₁, hstep, halike⟩ := h.step_of_dispatched hok
        obtain ⟨hanswers, hafter⟩ := ih halike hnext
        rw [answers_succ m, hok, dispatches_cons_true, answers_succ m', after_succ m, after_succ m', hstep]
        exact ⟨congrArg _ hanswers, hafter⟩
      · rw [answers_succ m, hfail, dispatches_cons_error, after_succ m]
        exact ih (h.step_of_io_error hfail) hnext

/-- What is dispatched without the faults is dispatched at last, since every failure uses up a fault. -/
theorem Alike.exists_dispatches_eq (h : m.Alike s m' t) (hm : m.Executes p) (hp : Balanced p.instructions.toList)
    {n : Nat} (hanswers : m'.answers t n = List.replicate n (.ok true)) :
    ∃ k ≤ n + s.faults, dispatches (m.answers s k) = n := by
  generalize hbound : n + s.faults = bound
  induction bound using Nat.strongRecOn generalizing n m s m' t with
  | ind bound ih =>
    subst hbound
    cases n with
    | zero => exact ⟨0, Nat.zero_le _, rfl⟩
    | succ n =>
      rw [answers_succ, List.replicate_succ, List.cons.injEq] at hanswers
      obtain ⟨hfirst, hrest⟩ := hanswers
      have hend : ¬ m.isFinished = true := by
        intro hend
        rw [← h.isFinished_eq] at hend
        rw [step_of_isFinished hend] at hfirst
        cases hfirst
      obtain ⟨hnext, hok | ⟨cause, hfail⟩⟩ := hm.dispatch_cases hp hend s
      · obtain ⟨hfaults, m₁, t₁, hstep, halike⟩ := h.step_of_dispatched hok
        rw [hstep] at hrest
        obtain ⟨k, hk, hcount⟩ := ih _ (by omega) halike hnext hrest rfl
        refine ⟨k + 1, by omega, ?_⟩
        rw [answers_succ, hok, dispatches_cons_true, hcount]
      · have hfaults := (Machine.step_of_io_error hfail).2
        have hall : m'.answers t (n + 1) = List.replicate (n + 1) (.ok true) := by
          rw [answers_succ, hfirst, hrest, List.replicate_succ]
        obtain ⟨k, hk, hcount⟩ := ih _ (by omega) (h.step_of_io_error hfail) hnext hall rfl
        refine ⟨k + 1, by omega, ?_⟩
        rw [answers_succ, hfail, dispatches_cons_error, hcount]

/-- Without faults nothing fails. -/
theorem failures_of_isFaultless (hm : m.Executes p) (hp : Balanced p.instructions.toList) (hs : s.IsFaultless)
    (n : Nat) : m.failures s n = [] := by
  induction n generalizing m s with
  | zero => rfl
  | succ n ih =>
    by_cases hend : m.isFinished = true
    · rw [failures, answers_of_isFinished hend]
      simp [failure?]
    · obtain ⟨hnext, hok | ⟨cause, hfail⟩⟩ := hm.dispatch_cases hp hend s
      · have hself : m.Alike s m s := ⟨rfl, rfl, rfl, rfl, hs.faultlessTwin_self⟩
        obtain ⟨-, m₁, s₁, hstep, halike⟩ := hself.step_of_dispatched hok
        have hnextfaultless : (m.step s).2.2.IsFaultless := by
          rw [hstep]
          exact halike.twin.faultless
        rw [failures_succ, hok]
        exact ih hnext hnextfaultless
      · have hfaults := (step_of_io_error hfail).2
        rw [hs.faults_eq_zero] at hfaults
        exact absurd hfaults (Nat.not_lt_zero _)

theorem alike_start (p : Program) (s : Script) : (start p).Alike s (start p) s.withoutFaults :=
  ⟨rfl, rfl, rfl, rfl, s.faultlessTwin_withoutFaults⟩

/-- A step that fails on the streams has no effect but that it is counted; and a machine whose steps are repeated in
spite of failures is, whenever so many have succeeded, where so many steps lead on the script without its faults. -/
theorem after_eq_after_withoutFaults {source : String} {p : Program} (hsource : Program.parse source = .ok p)
    (reads : List ReadAnswer) (writes : List WriteAnswer) (flushes : List FlushAnswer) :
    let script : Script := { reads, writes, flushes }
    (∀ (m : Machine) (s : Script) (cause : IoError), (m.step s).1 = .error (.io cause) →
        (m.step s).2.1 = { m with dispatched := m.dispatched + 1 } ∧ (m.step s).2.2.delivered = s.delivered ∧
          (m.step s).2.2.data = s.data) ∧
      (∀ k, let n := dispatches ((start p).answers script k)
        let reached := (start p).after script k
        let reached' := (start p).after script.withoutFaults n
        (start p).answers script.withoutFaults n = List.replicate n (.ok true) ∧
          reached.1.ip = reached'.1.ip ∧ reached.1.tape = reached'.1.tape ∧
          reached.2.delivered = reached'.2.delivered ∧ reached.2.data = reached'.2.data ∧
          reached.1.steps = Counter.wrap (n + ioErrors ((start p).answers script k))) ∧
      ∀ n, (start p).answers script.withoutFaults n = List.replicate n (.ok true) →
        ∃ k ≤ n + script.faults, dispatches ((start p).answers script k) = n := by
  intro script
  obtain ⟨-, -, -, hp⟩ := Program.parse_eq_ok_iff.1 hsource
  refine ⟨?_, ?_, ?_⟩
  · intro m s cause hfail
    obtain ⟨huntouched, -⟩ := step_of_io_error hfail
    exact ⟨step_of_error hfail, huntouched.delivered_eq, huntouched.data_eq⟩
  · intro k n reached reached'
    obtain ⟨hanswers, hafter⟩ := (alike_start p script).after (executes_start p) hp k
    have hcount := dispatched_after_eq (executes_start p) hp script k
    rw [show (start p).dispatched = 0 from rfl, Nat.zero_add] at hcount
    exact ⟨hanswers, hafter.ip_eq.symm, hafter.tape_eq.symm, hafter.twin.delivered_eq.symm,
      hafter.twin.data_eq_data.symm, congrArg Counter.wrap hcount⟩
  · intro n hanswers
    exact (alike_start p script).exists_dispatches_eq (executes_start p) hp hanswers

/-- The flush of the first input fails, then its read, and in the loop a write; so four instructions take seven steps,
and one more is needed for the fifth. -/
theorem after_eq_after_withoutFaults_echo :
    let script : Script := {
      reads := [.fail .wouldBlock, .byte 2, .fail .interrupted, .endOfInput]
      writes := [.takeNothing, .fail .interrupted, .accept]
      flushes := [.fail .interrupted, .done] }
    let p : Program := ⟨#[.input, .loopOpen, .output, .input, .loopClose]⟩
    Program.parse ",[.,]" = .ok p ∧ dispatches ((start p).answers script 7) = 4 ∧
      ((start p).after script 7).1.steps = 4 + 3 ∧ ((start p).after script 7).2.delivered = [2] ∧
      ∃ k ≤ 10, dispatches ((start p).answers script k) = 5 := by
  intro script p
  have hparse : Program.parse ",[.,]" = .ok p := by rfl
  obtain ⟨-, hreached, hall⟩ := after_eq_after_withoutFaults hparse script.reads script.writes script.flushes
  have hfour : dispatches ((start p).answers script 7) = 4 := by decide +kernel
  have hfive : dispatches ((start p).answers script 8) = 5 := by decide +kernel
  obtain ⟨-, -, -, hdelivered, -, hsteps⟩ := hreached 7
  obtain ⟨hanswers, -⟩ := hreached 8
  rw [hfive] at hanswers
  exact ⟨hparse, hfour, hsteps, hdelivered, hall 5 hanswers⟩

end TapeMachine.Machine
