import TapeMachine.Proofs.Command

/-!
# A command on streams that fail

Whether a stream that fails makes a difference depends on whether the run comes to an instruction that needs it
(`Machine.FirstDispatch`).  If every read fails, the first input ends the run, and what was printed before goes out;
without an input nothing is different.  If the output device takes nothing, the first output fills the console for
good, so that the last flush fails whatever has become of the run, and its failure is the one that is reported; without
an output nothing is different (`Command.run_on_failing_streams`).
-/

namespace TapeMachine

open Console (Carries SameOutput SameStreams Unprinted Blocked Stuck Backs)
open Machine (Coincide)

namespace Machine

/-! ### The first instruction of a kind -/

/-- Within a bound and before anything fails, an instruction of a kind is dispatched, the first of them after `k`
others. -/
structure FirstDispatch {σ : Type} [Host σ] (m : Machine) (s : σ) (bound : ℕ∞) (i : Instruction) (k : ℕ) : Prop where
  lt_bound : (k : ℕ∞) < bound
  failures_eq : m.failures s k = []
  next?_eq : (m.after s k).1.next? = some i
  next?_ne : ∀ j < k, (m.after s j).1.next? ≠ some i

section FirstDispatch

variable {σ τ : Type} [Host σ] [Host τ] {m : Machine} {s : σ} {t : τ} {bound : ℕ∞} {i : Instruction} {k : ℕ}

theorem FirstDispatch.lt_remaining (h : m.FirstDispatch s bound i k) : (k : ℕ∞) < m.remaining s :=
  lt_remaining_iff.2 (not_isFinished_of_next? h.next?_eq)

theorem firstDispatch_congr {R : σ → τ → Prop} (hsame : ∀ n, Together R m s t n) :
    m.FirstDispatch s bound i k ↔ m.FirstDispatch t bound i k := by
  constructor
  · rintro ⟨hlt, hfailures, hnext, hne⟩
    exact ⟨hlt, (hsame k).failures_eq ▸ hfailures, (hsame k).machine_eq ▸ hnext,
      fun j hj => (hsame j).machine_eq ▸ hne j hj⟩
  · rintro ⟨hlt, hfailures, hnext, hne⟩
    exact ⟨hlt, (hsame k).failures_eq.symm ▸ hfailures, (hsame k).machine_eq.symm ▸ hnext,
      fun j hj => (hsame j).machine_eq.symm ▸ hne j hj⟩

theorem next?_ne_of_forall_not (h : ∀ k, ¬ m.FirstDispatch s bound i k) (hk : (k : ℕ∞) < bound)
    (hfailures : m.failures s k = []) : (m.after s k).1.next? ≠ some i := by
  induction k using Nat.strong_induction_on with
  | h k ih =>
    -- otherwise it would be the first, since by induction there is none before it
    intro hnext
    refine h k ⟨hk, hfailures, hnext, ?_⟩
    intro j hj
    have hlt : (j : ℕ∞) < k := by exact_mod_cast hj
    exact ih j hj (hlt.trans hk) (failures_of_le hfailures hj.le)

end FirstDispatch

variable {m : Machine} {c c' : Console} {pipe : Pipe} {fault : Console.Fault} {limit : Option ℕ} {k : ℕ}

theorem together_sameStreams (m : Machine) (n : ℕ) (h : SameStreams c c') : Together SameStreams m c c' n :=
  together_of_forall (Q := fun _ _ => False) (fun h _ => h.coincide) h (fun _ _ _ => not_false)

/-! ### Standard input fails -/

/-- Up to the first input a machine does the same as on a pipe. -/
theorem together_pipe_until_input (h : Carries (fun stdin _ => stdin = .error fault) c pipe)
    (hbefore : ∀ j < k, (m.after pipe j).1.next? ≠ some .input) :
    Together (Carries fun stdin _ => stdin = .error fault) m c pipe k := by
  refine together_of_forall (Q := fun m _ => m.next? = some .input) ?_ h ?_
  · intro m c pipe h hi
    exact h.coincide fun hi' => absurd hi' hi
  · intro j hj hsame hnext
    rw [hsame.machine_eq] at hnext
    exact hbefore j hj hnext

/-- The first input fails, and what was printed before is ready to go out. -/
theorem step_of_first_input {bound : ℕ∞} (h : Carries (fun stdin _ => stdin = .error fault) c pipe)
    (hfirst : m.FirstDispatch pipe bound .input k) :
    ((m.after c k).1.step (m.after c k).2).1 = .error (.io fault.cause) ∧
      (m.after c (k + 1)).2.refusal = none ∧ (m.after c (k + 1)).2.printed = (m.after pipe k).2.written := by
  have hsame := together_pipe_until_input h hfirst.next?_ne
  obtain ⟨htakes, hprinted, hstdin⟩ := hsame.related
  have hi : (m.after c k).1.next? = some .input := hsame.machine_eq ▸ hfirst.next?_eq
  have hstep := step_of_read_error (s := (m.after c k).2) hi (Console.flush_of_takes htakes)
    (Console.read_of_error hstdin)
  rw [after_succ_eq_step, hstep]
  refine ⟨rfl, htakes, ?_⟩
  rw [← hprinted]
  exact Array.append_empty

/-! ### The device takes nothing -/

/-- An output within the limit leaves something stuck at the end of the run. -/
theorem stuck_runFor (h : Blocked fault c) (hfirst : m.FirstDispatch c (m.allowed limit) .output k) {fuel : ℕ}
    (hfuel : k < fuel) : Stuck fault (m.runFor fuel { steps := limit } c).2.2 := by
  have hblocked : Blocked fault (m.after c k).2 :=
    keeps_after (P := fun _ c => Blocked fault c) (fun _ _ h => h.step) k h
  have hstuck : Stuck fault (m.after c (k + 1)).2 := by
    rw [after_succ_eq_step]
    exact hblocked.step_output hfirst.next?_eq
  exact keeps_runFor (P := fun _ c => Stuck fault c) hfirst.lt_bound hfirst.lt_remaining hfirst.failures_eq
    (fun _ _ h => h.step) hstuck hfuel

/-- A run that ends where the device takes everything also ends where it takes nothing. -/
theorem isSome_runFor_of_backs (h : Backs fault c c') {fuel : ℕ}
    (hends : (m.runFor fuel { steps := limit } c').1.isSome = true) :
    (m.runFor fuel { steps := limit } c).1.isSome = true := by
  -- either the run meets a step that fails for want of the device, and ends there, or nothing tells the devices apart
  let Q : Machine → Console → Prop := fun m c => (m.step c).1 = .error (.io fault.cause)
  by_cases hmeets : ∃ k < fuel, (k : ℕ∞) < m.allowed limit ∧ m.failures c k = [] ∧ Q (m.after c k).1 (m.after c k).2
  · obtain ⟨k, hfuel, hallowed, hfailures, herror⟩ := hmeets
    have herror : ((m.after c k).1.step (m.after c k).2).1 = .error (.io fault.cause) := herror
    have hremaining : (k : ℕ∞) < m.remaining c := by
      rw [lt_remaining_iff]
      intro hend
      rw [step_of_isFinished hend] at herror
      cases herror
    rw [runFor_of_error hallowed hremaining hfailures herror hfuel]
    rfl
  · have hsame : Coincide (Backs fault) (m.runFor fuel { steps := limit } c) (m.runFor fuel { steps := limit } c') := by
      refine coincide_runFor (Q := Q) (fun h hok => h.coincide hok) (.of_steps limit) h ?_
      intro k hfuel hallowed hfailures _ herror
      exact hmeets ⟨k, hfuel, hallowed, hfailures, herror⟩
    rw [hsame.answer_eq]
    exact hends

end Machine

namespace Command

variable {m : Machine} {c c' : Console} {fault : Console.Fault} {format : List Log.Line → String}

/-! ### Reports -/

/-- A stream that failed is told of behind the log. -/
theorem report_io_error (cause : IoError) (c : Console) :
    report format (.error (.run (.io cause))) c =
      ⟨1, c.stdout, format c.log.toList ++ ("error: i/o error: " ++ cause.message ++ "\n")⟩ := by
  rw [report_error]
  have hmessage : "error: " ++ (Failure.run (.io cause)).message = "error: i/o error: " ++ cause.message :=
    String.append_assoc.symm
  rw [hmessage]

/-- Of a run that fails on a stream all that was printed goes out, and the failure is told last. -/
theorem exists_reported_error (format : List Log.Line → String) (cause : IoError) (h : c.refusal = none) :
    ∃ log, reported format (some (.error (.io cause)), m, c) =
      some ⟨1, c.printed, format log ++ ("error: i/o error: " ++ cause.message ++ "\n")⟩ := by
  have hflush : (ended (.error (.io cause)) m c).flush = _ := Console.flush_of_takes h
  refine ⟨c.log.toList, ?_⟩
  rw [reported, conclude_of_flush_ok hflush]
  exact congrArg some (report_io_error _ _)

/-- If something is stuck, this is what is told, whatever has become of the run. -/
theorem exists_reported_of_stuck (format : List Log.Line → String) (ran : Except RunError Outcome)
    (h : Stuck fault c) : ∃ log, reported format (some ran, m, c) =
      some ⟨1, #[], format log ++ ("error: i/o error: " ++ fault.cause.message ++ "\n")⟩ := by
  obtain ⟨log, hended⟩ := exists_ended_eq ran m c
  have hflush : (ended ran m c).flush = (.error fault.cause, { c with log }) := by
    rw [hended]
    exact Console.flush_of_refuses h.refuses h.kept_ne
  refine ⟨log.toList, ?_⟩
  rw [reported, conclude_of_flush_error hflush]
  dsimp only
  rw [report_io_error, h.stdout_eq]

/-- What notes and flushes keep from showing does not show in a report. -/
theorem reported_congr {R : Console → Console → Prop} (hnote : ∀ {c c'} line, R c c' → R (c.note line) (c'.note line))
    (hflush : ∀ {c c'}, R c c' → Host.AnswerAlike R c.flush c'.flush)
    (hreport : ∀ {c c'} result, R c c' → report format result c = report format result c')
    (ran : Option (Except RunError Outcome)) (h : R c c') :
    reported format (ran, m, c) = reported format (ran, m, c') := by
  cases ran with
  | none => rfl
  | some ran =>
    have hended : R (ended ran m c) (ended ran m c') := by
      cases ran with
      | error error => exact h
      | ok outcome => exact hnote _ h
    obtain ⟨answer, d, d', hc, hc', hR⟩ := (hflush hended).exists_eq
    cases answer with
    | error cause =>
      rw [reported, reported, conclude_of_flush_error hc, conclude_of_flush_error hc']
      exact congrArg some (hreport _ hR)
    | ok =>
      rw [reported, reported, conclude_of_flush_ok hc, conclude_of_flush_ok hc']
      cases ran with
      | error error => exact congrArg some (hreport _ hR)
      | ok outcome => exact congrArg some (hreport _ (hnote _ hR))

theorem reported_of_sameOutput {stdin : Except Console.Fault (List UInt8)} (ran : Option (Except RunError Outcome))
    (h : SameOutput stdin c c') : reported format (ran, m, c) = reported format (ran, m, c') := by
  refine reported_congr (fun _ h => h.note _) (fun h => h.flush) ?_ ran h
  rintro c _ result rfl
  exact report_congr result rfl rfl rfl

theorem reported_of_unprinted {refusal : Option Console.Fault} (ran : Option (Except RunError Outcome))
    (h : Unprinted refusal c c') : reported format (ran, m, c) = reported format (ran, m, c') := by
  refine reported_congr (fun _ h => h.note _) (fun h => h.flush) ?_ ran h
  rintro c _ result ⟨-, rfl⟩
  exact report_congr result rfl rfl rfl

/-! ### Runs -/

section Runs

variable {limit : Option ℕ} {i : Instruction} {k : ℕ}

/-- The first input ends a run whose reads fail, and what was printed before goes out. -/
theorem exists_reported_of_first_input (format : List Log.Line → String) {pipe : Pipe}
    (h : Carries (fun stdin _ => stdin = .error fault) c pipe)
    (hfirst : m.FirstDispatch pipe (m.allowed limit) .input k) :
    ∃ log, ∀ fuel, reported format (m.runFor fuel { steps := limit } c) =
      if k < fuel then
        some ⟨1, (m.after pipe k).2.written, format log ++ ("error: i/o error: " ++ fault.cause.message ++ "\n")⟩
      else none := by
  have hsame := Machine.together_pipe_until_input h hfirst.next?_ne
  have hremaining : (k : ℕ∞) < m.remaining c := by
    rw [Machine.lt_remaining_iff, hsame.machine_eq]
    exact Machine.not_isFinished_of_next? hfirst.next?_eq
  have hfailures : m.failures c k = [] := hsame.failures_eq.trans hfirst.failures_eq
  obtain ⟨herror, htakes, hprinted⟩ := Machine.step_of_first_input h hfirst
  obtain ⟨log, hreported⟩ := exists_reported_error (m := (m.after c (k + 1)).1) format fault.cause htakes
  refine ⟨log, ?_⟩
  intro fuel
  by_cases hfuel : k < fuel
  · rw [if_pos hfuel, Machine.runFor_of_error hfirst.lt_bound hremaining hfailures herror hfuel]
    refine hreported.trans ?_
    rw [hprinted]
  · rw [if_neg hfuel, Machine.runFor_of_le hfirst.lt_bound hremaining hfailures (by omega)]
    rfl

/-- What makes no difference to the steps before an instruction of a kind and does not show in a report makes no
difference to a run that dispatches no such instruction. -/
theorem reported_runFor_congr (format : List Log.Line → String) {R : Console → Console → Prop}
    (hstep : ∀ {m : Machine} {c c' : Console}, R c c' → m.next? ≠ some i → Coincide R (m.step c) (m.step c'))
    (hreported : ∀ {m : Machine} {c c' : Console} ran, R c c' →
      reported format (ran, m, c) = reported format (ran, m, c'))
    (h : R c c') (hnone : ∀ k, ¬ m.FirstDispatch c (m.allowed limit) i k) (fuel : ℕ) :
    reported format (m.runFor fuel { steps := limit } c) = reported format (m.runFor fuel { steps := limit } c') := by
  have hsame : Coincide R (m.runFor fuel { steps := limit } c) (m.runFor fuel { steps := limit } c') := by
    refine Machine.coincide_runFor (Q := fun m _ => m.next? = some i) hstep (.of_steps limit) h ?_
    intro k _ hallowed hfailures _
    exact Machine.next?_ne_of_forall_not hnone hallowed hfailures
  obtain ⟨ran, m', c₁, c₁', hc, hc', hR⟩ := hsame.exists_eq
  rw [hc, hc']
  exact hreported ran hR

/-- Once an output is dispatched, a run on a device that takes nothing is reported as a failure of the device. -/
theorem reported_of_first_output (h : Blocked fault c) (hfirst : m.FirstDispatch c (m.allowed limit) .output k)
    {fuel : ℕ} {r : Report} (hreported : reported format (m.runFor fuel { steps := limit } c) = some r) :
    ∃ log, r = ⟨1, #[], format log ++ ("error: i/o error: " ++ fault.cause.message ++ "\n")⟩ := by
  have hfuel : k < fuel := by
    by_contra hle
    rw [Machine.runFor_of_le hfirst.lt_bound hfirst.lt_remaining hfirst.failures_eq (by omega)] at hreported
    cases hreported
  have hstuck := Machine.stuck_runFor h hfirst hfuel
  generalize m.runFor fuel { steps := limit } c = ended at hreported hstuck
  obtain ⟨_ | ran, m', c'⟩ := ended
  · cases hreported
  · obtain ⟨log, heq⟩ := exists_reported_of_stuck (m := m') format ran hstuck
    rw [heq] at hreported
    cases hreported
    exact ⟨log, rfl⟩

theorem isSome_reported (ran : Option (Except RunError Outcome) × Machine × Console) :
    (reported format ran).isSome = ran.1.isSome := by
  obtain ⟨_ | ran, m, c⟩ := ran <;> rfl

end Runs

/-! ### Commands -/

/-- On streams that fail, a command whose source is accepted does as follows.  If every read of standard input fails,
the first input that is dispatched ends the run: what was printed before goes out, and the read's failure is told; if no
input is dispatched, the report is the one for an empty standard input.  If standard output takes nothing and an output
is dispatched, nothing goes out and the write's failure is told, however the run ends; if no output is dispatched, the
report is the one for a standard output that works.  A run that ends on the latter ends in either case. -/
theorem run_on_failing_streams {arguments : Arguments} (hsettings : arguments.settings.Within)
    {source : Except IoError ByteArray} {p : Program} (hprogram : arguments.program source = .ok p)
    (shows : Log.Line → Bool) (format : List Log.Line → String) (fault : Console.Fault) :
    let start := Machine.start p
    let limit := arguments.settings.allowance
    let report (stdin : Except Console.Fault (List UInt8)) (refusal : Option Console.Fault) (fuel : ℕ) :=
      run fuel { source, stdin, refusal, shows, format } arguments
    let last := "error: i/o error: " ++ fault.cause.message ++ "\n"
    ((∀ k, start.FirstDispatch ({} : Pipe) limit .input k → ∃ log, ∀ fuel, report (.error fault) none fuel =
        if k < fuel then some ⟨1, (start.after ({} : Pipe) k).2.written, format log ++ last⟩ else none) ∧
      ((∀ k, ¬ start.FirstDispatch ({} : Pipe) limit .input k) →
        ∀ fuel, report (.error fault) none fuel = report (.ok []) none fuel)) ∧
    ∀ stdin, let console : Console := { stdin, refusal := some fault }
      (∀ k, start.FirstDispatch console limit .output k → ∀ fuel r, report stdin (some fault) fuel = some r →
        ∃ log, r = ⟨1, #[], format log ++ last⟩) ∧
      ((∀ k, ¬ start.FirstDispatch console limit .output k) →
        ∀ fuel, report stdin (some fault) fuel = report stdin none fuel) ∧
      ∀ fuel, (report stdin none fuel).isSome = true → (report stdin (some fault) fuel).isSome = true := by
  intro start limit report last
  obtain ⟨log, hrun⟩ := exists_run_eq arguments source shows format
  rw [hprogram] at hrun
  dsimp only at hrun
  have hlimit : start.allowed arguments.settings.stepLimit = limit := Machine.allowed_start p hsettings
  refine ⟨⟨?_, ?_⟩, ?_⟩
  · intro k hfirst
    have hcarries : Carries (fun stdin _ => stdin = .error fault) { stdin := .error fault, shows, log } {} :=
      ⟨rfl, rfl, rfl⟩
    rw [← hlimit] at hfirst
    obtain ⟨lines, hreported⟩ := exists_reported_of_first_input format hcarries hfirst
    exact ⟨lines, fun fuel => (hrun fuel _ _).trans (hreported fuel)⟩
  · intro hnone fuel
    -- an empty standard input works, so the run there is one on the empty pipe
    have hcarries : Carries (fun stdin unread => stdin = .ok unread) { shows, log } {} := ⟨rfl, rfl, rfl⟩
    have hnone (k : ℕ) : ¬ start.FirstDispatch ({ shows, log } : Console)
        (start.allowed arguments.settings.stepLimit) .input k := by
      rw [hlimit, Machine.firstDispatch_congr fun n => start.together_pipe n hcarries]
      exact hnone k
    have hsame := reported_runFor_congr format (R := SameOutput (.error fault)) (fun h hi => h.coincide hi)
      reported_of_sameOutput rfl hnone fuel
    exact (hrun fuel _ _).trans (hsame.symm.trans (hrun fuel _ _).symm)
  · intro stdin console
    -- the command's own console has a log, which makes no difference to what is dispatched
    have hstreams : SameStreams console { stdin, refusal := some fault, shows, log } := ⟨shows, log, rfl⟩
    have hfirst (k : ℕ) : start.FirstDispatch console limit .output k ↔
        start.FirstDispatch ({ stdin, refusal := some fault, shows, log } : Console)
          (start.allowed arguments.settings.stepLimit) .output k := by
      rw [hlimit]
      exact Machine.firstDispatch_congr fun n => start.together_sameStreams n hstreams
    refine ⟨?_, ?_, ?_⟩
    · intro k hk fuel r hr
      have hblocked : Blocked fault { stdin, refusal := some fault, shows, log } := ⟨rfl, rfl⟩
      exact reported_of_first_output hblocked ((hfirst k).1 hk) ((hrun fuel _ _).symm.trans hr)
    · intro hnone fuel
      have hunprinted : Unprinted none { stdin, refusal := some fault, shows, log } { stdin, shows, log } :=
        ⟨rfl, rfl⟩
      have hsame := reported_runFor_congr format (fun h hi => h.coincide hi) reported_of_unprinted hunprinted
        (fun k hk => hnone k ((hfirst k).2 hk)) fuel
      exact (hrun fuel _ _).trans (hsame.trans (hrun fuel _ _).symm)
    · intro fuel hends
      have hbacks : Backs fault { stdin, refusal := some fault, shows, log } { stdin, shows, log } :=
        ⟨rfl, rfl, rfl, rfl⟩
      rw [show report stdin none fuel = _ from hrun fuel _ _, isSome_reported] at hends
      rw [show report stdin (some fault) fuel = _ from hrun fuel _ _, isSome_reported]
      exact Machine.isSome_runFor_of_backs hbacks hends

/-- A program that writes a byte and reads one, from a directory and to a full device. -/
theorem run_on_failing_streams_write_then_read :
    let asked : Arguments := ⟨"/tmp/e", {}, 0, false⟩
    let p : Program := ⟨#[.output, .input]⟩
    let directory : Console.Fault := ⟨.isDirectory, by decide, by decide⟩
    let full : Console.Fault := ⟨.deviceFull, by decide, by decide⟩
    let around : Surroundings := { source := .ok ".,".toUTF8, shows := fun _ => false, format := fun _ => "" }
    asked.settings.Within ∧ asked.program around.source = .ok p ∧
      (Machine.start p).FirstDispatch ({} : Pipe) ⊤ .input 1 ∧
      (Machine.start p).FirstDispatch ({ refusal := some full } : Console) ⊤ .output 0 ∧
      run 2 { around with stdin := .error directory } asked =
        some ⟨1, #[0], "error: i/o error: Is a directory (os error 21)\n"⟩ ∧
      run 2 { around with refusal := some full } asked =
        some ⟨1, #[], "error: i/o error: No space left on device (os error 28)\n"⟩ := by
  intro asked p directory full around
  have hsettings : asked.settings.Within := ⟨by decide, nofun⟩
  have hprogram : asked.program around.source = .ok p := by
    unfold asked around p
    cbv
  have hinput : (Machine.start p).FirstDispatch ({} : Pipe) ⊤ .input 1 :=
    ⟨by decide, by decide, by decide, by decide⟩
  have houtput : (Machine.start p).FirstDispatch ({ refusal := some full } : Console) ⊤ .output 0 :=
    ⟨by decide, by decide, by decide, by decide⟩
  have hfails := run_on_failing_streams hsettings hprogram around.shows around.format
  refine ⟨hsettings, hprogram, hinput, houtput, ?_, ?_⟩
  · obtain ⟨⟨hread, -⟩, -⟩ := hfails directory
    obtain ⟨log, hreport⟩ := hread 1 hinput
    exact hreport 2
  · obtain ⟨-, hwrite⟩ := hfails full
    obtain ⟨hblocked, -, hends⟩ := hwrite (.ok [])
    have hworks : (run 2 around asked).isSome = true := by
      obtain ⟨log, hrun⟩ := exists_run_eq asked around.source around.shows around.format
      rw [show run 2 around asked = _ from hrun 2 (.ok []) none, hprogram]
      rfl
    obtain ⟨r, hr⟩ := Option.isSome_iff_exists.1 (hends 2 hworks)
    obtain ⟨log, rfl⟩ := hblocked 0 houtput 2 r hr
    exact hr

end Command

end TapeMachine
