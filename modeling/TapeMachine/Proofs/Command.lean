import Mathlib
import TapeMachine.Command.Run
import TapeMachine.Proofs.Console

/-!
# What a command does

A command whose source is rejected reports so, whatever its streams are; otherwise it reports on a run of the program
(`Command.exists_run_eq`).  On streams that work the report follows from the steps of the program on a pipe alone:
standard output holds what they write, up to the end of the program or as far as the step limit allows, and the exit
status tells which of the two came first (`Command.run_on_working_streams`).  Nothing is asked of the way in which the
lines of the log are chosen and printed.
-/

namespace TapeMachine

/-- How many instructions a run may dispatch. -/
def Settings.allowance (settings : Settings) : ℕ∞ := settings.stepLimit.elim ⊤ fun n => (n : ℕ∞)

namespace Machine

variable {c : Console} {pipe : Pipe}

/-- A machine does the same on a console that works and on a pipe with the same bytes to read. -/
theorem together_pipe (m : Machine) (n : ℕ)
    (h : c.Carries (fun stdin unread => stdin = .ok unread) pipe) :
    Together (Console.Carries fun stdin unread => stdin = .ok unread) m c pipe n := by
  refine together_of_forall (Q := fun _ _ => False) ?_ h (fun _ _ _ => not_false)
  intro m c pipe h _
  exact h.coincide fun _ => Console.read_of_carries

theorem allowed_start (p : Program) {settings : Settings} (h : settings.Within) :
    (start p).allowed settings.stepLimit = settings.allowance := by
  unfold allowed Settings.allowance
  cases hlimit : settings.stepLimit with
  | none => rfl
  | some n =>
    have hmax : n ≤ Counter.max := h.stepLimit_le n hlimit
    have hgranted : (start p).granted n = n := by
      change min (0 + n) Counter.max - 0 = n
      omega
    rw [Option.elim_some, Option.elim_some, hgranted]

end Machine

namespace Command

variable {arguments : Arguments} {format : List Log.Line → String}

/-! ### Reports -/

theorem report_error (failure : Failure) (c : Console) :
    report format (.error failure) c =
      ⟨1, c.stdout, format c.log.toList ++ ("error: " ++ failure.message ++ "\n")⟩ := rfl

theorem exists_report_ok (format : List Log.Line → String) (halt : Halt) (c : Console) :
    ∃ log, report format (.ok halt) c = ⟨if halt = .finished then 0 else 2, c.stdout, format log⟩ := by
  cases halt with
  | finished => exact ⟨c.log.toList, by simp [report, verdict]⟩
  | stepLimit => exact ⟨_, by simp [report, verdict, Console.note_eq]; rfl⟩
  | cancelled => exact ⟨_, by simp [report, verdict, Console.note_eq]; rfl⟩

/-- A report shows what has gone out and the log, and nothing else of the console. -/
theorem report_congr {c c' : Console} (result : Except Failure Halt) (hstdout : c.stdout = c'.stdout)
    (hshows : c.shows = c'.shows) (hlog : c.log = c'.log) : report format result c = report format result c' := by
  rcases result with failure | (_ | _ | _)
  all_goals simp [report, verdict, Console.note_eq, hstdout, hshows, hlog]

/-! ### After the run -/

/-- The console once the end of a run is noted down. -/
def ended (ran : Except RunError Outcome) (m : Machine) (c : Console) : Console :=
  match ran with
  | .ok outcome => c.note (.halted outcome m.tape)
  | .error _ => c

theorem exists_ended_eq (ran : Except RunError Outcome) (m : Machine) (c : Console) :
    ∃ log, ended ran m c = { c with log } := by
  cases ran with
  | error error => exact ⟨c.log, rfl⟩
  | ok outcome => exact ⟨_, Console.note_eq _ c⟩

theorem conclude_of_flush_error {ran : Except RunError Outcome} {m : Machine} {c c' : Console} {cause : IoError}
    (h : (ended ran m c).flush = (.error cause, c')) : conclude ran m c = (.error (.run (.io cause)), c') := by
  cases ran with
  | error error =>
    dsimp only [conclude]
    rw [show c.flush = _ from h]
  | ok outcome =>
    dsimp only [conclude]
    rw [show (c.note _).flush = _ from h]

theorem conclude_of_flush_ok {ran : Except RunError Outcome} {m : Machine} {c c' : Console}
    (h : (ended ran m c).flush = (.ok (), c')) :
    conclude ran m c = match ran with
      | .error error => (.error (.run error), c')
      | .ok outcome => (.ok outcome.halt, c'.note (.done outcome m.tape)) := by
  cases ran with
  | error error =>
    dsimp only [conclude]
    rw [show c.flush = _ from h]
  | ok outcome =>
    dsimp only [conclude]
    rw [show (c.note _).flush = _ from h]

/-- What is reported of a run, if it has ended. -/
def reported (format : List Log.Line → String) :
    Option (Except RunError Outcome) × Machine × Console → Option Report
  | (none, _, _) => none
  | (some ran, m, c) => some (report format (conclude ran m c).1 (conclude ran m c).2)

/-- All that was printed goes out at the end. -/
theorem exists_reported_ok (format : List Log.Line → String) {outcome : Outcome} {m : Machine} {c : Console}
    (h : c.refusal = none) :
    ∃ log, reported format (some (.ok outcome), m, c) =
      some ⟨if outcome.halt = .finished then 0 else 2, c.printed, format log⟩ := by
  obtain ⟨log, hended⟩ := exists_ended_eq (.ok outcome) m c
  have hflush : (ended (.ok outcome) m c).flush = (.ok (), { c with log, kept := #[], stdout := c.printed }) := by
    rw [hended, Console.flush_of_takes (by exact h)]
    rfl
  obtain ⟨lines, hreport⟩ := exists_report_ok format outcome.halt
    (Console.note (.done outcome m.tape) { c with log, kept := #[], stdout := c.printed })
  refine ⟨lines, ?_⟩
  rw [reported, conclude_of_flush_ok hflush]
  dsimp only
  rw [hreport, Console.note_eq]

/-! ### Before the run -/

/-- The program in the file that the arguments name, if there is one. -/
def Arguments.program (arguments : Arguments) (source : Except IoError ByteArray) : Except Failure Program :=
  match Source.load arguments.file arguments.settings.sourceLimit source with
  | .error error => .error (.load error)
  | .ok text =>
    match Program.parse text with
    | .error error => .error (.source error)
    | .ok p => .ok p

theorem Arguments.balanced_of_program {source : Except IoError ByteArray} {p : Program}
    (h : arguments.program source = .ok p) : Balanced p.instructions.toList := by
  unfold Arguments.program at h
  split at h
  · cases h
  · split at h
    · cases h
    · rename_i hparse
      cases h
      obtain ⟨-, -, -, hp⟩ := Program.parse_eq_ok_iff.1 hparse
      exact hp

/-- Nothing but the log is touched before the run, whatever the streams are. -/
theorem exists_prepare_eq (arguments : Arguments) (source : Except IoError ByteArray) (c : Console) :
    ∃ log, ∀ stdin refusal, prepare arguments (arguments.sample source) { c with stdin, refusal } =
      ((arguments.program source).map Machine.start, { c with stdin, refusal, log }) := by
  unfold prepare Arguments.program Source.load Arguments.sample
  simp only [Console.note_eq]
  cases Source.accept arguments.file arguments.settings.sourceLimit
      (source.map (Source.sample arguments.settings.sourceLimit)) with
  | error error => exact ⟨_, fun _ _ => rfl⟩
  | ok bytes =>
    dsimp only
    cases Source.decode arguments.file bytes with
    | error error => exact ⟨_, fun _ _ => rfl⟩
    | ok text =>
      dsimp only
      cases Program.parse text with
      | error error => exact ⟨_, fun _ _ => rfl⟩
      | ok p => exact ⟨_, fun _ _ => rfl⟩

/-- A command reports why there is no program to run, or it runs the program and reports on that. -/
theorem exists_run_eq (arguments : Arguments) (source : Except IoError ByteArray) (shows : Log.Line → Bool)
    (format : List Log.Line → String) : ∃ log, ∀ fuel stdin refusal,
      run fuel { source, stdin, refusal, shows, format } arguments =
        match arguments.program source with
        | .error failure => some (report format (.error failure) { stdin, refusal, shows, log })
        | .ok p => reported format ((Machine.start p).runFor fuel { steps := arguments.settings.stepLimit }
            ({ stdin, refusal, shows, log } : Console)) := by
  obtain ⟨log, hprepare⟩ := exists_prepare_eq arguments source { shows }
  refine ⟨log, ?_⟩
  intro fuel stdin refusal
  have hprepared : prepare arguments (arguments.sample source) { stdin, refusal, shows } =
      ((arguments.program source).map Machine.start, { stdin, refusal, shows, log }) := hprepare stdin refusal
  unfold run
  dsimp only
  rw [hprepared]
  cases arguments.program source with
  | error failure => rfl
  | ok p =>
    dsimp only [Except.map, Settings.limits]
    generalize (Machine.start p).runFor fuel { steps := arguments.settings.stepLimit }
      ({ stdin, refusal, shows, log } : Console) = ran
    obtain ⟨_ | ran, m, c⟩ := ran <;> rfl

/-! ### Working streams -/

/-- A run on a console that works prints what it writes on a pipe with the same bytes to read. -/
theorem exists_reported_of_carries (format : List Log.Line → String) {m : Machine} {p : Program} (hm : m.Executes p)
    (hp : Balanced p.instructions.toList) {c : Console} {pipe : Pipe}
    (hcarries : c.Carries (fun stdin unread => stdin = .ok unread) pipe) (limit : Option ℕ) :
    ∃ log, ∀ fuel : ℕ, reported format (m.runFor fuel { steps := limit } c) =
      if min (m.allowed limit) (m.remaining pipe) ≤ fuel then
        some ⟨if m.remaining pipe ≤ m.allowed limit then 0 else 2,
          (m.after pipe (min (m.allowed limit) (m.remaining pipe)).toNat).2.written, format log⟩
      else none := by
  have hsame := fun n => m.together_pipe n hcarries
  have hfailures (n : ℕ) : m.failures c n = [] := by
    rw [(hsame n).failures_eq]
    exact hm.failures_of_neverFails hp (Pipe.neverFails pipe) n
  have hremaining : m.remaining c = m.remaining pipe := Machine.remaining_congr fun n => (hsame n).machine_eq
  -- the report is that of the console after the last step, which the fuel has no part in
  obtain ⟨count, hcount⟩ : ∃ count, (min (m.allowed limit) (m.remaining pipe)).toNat = count := ⟨_, rfl⟩
  obtain ⟨htakes, hprinted, -⟩ := (hsame count).related
  let outcome : Outcome :=
    ⟨if m.remaining pipe ≤ m.allowed limit then .finished else .stepLimit, Counter.wrap (m.steps + count)⟩
  obtain ⟨log, hreported⟩ : ∃ log, reported format (some (.ok outcome), m.after c count) =
      some ⟨if outcome.halt = .finished then 0 else 2, (m.after c count).2.printed, format log⟩ :=
    exists_reported_ok format htakes
  refine ⟨log, ?_⟩
  intro fuel
  rw [Machine.runFor_eq_ite (fun n _ => hfailures n) fuel, hremaining, hcount]
  by_cases hends : min (m.allowed limit) (m.remaining pipe) ≤ fuel
  · rw [if_pos hends, if_pos hends]
    refine hreported.trans ?_
    rw [hprinted]
    by_cases hwhich : m.remaining pipe ≤ m.allowed limit
    · simp [outcome, hwhich]
    · simp [outcome, hwhich]
  · rw [if_neg hends, if_neg hends]
    rfl

/-- On streams that work, a command whose source is rejected says why and touches neither of them.  Otherwise standard
output holds what the program writes in as many steps as the limit allows, or as there are to its end if these are
fewer; the exit status is zero if the limit allows them all, and two if it does not.  Standard error holds the log, and
behind it the failure if there is one. -/
theorem run_on_working_streams (hsettings : arguments.settings.Within) (source : Except IoError ByteArray)
    (shows : Log.Line → Bool) (format : List Log.Line → String) :
    (∀ failure, arguments.program source = .error failure →
      (∀ c, (prepare arguments (arguments.sample source) c).2.stdin = c.stdin) ∧
      ∃ log, ∀ fuel stdin refusal, run fuel { source, stdin, refusal, shows, format } arguments =
        some ⟨1, #[], format log ++ ("error: " ++ failure.message ++ "\n")⟩) ∧
    ∀ p, arguments.program source = .ok p → ∀ stdin : List UInt8,
      let pipe : Pipe := { unread := stdin }
      let limit := arguments.settings.allowance
      let total := (Machine.start p).remaining pipe
      ∃ log, ∀ fuel : ℕ, run fuel { source, stdin := .ok stdin, shows, format } arguments =
        if min limit total ≤ fuel then
          some ⟨if total ≤ limit then 0 else 2,
            ((Machine.start p).after pipe (min limit total).toNat).2.written, format log⟩
        else none := by
  obtain ⟨log, hrun⟩ := exists_run_eq arguments source shows format
  constructor
  · intro failure hfailure
    rw [hfailure] at hrun
    refine ⟨?_, log.toList, ?_⟩
    · intro c
      obtain ⟨_, hprepare⟩ := exists_prepare_eq arguments source c
      rw [show prepare arguments _ _ = _ from hprepare c.stdin c.refusal]
    · intro fuel stdin refusal
      rw [hrun]
      exact congrArg some (report_error _ _)
  · intro p hprogram stdin pipe limit total
    rw [hprogram] at hrun
    have hp := Arguments.balanced_of_program hprogram
    have hlimit : (Machine.start p).allowed arguments.settings.stepLimit = limit := Machine.allowed_start p hsettings
    have hcarries : Console.Carries (fun stdin unread => stdin = .ok unread) { stdin := .ok stdin, shows, log } pipe :=
      ⟨rfl, rfl, rfl⟩
    obtain ⟨lines, hreported⟩ :=
      exists_reported_of_carries format (Machine.executes_start p) hp hcarries arguments.settings.stepLimit
    rw [hlimit] at hreported
    refine ⟨lines, ?_⟩
    intro fuel
    rw [hrun]
    exact hreported fuel

/-- A program of two instructions, with two of them allowed and with one; and sources that are rejected, an open loop, a
file that is missing and one that is too large. -/
theorem run_on_working_streams_last_step :
    let asked (limit : ℕ) : Arguments := ⟨"/tmp/e", { sourceLimit := 3, stepLimit := some limit }, 0, false⟩
    let around (source : Except IoError ByteArray) : Surroundings :=
      { source, stdin := .ok [7], shows := fun _ => false, format := fun _ => "" }
    (∀ limit ≤ 2, (asked limit).settings.Within) ∧
      run 2 (around (.ok ",.".toUTF8)) (asked 2) = some ⟨0, #[7], ""⟩ ∧
      run 2 (around (.ok ",.".toUTF8)) (asked 1) = some ⟨2, #[], ""⟩ ∧
      run 0 (around (.ok ",.[".toUTF8)) (asked 1) = some ⟨1, #[], "error: 1 unmatched loop-open(s) in program\n"⟩ ∧
      run 0 (around (.error .notFound)) (asked 1) =
        some ⟨1, #[], "error: cannot read /tmp/e: No such file or directory (os error 2)\n"⟩ ∧
      run 0 (around (.ok ",.,.".toUTF8)) (asked 1) =
        some ⟨1, #[], "error: /tmp/e exceeds the source size limit of 3 bytes\n"⟩ := by
  intro asked around
  let p : Program := ⟨#[.input, .output]⟩
  let pipe : Pipe := { unread := [7] }
  have hsettings : ∀ limit ≤ 2, (asked limit).settings.Within := by
    intro limit hlimit
    refine ⟨(by decide : 3 < Counter.max), ?_⟩
    rintro _ ⟨⟩
    exact hlimit.trans (by decide)
  have hworks (limit : ℕ) (hlimit : limit ≤ 2) (source : Except IoError ByteArray) :=
    run_on_working_streams (hsettings limit hlimit) source (fun _ => false) (fun _ => "")
  have hprogram (limit : ℕ) : (asked limit).program (.ok ",.".toUTF8) = .ok p := by
    unfold asked p
    cbv
  have htotal : (Machine.start p).remaining pipe = 2 := by
    refine le_antisymm (Machine.remaining_le_iff (n := 2).2 (by decide +kernel)) (Machine.goesOn_iff (n := 2).1 ?_)
    unfold Machine.GoesOn
    decide +kernel
  refine ⟨hsettings, ?_, ?_, ?_, ?_, ?_⟩
  · obtain ⟨-, hends⟩ := hworks 2 le_rfl (.ok ",.".toUTF8)
    obtain ⟨log, hreport⟩ := hends p (hprogram 2) [7]
    have hlimit : (asked 2).settings.allowance = (2 : ℕ) := rfl
    have hcount : min ((2 : ℕ) : ℕ∞) 2 = (2 : ℕ) := by decide
    refine (hreport 2).trans ?_
    rw [htotal, hlimit, hcount, if_pos le_rfl, if_pos (by decide)]
    rfl
  · obtain ⟨-, hcut⟩ := hworks 1 (by decide) (.ok ",.".toUTF8)
    obtain ⟨log, hreport⟩ := hcut p (hprogram 1) [7]
    have hlimit : (asked 1).settings.allowance = (1 : ℕ) := rfl
    have hcount : min ((1 : ℕ) : ℕ∞) 2 = (1 : ℕ) := by decide
    refine (hreport 2).trans ?_
    rw [htotal, hlimit, hcount, if_pos (by decide), if_neg (by decide)]
    rfl
  · obtain ⟨hopen, -⟩ := hworks 1 (by decide) (.ok ",.[".toUTF8)
    obtain ⟨-, log, hreport⟩ := hopen (.source (.unmatchedOpen 1)) (by unfold asked; cbv)
    exact (hreport 0 (.ok [7]) none).trans (by decide)
  · obtain ⟨hmissing, -⟩ := hworks 1 (by decide) (.error .notFound)
    obtain ⟨-, log, hreport⟩ := hmissing (.load (.unreadable "/tmp/e" .notFound)) rfl
    exact (hreport 0 (.ok [7]) none).trans (by decide)
  · obtain ⟨hlarge, -⟩ := hworks 1 (by decide) (.ok ",.,.".toUTF8)
    obtain ⟨-, log, hreport⟩ := hlarge (.load (.tooLarge "/tmp/e" 3)) (by unfold asked; cbv)
    exact (hreport 0 (.ok [7]) none).trans (by decide)

end Command

end TapeMachine
