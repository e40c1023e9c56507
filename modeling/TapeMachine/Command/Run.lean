import TapeMachine.Failure
import TapeMachine.Settings
import TapeMachine.Stream.Console

/-!
# Running a source file

A command loads the source file that its arguments name, reads the program, runs it on the console and reports how
that went: by its exit status, zero for a program that has finished, one for a failure, and two for a run that was
stopped; and on standard error, by the log and a last line for a failure.

The work is done in three parts, so that a caller may see to the streams in between: `prepare` comes before the run,
`conclude` and `report` after it.  `run` does all of it on a console whose streams are known in advance.  Where the
arguments come from, which lines are logged and how the log is printed is for others to say.
-/

namespace TapeMachine.Command

/-- What a command is asked to do. -/
structure Arguments where
  file : String
  settings : Settings
  /-- How many times more is asked of the log. -/
  verbosity : Nat
  quiet : Bool
deriving DecidableEq, Repr

/-- What a command finds around it. -/
structure Surroundings where
  /-- What there is at the path of the source file: the contents of a file, or why nothing can be read. -/
  source : Except IoError ByteArray
  stdin : Except Console.Fault (List UInt8) := .ok []
  /-- Why standard output takes nothing, if it does not. -/
  refusal : Option Console.Fault := none
  /-- Which lines are logged. -/
  shows : Log.Line → Bool
  /-- The log as it is printed. -/
  format : List Log.Line → String

/-- What a command leaves behind. -/
structure Report where
  status : Nat
  stdout : Array UInt8
  stderr : String
deriving DecidableEq, Repr

/-- What is read of the file that the arguments name. -/
def Arguments.sample (arguments : Arguments) (source : Except IoError ByteArray) : Except IoError ByteArray :=
  source.map (Source.sample arguments.settings.sourceLimit)

/-- Makes a machine ready for the program in a file, whose first bytes have been read if it can be read. -/
def prepare (arguments : Arguments) (found : Except IoError ByteArray) (c : Console) :
    Except Failure Machine × Console :=
  match Source.accept arguments.file arguments.settings.sourceLimit found with
  | .error error => (.error (.load error), c)
  | .ok bytes =>
    let c := c.note (.loaded arguments.file bytes.size)
    match Source.decode arguments.file bytes with
    | .error error => (.error (.load error), c)
    | .ok text =>
      match Program.parse text with
      | .error error => (.error (.source error), c.note (.rejected error))
      | .ok program =>
        (.ok (Machine.start program), (c.note (.accepted program)).note (.running arguments.file program))

/-- Sees to the output after a run.  Whatever was printed still goes out if the run failed, and a failure to do so is
the one that counts. -/
def conclude (ran : Except RunError Outcome) (m : Machine) (c : Console) : Except Failure Halt × Console :=
  let c :=
    match ran with
    | .ok outcome => c.note (.halted outcome m.tape)
    | .error _ => c
  match c.flush, ran with
  | (.error cause, c), _ => (.error (.run (.io cause)), c)
  | (.ok (), c), .error error => (.error (.run error), c)
  | (.ok (), c), .ok outcome => (.ok outcome.halt, c.note (.done outcome m.tape))

/-- The exit status of a command, and what it prints behind the log. -/
def verdict (result : Except Failure Halt) (c : Console) : Nat × Console × String :=
  match result with
  | .ok .finished => (0, c, "")
  | .ok halt => (2, c.note (.unfinished halt), "")
  | .error failure => (1, c, "error: " ++ failure.message ++ "\n")

def report (format : List Log.Line → String) (result : Except Failure Halt) (c : Console) : Report :=
  match verdict result c with
  | (status, c, last) => ⟨status, c.stdout, format c.log.toList ++ last⟩

/-- What a command does, unless its run goes on for more than `fuel` instructions. -/
def run (fuel : Nat) (around : Surroundings) (arguments : Arguments) : Option Report :=
  let c : Console := { stdin := around.stdin, refusal := around.refusal, shows := around.shows }
  match prepare arguments (arguments.sample around.source) c with
  | (.error failure, c) => some (report around.format (.error failure) c)
  | (.ok m, c) =>
    match m.runFor fuel arguments.settings.limits c with
    | (none, _, _) => none
    | (some ran, m, c) =>
      match conclude ran m c with
      | (result, c) => some (report around.format result c)

end TapeMachine.Command
