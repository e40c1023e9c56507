import TapeMachine.Command.Arguments
import TapeMachine.Log.Filter
import TapeMachine.Source.FileTree

/-!
# Commands from the command line

The outer layer of a command: it reads the command line, finds the source file in the file tree, and chooses the lines
of the log by the flags and the environment.  A command line that asks for no run is answered at once, with the help on
standard output and status zero, or with status two if it makes no sense.
-/

namespace TapeMachine.Command

/-- What a command line finds around it. -/
structure World where
  files : FileTree := {}
  stdin : Except Console.Fault (List UInt8) := .ok []
  /-- Why standard output takes nothing, if it does not. -/
  refusal : Option Console.Fault := none
  /-- The log filter that the environment sets. -/
  logFilter : Option String := none

/-- The log filter in force: that of the environment, if it is one, and otherwise the one the flags ask for. -/
def Arguments.filter (arguments : Arguments) (setting : Option String) : Log.Filter :=
  match setting.bind Log.Filter.parse? with
  | some filter => filter
  | none => [{ target := some "bftape", level := Log.Level.ofVerbosity arguments.verbosity arguments.quiet }]

/-- The log line by line. -/
def formatLog (log : List Log.Line) : String := String.join (log.map fun line => line.render ++ "\n")

def help : String :=
  "Run a tape-language program and print what it outputs

Usage: bftape [OPTIONS] <FILE> [SOURCE_SIZE]

Arguments:
  <FILE>         Source file to run
  [SOURCE_SIZE]  Largest source file accepted, in bytes [default: " ++ toString ({} : Settings).sourceLimit ++ "]

Options:
      --step-limit <STEP_LIMIT>  Stop after this many instructions (unbounded by default)
  -v, --verbose...               More log output on stderr (repeat for more)
  -q, --quiet                    No log output
  -h, --help                     Print help
"

/-- Answers a command line that asks for no run.  One that makes no sense is answered with the first line of what there
is to say about it, without what is for a terminal alone. -/
def Reply.report : Reply → Report
  | help => ⟨0, Command.help.toUTF8.data, ""⟩
  | refusal error => ⟨2, #[], String.join ((Text.plain error.notice).splitOn "\n" |>.take 1) ++ "\n"⟩

/-- What a command line leads to, unless the run that it asks for goes on for more than `fuel` instructions. -/
def execute (fuel : Nat) (world : World) (texts : List String) : Option Report :=
  match Arguments.parse texts with
  | .error reply => some reply.report
  | .ok arguments =>
    run fuel
      { source := world.files.contents arguments.file
        stdin := world.stdin
        refusal := world.refusal
        shows := (arguments.filter world.logFilter).shows
        format := formatLog }
      arguments

end TapeMachine.Command
