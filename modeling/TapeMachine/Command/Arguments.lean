import TapeMachine.Command.Count
import TapeMachine.Command.Run
import TapeMachine.Text.Terminal

/-!
# Command-line arguments

The command line is `<FILE> [SOURCE_SIZE] [--step-limit <STEP_LIMIT>] [-v|--verbose]... [-q|--quiet] [-h|--help]`, in
any order.  It is read from the left.  A value waits to be checked until the next option or the next operand is met, or
the line ends, so that a value is refused before what comes after it; only an argument that nothing can be made of is
refused at once.  The help flag ends the reading where it is met.  What concerns the whole line, flags that exclude each
other and a missing file, comes last.
-/

namespace TapeMachine.Command

/-- What is given by a count. -/
inductive Quantity
  | sourceSize
  | stepLimit
deriving DecidableEq, Repr

/-- What takes a value. -/
inductive Parameter
  | file
  | count (quantity : Quantity)
deriving DecidableEq, Repr

inductive Flag
  | verbose
  | quiet
  | help
deriving DecidableEq, Repr

namespace Quantity

def label : Quantity → String
  | sourceSize => "[SOURCE_SIZE]"
  | stepLimit => "--step-limit <STEP_LIMIT>"

/-- Its name in a sentence. -/
def what : Quantity → String
  | sourceSize => "source size"
  | stepLimit => "step limit"

end Quantity

namespace Parameter

def label : Parameter → String
  | file => "<FILE>"
  | count quantity => quantity.label

end Parameter

namespace Flag

def label : Flag → String
  | verbose => "--verbose..."
  | quiet => "--quiet"
  | help => "--help"

def ofShort? : Char → Option Flag
  | 'v' => some verbose
  | 'q' => some quiet
  | 'h' => some help
  | _ => none

def ofLong? : String → Option Flag
  | "verbose" => some verbose
  | "quiet" => some quiet
  | "help" => some help
  | _ => none

end Flag

inductive UsageError
  | fileMissing
  | valueMissing (parameter : Parameter)
  | unexpectedArgument (argument : String)
  | unexpectedValue (value : String) (flag : Flag)
  | invalidCount (value : String) (quantity : Quantity) (cause : CountError)
  | stepLimitRepeated
  | quietRepeated
  /-- Two flags that exclude each other, in their order. -/
  | excluded (first second : Flag)
deriving DecidableEq, Repr

namespace UsageError

/-- What is at fault, in quotes. -/
def atFault (text : String) : String := "'" ++ Text.Style.yellow.apply text ++ "'"

/-- What is to be written as it is, in quotes. -/
def literal (text : String) : String := "'" ++ Text.Style.bold.apply text ++ "'"

/-- The message, for a terminal. -/
def message : UsageError → String
  | fileMissing => "the following required arguments were not provided:"
  | valueMissing parameter => "a value is required for " ++ atFault parameter.label ++ " but none was supplied"
  | unexpectedArgument argument => "unexpected argument " ++ atFault argument ++ " found"
  | unexpectedValue value flag =>
    "unexpected value " ++ atFault value ++ " for " ++ literal flag.label ++ " found; no more were expected"
  | invalidCount value quantity cause =>
    "invalid value " ++ atFault value ++ " for " ++ literal quantity.label ++ ": " ++ cause.message quantity.what
  | stepLimitRepeated => "the argument " ++ atFault Quantity.stepLimit.label ++ " cannot be used multiple times"
  | quietRepeated => "the argument " ++ atFault Flag.quiet.label ++ " cannot be used multiple times"
  | excluded first second =>
    "the argument " ++ atFault first.label ++ " cannot be used with " ++ atFault second.label

/-- The message with what is around it: what kind of message it is, and where to find help. -/
def notice (error : UsageError) : String :=
  "error: " ++ error.message ++ "\n\nFor more information, try " ++ literal "--help" ++ ".\n"

end UsageError

/-- What a command line is answered with if it asks for no run. -/
inductive Reply
  | help
  | refusal (error : UsageError)
deriving DecidableEq, Repr

/-! ### The shapes of an argument -/

inductive Argument
  /-- A name behind two dashes, and what stands behind an equals sign after it. -/
  | long (name : String) (value : Option String)
  /-- Letters behind one dash. -/
  | short (letters : List Char)
  /-- Two dashes alone: all that follows are operands. -/
  | endOfOptions
  | plain (text : String)
deriving DecidableEq, Repr

namespace Argument

/-- Splits behind the name of a long option. -/
def ofLong (text : List Char) : Argument :=
  match text.dropWhile (· != '=') with
  | [] => long (String.ofList text) none
  | _ :: value => long (String.ofList (text.takeWhile (· != '='))) (some (String.ofList value))

/-- A dash alone is plain. -/
def ofString (text : String) : Argument :=
  match text.toList with
  | ['-', '-'] => endOfOptions
  | '-' :: '-' :: rest => ofLong rest
  | '-' :: letter :: letters => short (letter :: letters)
  | _ => plain text

end Argument

/-! ### Reading the line -/

/-- What is known of a command line after some of its arguments. -/
structure Reading where
  file : Option String := none
  sourceSize : Option Nat := none
  stepLimit : Option Nat := none
  verbosity : Nat := 0
  /-- The flags given so far, each at its latest place. -/
  flags : List Flag := []
  /-- The parameter met last, with its value if that has been met too, not yet checked. -/
  waiting : Option (Parameter × Option String) := none
  /-- The operands not met yet. -/
  operands : List Parameter := [.file, .count .sourceSize]
  optionsEnded : Bool := false
deriving DecidableEq, Repr

namespace Reading

/-- Reads a count that is given for a quantity. -/
def readCount (quantity : Quantity) (value : String) : Except Reply Nat :=
  match Command.readCount value with
  | .ok n => .ok n
  | .error cause => .error (.refusal (.invalidCount value quantity cause))

/-- Takes a value for a parameter. -/
def assign (r : Reading) (value : String) : Parameter → Except Reply Reading
  | .file => if value.isEmpty then .error (.refusal (.valueMissing .file)) else .ok { r with file := some value }
  | .count .sourceSize => (readCount .sourceSize value).map fun n => { r with sourceSize := some n }
  | .count .stepLimit =>
    if r.stepLimit.isSome then .error (.refusal .stepLimitRepeated)
    else (readCount .stepLimit value).map fun n => { r with stepLimit := some n }

/-- Checks what is waiting. -/
def settle (r : Reading) : Except Reply Reading :=
  match r.waiting with
  | none => .ok r
  | some (parameter, none) => .error (.refusal (.valueMissing parameter))
  | some (parameter, some value) => { r with waiting := none }.assign value parameter

/-- Takes a flag.  Only the verbose flag may be repeated, and behind the help flag nothing is read any more. -/
def raise (r : Reading) (flag : Flag) : Except Reply Reading :=
  match r.settle with
  | .error cause => .error cause
  | .ok r =>
    match flag with
    | .verbose => .ok { r with verbosity := r.verbosity + 1, flags := r.flags.erase .verbose ++ [.verbose] }
    | .quiet =>
      if r.flags.contains .quiet then .error (.refusal .quietRepeated)
      else .ok { r with flags := r.flags ++ [.quiet] }
    | .help => .error .help

/-- Takes the flags of a cluster of letters. -/
def raiseAll (r : Reading) : List Char → Except Reply Reading
  | [] => .ok r
  | letter :: rest =>
    match Flag.ofShort? letter with
    | none => .error (.refusal (.unexpectedArgument (String.ofList ['-', letter])))
    | some flag =>
      match r.raise flag with
      | .ok r => r.raiseAll rest
      | .error cause => .error cause

/-- Takes the step limit option. -/
def expectStepLimit (r : Reading) (value : Option String) : Except Reply Reading :=
  match r.settle with
  | .error cause => .error cause
  | .ok r =>
    let r := { r with waiting := some (.count .stepLimit, value) }
    if value.isSome then r.settle else .ok r

def takeLong (r : Reading) (name : String) (value : Option String) : Except Reply Reading :=
  if name == "step-limit" then r.expectStepLimit value
  else
    match Flag.ofLong? name, value with
    | none, _ => .error (.refusal (.unexpectedArgument ("--" ++ name)))
    | some flag, some value => .error (.refusal (.unexpectedValue value flag))
    | some flag, none => r.raise flag

/-- Takes an operand. -/
def takeOperand (r : Reading) (text : String) : Except Reply Reading :=
  match r.operands with
  | [] => .error (.refusal (.unexpectedArgument text))
  | parameter :: operands =>
    match r.settle with
    | .error cause => .error cause
    | .ok r => .ok { r with waiting := some (parameter, some text), operands }

/-- Takes a text that is no option: the value that an option waits for, or else an operand. -/
def takePlain (r : Reading) (text : String) : Except Reply Reading :=
  match r.waiting with
  | some (parameter, none) => .ok { r with waiting := some (parameter, some text) }
  | _ => r.takeOperand text

def take (r : Reading) (text : String) : Except Reply Reading :=
  if r.optionsEnded then r.takeOperand text
  else
    match Argument.ofString text with
    | .long name value => r.takeLong name value
    | .short letters => r.raiseAll letters
    | .endOfOptions => .ok { r with optionsEnded := true }
    | .plain text => r.takePlain text

/-- What the whole line comes to. -/
def finish (r : Reading) : Except Reply Arguments :=
  match r.settle with
  | .error cause => .error cause
  | .ok r =>
    match r.flags, r.file with
    | first :: second :: _, _ => .error (.refusal (.excluded first second))
    | _, none => .error (.refusal .fileMissing)
    | flags, some file =>
      .ok {
        file
        settings := { sourceLimit := r.sourceSize.getD ({} : Settings).sourceLimit, stepLimit := r.stepLimit }
        verbosity := r.verbosity
        quiet := flags.contains .quiet
      }

end Reading

def Arguments.parse (texts : List String) : Except Reply Arguments :=
  match texts.foldlM Reading.take {} with
  | .ok r => r.finish
  | .error cause => .error cause

end TapeMachine.Command
