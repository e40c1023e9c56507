import TapeMachine.Command.Execute

/-!
# The command line

Runs a command on the streams of the process.  The machine runs on a console as always; before an instruction that
needs them, what the console keeps back is handed to standard output and the next byte is fetched from standard input.
-/

namespace TapeMachine.Main

/-- How a failure of the operating system is told. -/
def cause (e : IO.Error) : IoError :=
  match e with
  | .noFileOrDirectory .. => .notFound
  | .interrupted .. => .interrupted
  | .inappropriateType _ 20 _ => .notDirectory
  | .inappropriateType _ 21 _ => .isDirectory
  | .resourceExhausted _ 28 _ => .deviceFull
  | .invalidArgument _ 9 _ => .notOpen
  | .invalidArgument _ 36 _ => .nameTooLong
  | e => .other (toString e)

/-- Makes a call on a standard stream, again as long as it is interrupted.  On a stream that is not open it has the
answer given for that. -/
partial def attempt {α : Type} (call : IO α) (unopened : α) : IO (Except Console.Fault α) := do
  try return .ok (← call)
  catch e =>
    let cause := cause e
    if hinterrupted : cause = .interrupted then attempt call unopened
    else if hnotOpen : cause = .notOpen then return .ok unopened
    else return .error ⟨cause, hinterrupted, hnotOpen⟩

/-- The first `count` bytes of a file, or all of it. -/
partial def readUpTo (handle : IO.FS.Handle) (count : Nat) (bytes : ByteArray) : IO ByteArray := do
  if count ≤ bytes.size then return bytes
  let chunk ← handle.read (USize.ofNat (min (count - bytes.size) 65536))
  if chunk.isEmpty then return bytes
  readUpTo handle count (bytes ++ chunk)

def readFile (path : String) (limit : Nat) : IO (Except IoError ByteArray) := do
  if path.toList.contains '\x00' then return .error .nulInName
  try
    let handle ← IO.FS.Handle.mk path .read
    return .ok (← readUpTo handle (Counter.wrap (limit + 1)) ByteArray.empty)
  catch e => return .error (cause e)

/-- Prints the new lines of the log. -/
def showLog (c : Console) : IO Console := do
  (← IO.getStderr).putStr (Command.formatLog c.log.toList)
  return { c with log := #[] }

/-- Hands what is kept back to standard output. -/
def offer (c : Console) : IO Console := do
  if c.kept.isEmpty then return c
  let stdout ← IO.getStdout
  match ← attempt (stdout.write ⟨c.kept⟩) (), ← attempt stdout.flush () with
  | .ok (), .ok () => return { c with kept := #[] }
  | .error fault, _ | _, .error fault => return { c with refusal := some fault }

/-- Fetches the next byte of standard input. -/
def fetch (c : Console) : IO Console := do
  let stdin ← IO.getStdin
  return { c with stdin := (← attempt (stdin.read 1) ByteArray.empty).map ByteArray.toList }

/-- Sees to the streams before the next instruction. -/
def attend (m : Machine) (c : Console) : IO Console := do
  match m.program.instructions[m.ip]? with
  | some .output => if c.kept.size < Console.capacity then return c else offer c
  | some .input =>
    let c ← offer c
    if c.kept.isEmpty then fetch c else return c
  | _ => return c

partial def run (budget : Option Nat) (m : Machine) (c : Console) :
    IO (Except RunError Outcome × Machine × Console) := do
  match Machine.halt? budget none m c with
  | some halt => return (.ok ⟨halt, m.steps⟩, m, c)
  | none =>
    match m.step (← attend m c) with
    | (.ok _, m, c) => run budget m (← showLog c)
    | (.error error, m, c) => return (.error error, m, ← showLog c)

/-- Ends the process with a report. -/
def leave (report : Command.Report) : IO UInt32 := do
  let _ ← attempt ((← IO.getStdout).write ⟨report.stdout⟩) ()
  (← IO.getStderr).putStr report.stderr
  return UInt32.ofNat report.status

def command (texts : List String) : IO UInt32 := do
  match Command.Arguments.parse texts with
  | .error reply => leave reply.report
  | .ok arguments =>
    let filter := arguments.filter (← IO.getEnv "RUST_LOG")
    let found ← readFile arguments.file arguments.settings.sourceLimit
    match Command.prepare arguments found { shows := filter.shows } with
    | (.error failure, c) => leave (Command.report Command.formatLog (.error failure) c)
    | (.ok m, c) =>
      let limits : Limits Console := arguments.settings.limits
      let (ran, m, c) ← run (m.budget limits) m (← showLog c)
      let (result, c) := Command.conclude ran m (← offer c)
      leave (Command.report Command.formatLog result c)

end TapeMachine.Main

def main (texts : List String) : IO UInt32 := TapeMachine.Main.command texts
