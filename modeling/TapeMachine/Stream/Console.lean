import TapeMachine.Log.Journal

/-!
# The console

Standard input, standard output and the log of a command.  What is printed is kept back until it is flushed, or until
so much is kept back that the next byte has no room; then all of it goes to the output device at once.  A device that
refuses leaves it kept back.
-/

namespace TapeMachine

/-- Why a standard stream fails for good.  A call that is interrupted is made again, and a stream that is not open
counts as one without any bytes or as one that takes them all, so these are no reasons. -/
structure Console.Fault where
  cause : IoError
  not_interrupted : cause ≠ .interrupted
  not_notOpen : cause ≠ .notOpen

structure Console where
  /-- What is left of standard input, or why every read of it fails. -/
  stdin : Except Console.Fault (List UInt8) := .ok []
  /-- Why the output device takes nothing, if it does not. -/
  refusal : Option Console.Fault := none
  /-- Printed, but kept back from the device. -/
  kept : Array UInt8 := #[]
  /-- Taken by the device. -/
  stdout : Array UInt8 := #[]
  /-- Which lines are logged. -/
  shows : Log.Line → Bool := fun _ => true
  /-- The lines logged so far. -/
  log : Array Log.Line := #[]

namespace Console

/-- How many bytes can be kept back. -/
def capacity : Nat := 8192

def note (line : Log.Line) (c : Console) : Console :=
  if c.shows line then { c with log := c.log.push line } else c

def read (c : Console) : Except IoError (Option UInt8) × Console :=
  match c.stdin with
  | .error fault => (.error fault.cause, c)
  | .ok [] => (.ok none, c)
  | .ok (byte :: rest) => (.ok (some byte), { c with stdin := .ok rest })

/-- Hands what is kept back to the device.  The device is not asked if there is nothing. -/
def flush (c : Console) : Except IoError Unit × Console :=
  if c.kept.isEmpty then (.ok (), c)
  else
    match c.refusal with
    | some fault => (.error fault.cause, c)
    | none => (.ok (), { c with kept := #[], stdout := c.stdout ++ c.kept })

def write (byte : UInt8) (c : Console) : Except IoError Unit × Console :=
  match if c.kept.size < capacity then (.ok (), c) else c.flush with
  | (.ok (), c) => (.ok (), { c with kept := c.kept.push byte })
  | (.error cause, c) => (.error cause, c)

instance : Host Console where
  read := read
  write := write
  flush := flush
  jumped source target := note (.jump source target)

end Console

end TapeMachine
