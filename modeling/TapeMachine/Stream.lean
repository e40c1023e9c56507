import TapeMachine.Text.Utf8

/-!
# Streams

What a machine reads from and writes to.  A host answers three calls, each of which may fail with an `IoError` and
leaves a new state of the host behind: read a byte (or find the input at its end), write a byte, and flush what was
written.  It is also told of every jump, which it may note down.
-/

namespace TapeMachine

/-- Why a call on a stream or a file fails. -/
inductive IoError
  | interrupted
  | wouldBlock
  | brokenPipe
  | unexpectedEnd
  /-- A write that was accepted but took no byte. -/
  | wroteNothing
  | deviceFull
  | isDirectory
  | notDirectory
  | notFound
  | nameTooLong
  | nulInName
  /-- The stream was closed before the program began. -/
  | notOpen
  | notUtf8 (fault : Text.Utf8.Fault)
  | other (text : String)
deriving DecidableEq, Repr

namespace IoError

def message : IoError → String
  | interrupted => "operation interrupted"
  | wouldBlock => "operation would block"
  | brokenPipe => "broken pipe"
  | unexpectedEnd => "unexpected end of file"
  | wroteNothing => "failed to write whole buffer"
  | deviceFull => "No space left on device (os error 28)"
  | isDirectory => "Is a directory (os error 21)"
  | notDirectory => "Not a directory (os error 20)"
  | notFound => "No such file or directory (os error 2)"
  | nameTooLong => "File name too long (os error 36)"
  | nulInName => "file name contained an unexpected NUL byte"
  | notOpen => "Bad file descriptor (os error 9)"
  | notUtf8 fault => fault.message
  | other text => text

end IoError

class Host (σ : Type) where
  /-- The next byte, or nothing at the end of the input. -/
  read : σ → Except IoError (Option UInt8) × σ
  write : UInt8 → σ → Except IoError Unit × σ
  flush : σ → Except IoError Unit × σ
  /-- A jump from one loop end to its partner. -/
  jumped : (source target : Nat) → σ → σ := fun _ _ s => s

end TapeMachine
