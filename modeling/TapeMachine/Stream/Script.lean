import TapeMachine.Stream

/-!
# Scripted streams

The answers to the calls on a stream are laid down in advance, one list for each kind of call, and all calls that
matter to an observer are kept in order.  A read or a write that is interrupted is tried again with the next answer;
a flush is not.  After the last answer the input is at its end and every write and flush succeeds.
-/

namespace TapeMachine

/-- The answer to one read call. -/
inductive ReadAnswer
  | byte (value : UInt8)
  | endOfInput
  | fail (cause : IoError)
deriving DecidableEq, Repr

/-- The answer to one write call. -/
inductive WriteAnswer
  | accept
  /-- The call succeeds but takes no byte. -/
  | takeNothing
  | fail (cause : IoError)
deriving DecidableEq, Repr

/-- The answer to one flush call. -/
inductive FlushAnswer
  | done
  | fail (cause : IoError)
deriving DecidableEq, Repr

/-- What happened on the streams. -/
inductive StreamEvent
  | accepted (byte : UInt8)
  | flushed
  /-- A read call was made, whatever its answer. -/
  | readCall
deriving DecidableEq, Repr

structure Script where
  reads : List ReadAnswer := []
  writes : List WriteAnswer := []
  flushes : List FlushAnswer := []
  events : Array StreamEvent := #[]
  /-- How many writes were accepted. -/
  accepted : Nat := 0
deriving DecidableEq, Repr

namespace Script

/-- Makes read calls until one is not interrupted.  The result comes with the answers and the events after it. -/
def pull : List ReadAnswer → Array StreamEvent →
    Except IoError (Option UInt8) × List ReadAnswer × Array StreamEvent
  | [], events => (.ok none, [], events.push .readCall)
  | .byte value :: rest, events => (.ok (some value), rest, events.push .readCall)
  | .endOfInput :: rest, events => (.ok none, rest, events.push .readCall)
  | .fail .interrupted :: rest, events => pull rest (events.push .readCall)
  | .fail cause :: rest, events => (.error cause, rest, events.push .readCall)

/-- Makes write calls until one is not interrupted.  The result comes with the answers after it. -/
def push : List WriteAnswer → Except IoError Unit × List WriteAnswer
  | [] => (.ok (), [])
  | .accept :: rest => (.ok (), rest)
  | .takeNothing :: rest => (.error .wroteNothing, rest)
  | .fail .interrupted :: rest => push rest
  | .fail cause :: rest => (.error cause, rest)

def read (s : Script) : Except IoError (Option UInt8) × Script :=
  match pull s.reads s.events with
  | (result, reads, events) => (result, { s with reads, events })

def write (byte : UInt8) (s : Script) : Except IoError Unit × Script :=
  match push s.writes with
  | (.ok (), writes) =>
    (.ok (), { s with writes, events := s.events.push (.accepted byte), accepted := s.accepted + 1 })
  | (.error cause, writes) => (.error cause, { s with writes })

def flush (s : Script) : Except IoError Unit × Script :=
  match s.flushes with
  | [] => (.ok (), { s with events := s.events.push .flushed })
  | .done :: flushes => (.ok (), { s with flushes, events := s.events.push .flushed })
  | .fail cause :: flushes => (.error cause, { s with flushes })

instance : Host Script where
  read := read
  write := write
  flush := flush

end Script

end TapeMachine
