import TapeMachine.Stream

/-!
# Streams that never fail

Bytes to read and the bytes written so far.  Every call succeeds, and a flush changes nothing.
-/

namespace TapeMachine

structure Pipe where
  unread : List UInt8 := []
  written : Array UInt8 := #[]
deriving DecidableEq, Repr

namespace Pipe

def read (p : Pipe) : Option UInt8 × Pipe :=
  match p.unread with
  | [] => (none, p)
  | byte :: rest => (some byte, { p with unread := rest })

def write (byte : UInt8) (p : Pipe) : Pipe := { p with written := p.written.push byte }

instance : Host Pipe where
  read p := (.ok p.read.1, p.read.2)
  write byte p := (.ok (), p.write byte)
  flush p := (.ok (), p)

@[simp] theorem jumped_eq (source target : Nat) (p : Pipe) : Host.jumped source target p = p := rfl

end Pipe

end TapeMachine
