import TapeMachine.Counter
import TapeMachine.Stream

/-!
# Loading a source text

A source text is the contents of a file no larger than a limit, which must be UTF-8.  The size is looked at first, and
one byte past the limit is enough to tell that the file is too large.  What there is at a path, a file with its bytes or
a reason why there is nothing to read, is known beforehand.
-/

namespace TapeMachine

/-- Why a source text cannot be loaded. -/
inductive LoadError
  | unreadable (path : String) (cause : IoError)
  | tooLarge (path : String) (limit : Nat)
deriving DecidableEq, Repr

namespace LoadError

def message : LoadError → String
  | unreadable path cause => "cannot read " ++ path ++ ": " ++ cause.message
  | tooLarge path limit => path ++ " exceeds the source size limit of " ++ toString limit ++ " bytes"

end LoadError

namespace Source

/-- The first bytes of a file, enough of them to see whether the file is larger than the limit.  Past the greatest limit
the count of them begins again, so that there are none. -/
def sample (limit : Nat) (contents : ByteArray) : ByteArray := contents.extract 0 (Counter.wrap (limit + 1))

/-- What was read of a file, if it is not too large. -/
def accept (path : String) (limit : Nat) : Except IoError ByteArray → Except LoadError ByteArray
  | .error cause => .error (.unreadable path cause)
  | .ok bytes => if limit < bytes.size then .error (.tooLarge path limit) else .ok bytes

/-- The text that the bytes of a file stand for. -/
def decode (path : String) (bytes : ByteArray) : Except LoadError String :=
  match String.fromUTF8? bytes with
  | some text => .ok text
  | none => .error (.unreadable path (.notUtf8 (Text.Utf8.fault bytes.toList)))

/-- Loads what is found at a path. -/
def load (path : String) (limit : Nat) (found : Except IoError ByteArray) : Except LoadError String :=
  match accept path limit (found.map (sample limit)) with
  | .ok bytes => decode path bytes
  | .error cause => .error cause

end Source

end TapeMachine
