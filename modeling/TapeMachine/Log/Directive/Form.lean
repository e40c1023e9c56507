import TapeMachine.Log.Directive
import TapeMachine.Text.Alphanumeric
import TapeMachine.Text.Blank
import TapeMachine.Text.Numeral

/-!
# The form of a log directive

A directive is written in one of the forms

* `LEVEL`, for all lines;
* `TARGET`, for all levels of a target;
* `TARGET=LEVEL`;
* `TARGET[SPAN]`, `TARGET[{KEY}]` or `TARGET[{KEY=VALUE}]`, where the last two may name a span before the brace, the
  target may be missing, and an equals sign and a level may follow.

The form is made out without the blanks around it, but its parts are then cut out of the whole text at the same
numbers of bytes.  So blanks behind it belong to its last part, and with blanks before it the parts are not those
meant.
-/

namespace TapeMachine.Log.Directive

/-- A part of a text: the number of bytes before it, and that of the bytes up to its end. -/
structure Part where
  start : Nat
  stop : Nat
deriving DecidableEq, Repr

/-- Cuts a part out of a text, unless that would cut a character. -/
def Part.cut? (text : String) (part : Part) : Option String :=
  String.fromUTF8? (text.toUTF8.extract part.start part.stop)

inductive Form
  /-- A level or a target. -/
  | word
  /-- Where the parts are, and where the level starts. -/
  | parts (target span demand : Option Part) (level : Option Nat)
deriving DecidableEq, Repr

namespace Form

/-- May stand at the beginning, in front of everything but a bracket. -/
def isStart (c : Char) : Bool := Text.isAlphanumeric c || c == '-' || c == ':' || c == '_'

def isInTarget (c : Char) : Bool := c != '=' && c != '['

def isInSpan (c : Char) : Bool := c != ']' && c != '\x7b'

def isInDemand (c : Char) : Bool := c != '\x7d'

/-- The number of bytes. -/
def size (cs : List Char) : Nat := (String.ofList cs).utf8ByteSize

/-- The form with these parts, given what follows the bracket that ends them, which is `start` bytes from the
beginning. -/
def closed? (target span demand : Option Part) (start : Nat) : List Char → Option Form
  | [] => some (parts target span demand none)
  | '=' :: _ => some (parts target span demand (some (start + 1)))
  | _ => none

/-- The form with a target, given what follows the bracket that opens behind it. -/
def bracketed? (target : Option Part) (start : Nat) (cs : List Char) : Option Form :=
  let span := cs.takeWhile isInSpan
  let spanEnd := start + size span
  match cs.dropWhile isInSpan with
  | [] => none
  | ']' :: rest => closed? target (some ⟨start, spanEnd⟩) none (spanEnd + 1) rest
  | _ :: rest =>
    let demand := rest.takeWhile isInDemand
    let demandEnd := spanEnd + 1 + size demand
    match demand, rest.dropWhile isInDemand with
    | _ :: _, _ :: ']' :: rest =>
      let span? : Option Part := if span.isEmpty then none else some ⟨start, spanEnd⟩
      closed? target span? (some ⟨spanEnd + 1, demandEnd⟩) (demandEnd + 2) rest
    | _, _ => none

/-- Makes out the form of a text without blanks around it. -/
def ofTrimmed? (cs : List Char) : Option Form :=
  let target := cs.takeWhile isInTarget
  match target, cs.dropWhile isInTarget with
  | [], '[' :: rest => bracketed? none 1 rest
  | [], _ => none
  | c :: _, rest =>
    let targetEnd := size target
    if !isStart c then none
    else
      match rest with
      | [] => some word
      | '[' :: rest => bracketed? (some ⟨0, targetEnd⟩) (targetEnd + 1) rest
      | _ => some (parts (some ⟨0, targetEnd⟩) none none (some (targetEnd + 1)))

def trim (cs : List Char) : List Char := (cs.dropWhile Text.isBlank).reverse.dropWhile Text.isBlank |>.reverse

def ofString? (text : String) : Option Form := ofTrimmed? (trim text.toList)

end Form

/-! ### Its parts -/

/-- A level in words of either case or as a number from 0, for none, to 5. -/
def level? (text : String) : Option (Option Level) :=
  match text.toLower with
  | "off" => some none
  | "error" => some (some .error)
  | "warn" => some (some .warn)
  | "info" => some (some .info)
  | "debug" => some (some .debug)
  | "trace" => some (some .trace)
  | _ =>
    match Text.Numeral.read text with
    | .ok 0 => some none
    | .ok 1 => some (some .error)
    | .ok 2 => some (some .warn)
    | .ok 3 => some (some .info)
    | .ok 4 => some (some .debug)
    | .ok 5 => some (some .trace)
    | _ => none

/-- A key alone, or one with a value behind an equals sign. -/
def readDemand (text : String) : Demand :=
  let key := String.ofList (text.toList.takeWhile (· != '='))
  match text.toList.dropWhile (· != '=') with
  | [] => { key }
  | _ :: value => { key, value := some (String.ofList (value.takeWhile (· != '='))) }

/-- Cuts a part out of a text if there is one. -/
def cutAny? (text : String) : Option Part → Option (Option String)
  | none => some none
  | some part => (part.cut? text).map some

/-- Reads the level that starts behind some bytes.  All levels are meant where none is written. -/
def levelFrom? (text : String) : Option Nat → Option (Option Level)
  | none => some (some .trace)
  | some start =>
    match (Part.mk start text.utf8ByteSize).cut? text with
    | none => none
    | some "" => some (some .trace)
    | some level => level? level

def parse? (text : String) : Option Directive :=
  match Form.ofString? text with
  | none => none
  | some .word => some ((level? text).elim { target := some text } fun level => { level })
  | some (.parts target span demand level) => do
    let target ← cutAny? text target
    let span ← cutAny? text span
    let demand ← cutAny? text demand
    let level ← levelFrom? text level
    return { target, span, demand := demand.map readDemand, level }

end TapeMachine.Log.Directive
