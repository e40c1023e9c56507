import TapeMachine.Counter

/-!
# Numerals

A numeral is an optional plus sign and one or more decimal digits, with a value that fits a 64-bit counter.
`Numeral.read` goes through it from the left: the first place where the text stops to be a numeral or the value stops
to fit decides how it is refused.
-/

namespace TapeMachine.Text

/-- Why a text is no numeral. -/
inductive NumeralError
  | empty
  | invalidDigit
  | tooLarge
deriving DecidableEq, Repr

namespace NumeralError

def message : NumeralError → String
  | empty => "cannot parse integer from empty string"
  | invalidDigit => "invalid digit found in string"
  | tooLarge => "number too large to fit in target type"

end NumeralError

namespace Numeral

def digitValue (c : Char) : Nat := c.toNat - '0'.toNat

/-- The value of a numeral that goes on after digits of the value `n`. -/
def readOnto (n : Nat) : List Char → Except NumeralError Nat
  | [] => .ok n
  | c :: rest =>
    if !c.isDigit then .error .invalidDigit
    else if Counter.max < 10 * n + digitValue c then .error .tooLarge
    else readOnto (10 * n + digitValue c) rest

def readDigits : List Char → Except NumeralError Nat
  | [] => .error .invalidDigit
  | digits => readOnto 0 digits

def read (text : String) : Except NumeralError Nat :=
  match text.toList with
  | [] => .error .empty
  | '+' :: digits => readDigits digits
  | digits => readDigits digits

end Numeral

end TapeMachine.Text
