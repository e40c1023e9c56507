import TapeMachine.Text.Shapeless

/-!
# A character in quotes

How a message shows one character: between single quotes, with short escapes for the five control and quoting
characters that have one, by code point if it has no shape of its own, and as it is otherwise.
-/

namespace TapeMachine.Text

/-- A number in lower case hexadecimal digits, without leading zeros. -/
def hexNumeral (n : Nat) : String := String.ofList (Nat.toDigits 16 n)

/-- What stands between the quotes.  A double quote needs no escape there. -/
def escaped (c : Char) : String :=
  match c.toNat with
  | 0x00 => "\\0"
  | 0x09 => "\\t"
  | 0x0a => "\\n"
  | 0x0d => "\\r"
  | 0x27 => "\\'"
  | 0x5c => "\\\\"
  | n => if isShapeless c then "\\u\x7b" ++ hexNumeral n ++ "\x7d" else c.toString

def quoted (c : Char) : String := "'" ++ escaped c ++ "'"

end TapeMachine.Text
