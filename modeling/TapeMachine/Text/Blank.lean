/-!
# Blank characters

The characters with the Unicode property `White_Space`.  They separate symbols in a source text and mean nothing
themselves.  The characters U+001C to U+001F, U+180E, U+200B and U+FEFF do not have the property.
-/

namespace TapeMachine.Text

/-- Has the Unicode property `White_Space`. -/
def isBlank (c : Char) : Bool :=
  let n := c.toNat
  (0x09 ≤ n && n ≤ 0x0d) || n == 0x20 || n == 0x85 || n == 0xa0 || n == 0x1680 ||
    (0x2000 ≤ n && n ≤ 0x200a) || n == 0x2028 || n == 0x2029 || n == 0x202f || n == 0x205f || n == 0x3000

end TapeMachine.Text
