/-!
# Ill-formed UTF-8

Where a byte sequence that is not UTF-8 goes wrong first.  A lead byte fixes the ranges of the bytes after it
(Unicode, table 3-7), so overlong forms, surrogates and values above U+10FFFF are wrong at their second byte.
Whether bytes are UTF-8 at all, and the text they stand for, is core's `String.fromUTF8?`.
-/

namespace TapeMachine.Text.Utf8

/-- The first ill-formed sequence: the index of its first byte, and how many of its bytes are the beginning of a
character.  There is no such number if the bytes end before it goes wrong. -/
structure Fault where
  start : Nat
  length : Option Nat
deriving DecidableEq, Repr

namespace Fault

def message (f : Fault) : String :=
  match f.length with
  | some n => "invalid utf-8 sequence of " ++ toString n ++ " bytes from index " ++ toString f.start
  | none => "incomplete utf-8 byte sequence from index " ++ toString f.start

end Fault

/-- First and last byte allowed at one place. -/
abbrev ByteRange := UInt8 × UInt8

def continuation : ByteRange := (0x80, 0xbf)

/-- The ranges of the bytes that follow a lead byte. -/
def tail? (lead : UInt8) : Option (List ByteRange) :=
  if lead < 0x80 then some []
  else if lead < 0xc2 then none
  else if lead < 0xe0 then some [continuation]
  else if lead == 0xe0 then some [(0xa0, 0xbf), continuation]
  else if lead == 0xed then some [(0x80, 0x9f), continuation]
  else if lead < 0xf0 then some [continuation, continuation]
  else if lead == 0xf0 then some [(0x90, 0xbf), continuation, continuation]
  else if lead < 0xf4 then some [continuation, continuation, continuation]
  else if lead == 0xf4 then some [(0x80, 0x8f), continuation, continuation]
  else none

/-- The fault in the rest of the bytes, where the last sequence so far began at `start`, has `length` bytes and
still wants bytes in the given ranges.  Well-formed bytes count as cut off at their end. -/
def faultFrom (start length : Nat) : List ByteRange → List UInt8 → Fault
  | [], [] => ⟨start + length, none⟩
  | _ :: _, [] => ⟨start, none⟩
  | [], lead :: rest =>
    match tail? lead with
    | none => ⟨start + length, some 1⟩
    | some ranges => faultFrom (start + length) 1 ranges rest
  | (first, last) :: ranges, byte :: rest =>
    if first ≤ byte && byte ≤ last then faultFrom start (length + 1) ranges rest else ⟨start, some length⟩

def fault (bytes : List UInt8) : Fault := faultFrom 0 0 [] bytes

end TapeMachine.Text.Utf8
