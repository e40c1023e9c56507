/-!
# Text for a terminal

A text that is written for a terminal holds control characters and sequences of them besides what is to be read.
`plain` is what is left without them.

An escape character begins a sequence wherever it stands, and cancel and substitute break one off.  A sequence is an
escape sequence, which ends with its first final character; a control sequence, behind a bracket, which ends with its
first final character too; or a control string, which goes on until something ends it.  Of the control characters,
those for layout (tab, line feed, form feed and carriage return) are text, also inside the first two kinds.
-/

namespace TapeMachine.Text

/-- How a piece of text stands out. -/
inductive Style
  | bold
  | yellow
deriving DecidableEq, Repr

namespace Style

/-- The sequence that turns it on. -/
def sequence : Style → String
  | bold => "\x1b[1m"
  | yellow => "\x1b[33m"

/-- The text in this style, back to the usual one behind it. -/
def apply (style : Style) (text : String) : String := style.sequence ++ text ++ "\x1b[0m"

end Style

def isLayout (c : Char) : Bool := c == '\t' || c == '\n' || c == '\x0c' || c == '\r'

/-- Is text where no sequence is open.  Outside ASCII everything is. -/
def isText (c : Char) : Bool := isLayout c || (0x20 ≤ c.toNat && c.toNat != 0x7f)

/-- What is open at some place of a text for a terminal. -/
inductive Phase
  | text
  | escape
  /-- An escape sequence that has some of its intermediate characters. -/
  | intermediate
  | controlSequence
  /-- A control string for the system that runs the terminal. -/
  | systemString
  /-- A control string for a device: its beginning, which ends with a final character of its own. -/
  | device
  | deviceParameters
  | deviceIntermediate
  | controlString
deriving DecidableEq, Repr

namespace Phase

/-- Whether a character is text. -/
def shows (phase : Phase) (c : Char) : Bool :=
  match phase with
  | text => isText c
  | escape | intermediate | controlSequence => isLayout c
  | _ => false

/-- What is open behind an escape character and one more. -/
def ofEscaped (c : Char) : Phase :=
  match c with
  | '[' => controlSequence
  | ']' => systemString
  | 'P' => device
  | 'X' | '^' | '_' => controlString
  | c =>
    if ' ' ≤ c && c ≤ '/' then intermediate
    else if '0' ≤ c && c ≤ '~' then text
    else escape

/-- What is open behind one more character. -/
def next (phase : Phase) (c : Char) : Phase :=
  if c == '\x18' || c == '\x1a' then text
  else if c == '\x1b' then escape
  else
    match phase with
    | text => text
    | escape => ofEscaped c
    | intermediate => if '0' ≤ c && c ≤ '~' then text else intermediate
    | controlSequence => if '@' ≤ c && c ≤ '~' then text else controlSequence
    | systemString => if c == '\x07' then text else systemString
    | device =>
      if ' ' ≤ c && c ≤ '/' then deviceIntermediate
      else if c == ':' || ('@' ≤ c && c ≤ '~') then controlString
      else if '0' ≤ c && c ≤ '?' then deviceParameters
      else device
    | deviceParameters =>
      if ' ' ≤ c && c ≤ '/' then deviceIntermediate
      else if c.isDigit || c == ';' then deviceParameters
      else if ':' ≤ c && c ≤ '~' then controlString
      else deviceParameters
    | deviceIntermediate => if '0' ≤ c && c ≤ '~' then controlString else deviceIntermediate
    | controlString => if (String.utf8EncodeChar c).contains 0x9c then text else controlString

end Phase

/-- The text in the rest of a text for a terminal.  In a `run`, what came last was text: then what follows is text as
if no sequence were open, up to the next character that is none.  A character outside ASCII closes the sequence. -/
def plainFrom (phase : Phase) (run : Bool) : List Char → List Char
  | [] => []
  | c :: rest =>
    if run && isText c then c :: plainFrom (if c.toNat < 0x80 then phase else .text) true rest
    else if phase.shows c then c :: plainFrom (phase.next c) true rest
    else plainFrom (phase.next c) false rest

def plain (text : String) : String := String.ofList (plainFrom .text false text.toList)

end TapeMachine.Text
