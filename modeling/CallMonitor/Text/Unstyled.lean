/-!
Text without escape sequences and control characters, as it is written where styles are of no use.
Only printable characters and blanks are left. A sequence starts with an escape character; a
control sequence, a string of the system, and a string for other devices each end in their own
way.
-/

namespace CallMonitor.Text

/-- Where in a text with escape sequences one stands. -/
inductive Escape
  | outside
  | begun
  /-- After an escape character and some intermediate characters. -/
  | between
  | control
  /-- In a string of the system, which a bell ends. -/
  | system
  /-- In a string that only a new escape character ends. -/
  | device
  deriving DecidableEq, Repr

namespace Escape

def within (low high : Nat) (c : Char) : Bool := low ≤ c.toNat && c.toNat ≤ high

/-- Blanks are left wherever they are carried out at once. -/
def isBlank (c : Char) : Bool :=
  c == '\t' || c == '\n' || c == '\x0c' || c == '\r'

def cancels (c : Char) : Bool := c == '\x18' || c == '\x1a'

def afterBegin (c : Char) : Escape :=
  if c == '[' then control
  else if c == ']' then system
  else if c == 'P' || c == 'X' || c == '^' || c == '_' then device
  else if within 0x20 0x2F c then between
  else if within 0x30 0x7E c then outside
  else begun

def next (position : Escape) (c : Char) : Escape :=
  if c == '\x1b' then begun
  else if cancels c then outside
  else
    match position with
    | outside => outside
    | begun => afterBegin c
    | between => if within 0x30 0x7E c then outside else between
    | control => if within 0x40 0x7E c then outside else control
    | system => if c == '\x07' then outside else system
    | device => device

def keeps (position : Escape) (c : Char) : Bool :=
  match position with
  | outside => isBlank c || within 0x20 0x7E c || 0x80 ≤ c.toNat
  | begun | between | control => isBlank c
  | system | device => false

def strip (position : Escape) : List Char → List Char
  | [] => []
  | c :: rest =>
      let rest := strip (position.next c) rest
      if position.keeps c then c :: rest else rest

end Escape

def unstyled (text : String) : String := String.ofList (Escape.outside.strip text.toList)

end CallMonitor.Text
