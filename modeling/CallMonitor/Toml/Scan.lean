import CallMonitor.Text.Utf8

/-!
The small parts of TOML documents: white space, line ends, comments, and the readers from which
larger readers are made. A reader returns what it read and the characters it left.
-/

namespace CallMonitor.Toml

abbrev Reader (α : Type) := List Char → Option (α × List Char)

def isGap (c : Char) : Bool := c == ' ' || c == '\t'

def skipGap (text : List Char) : List Char := text.dropWhile isGap

/-- Controls that no string and no comment may hold as they are. Tab is none of them. -/
def isControl (c : Char) : Bool :=
  (c.toNat < 0x20 && c != '\t') || c == '\x7f'

def takeLineEnd : List Char → Option (List Char)
  | '\n' :: rest => some rest
  | '\r' :: '\n' :: rest => some rest
  | _ => none

def skipComment : List Char → List Char
  | '#' :: rest => rest.dropWhile fun c => !isControl c
  | text => text

/-- Takes what may stand after a line's content: white space, a comment, and the line's end or the
document's. -/
def takeLineRest (text : List Char) : Option (List Char) :=
  match skipComment (skipGap text) with
  | [] => some []
  | rest => takeLineEnd rest

/-- Drops white space, line ends and comments. A comment must be followed by a line end. -/
def skipBlank : (fuel : Nat) → List Char → Option (List Char)
  | 0, text => some text
  | fuel + 1, text =>
      match skipGap text with
      | '#' :: rest =>
          match takeLineEnd (skipComment ('#' :: rest)) with
          | none => none
          | some rest => skipBlank fuel rest
      | '\n' :: rest => skipBlank fuel rest
      | '\r' :: rest =>
          match takeLineEnd ('\r' :: rest) with
          | none => none
          | some rest => skipBlank fuel rest
      | rest => some rest

def skipLines (text : List Char) : Option (List Char) := skipBlank (text.length + 1) text

def takeWord (word text : List Char) : Option (List Char) :=
  if word.isPrefixOf text then some (text.drop word.length) else none

def isDigit (c : Char) : Bool := decide ('0' ≤ c ∧ c ≤ '9')

def hexValue (c : Char) : Option Nat :=
  if '0' ≤ c ∧ c ≤ '9' then some (c.toNat - 0x30)
  else if 'a' ≤ c ∧ c ≤ 'f' then some (c.toNat - 0x57)
  else if 'A' ≤ c ∧ c ≤ 'F' then some (c.toNat - 0x37)
  else none

def isDigitOf (base : Nat) (c : Char) : Bool :=
  match hexValue c with
  | none => false
  | some value => decide (value < base)

def valueOf (base : Nat) (digits : List Char) : Nat :=
  digits.foldl (fun value c => value * base + (hexValue c).getD 0) 0

def takeDigits (base count : Nat) (text : List Char) : Option (Nat × List Char) :=
  let digits := text.take count
  if digits.length = count ∧ digits.all (isDigitOf base) then
    some (valueOf base digits, text.drop count)
  else none

/-- Digits in a base, and the rest. A single underscore may stand between two digits; it is left
out of what is returned. `inside` says that a digit has just been read. -/
def spanDigitsFrom (base : Nat) (inside : Bool) : List Char → List Char × List Char
  | [] => ([], [])
  | c :: rest =>
      if isDigitOf base c then
        let (digits, left) := spanDigitsFrom base true rest
        (c :: digits, left)
      else if c = '_' ∧ inside ∧ (rest.head?.map (isDigitOf base)).getD false then
        spanDigitsFrom base false rest
      else ([], c :: rest)

def spanDigits (base : Nat) (text : List Char) : List Char × List Char :=
  spanDigitsFrom base false text

end CallMonitor.Toml
