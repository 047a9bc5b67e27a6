import CallMonitor.Toml.Item
import CallMonitor.Toml.Number
import CallMonitor.Toml.Scan

/-!
Writing the parts of TOML documents. A text is written in the kind of string that needs the fewest
escapes: literal if it has quotes or backslashes and can be literal, otherwise basic; on several
lines if it has line feeds. A list of two or more values gets a line for each.
-/

namespace CallMonitor.Toml

def unicodeDigits (code : Nat) : List Char :=
  let digits := (Nat.toDigits 16 code).map Char.toUpper
  List.replicate (4 - digits.length) '0' ++ digits

/-- One character inside a basic string. In a string of several lines a line feed stands as it
is. -/
def escapeChar (long : Bool) (c : Char) : List Char :=
  if c = '\x08' then ['\\', 'b']
  else if c = '\t' then ['\\', 't']
  else if c = '\n' then if long then ['\n'] else ['\\', 'n']
  else if c = '\x0c' then ['\\', 'f']
  else if c = '\r' then ['\\', 'r']
  else if c = '\x22' then ['\\', '\x22']
  else if c = '\\' then ['\\', '\\']
  else if c.toNat ≤ 0x1F ∨ c = '\x7f' then ['\\', 'u'] ++ unicodeDigits c.toNat
  else [c]

/-- The length of the longest run of apostrophes; `current` is that of the run left open. -/
def longestApostrophes (current longest : Nat) : List Char → Nat
  | [] => longest
  | c :: rest =>
      if c = '\x27' then longestApostrophes (current + 1) (max longest (current + 1)) rest
      else longestApostrophes 0 longest rest

inductive Style
  | basic
  | longBasic
  | literal
  | longLiteral
  deriving DecidableEq, Repr

/-- Whether a literal string can hold a text: no controls but tab and line feed, no three
apostrophes in a row, and none at the end. -/
def fitsLiteral (text : List Char) : Bool :=
  text.all (fun c => c == '\n' || !isControl c) &&
    decide (longestApostrophes 0 0 text < 3) && text.getLast? != some '\x27'

def styleOf (text : List Char) : Style :=
  let lines := text.contains '\n'
  if (text.contains '\x22' || text.contains '\\') && fitsLiteral text then
    if lines || text.contains '\x27' then .longLiteral else .literal
  else if lines then .longBasic else .basic

/-- A text as a string of the chosen style. A string of several lines starts on a line of its
own if the text has line feeds. -/
def writeText (text : String) : String :=
  let chars := text.toList
  let opening : List Char := if chars.contains '\n' then ['\n'] else []
  String.ofList <|
    match styleOf chars with
    | .basic => ['\x22'] ++ chars.flatMap (escapeChar false) ++ ['\x22']
    | .longBasic =>
        List.replicate 3 '\x22' ++ opening ++ chars.flatMap (escapeChar true) ++
          List.replicate 3 '\x22'
    | .literal => ['\x27'] ++ chars ++ ['\x27']
    | .longLiteral => List.replicate 3 '\x27' ++ opening ++ chars ++ List.replicate 3 '\x27'

def writeList (items : List String) : String :=
  match items with
  | [] => "[]"
  | [item] => "[" ++ item ++ "]"
  | items => "[\n" ++ String.join (items.map fun item => "    " ++ item ++ ",\n") ++ "]"

def writePair (key value : String) : String := key ++ " = " ++ value ++ "\n"

def writeSection (name : String) (lines : List String) : String :=
  "[" ++ name ++ "]\n" ++ String.join lines

def writeNumber (n : Nat) : Option String :=
  if n ≤ largest then some (toString n) else none

end CallMonitor.Toml
