import CallMonitor.Toml.Scan

/-!
The four kinds of TOML strings. A basic string, between quotes, has escapes; a literal string,
between apostrophes, has none. Each of the two may also run over several lines, between three
marks; a line end right after the opening marks is not part of it.
-/

namespace CallMonitor.Toml

def charOf (code : Nat) : Option Char :=
  if code < 0xD800 ∨ (0xDFFF < code ∧ code ≤ 0x10FFFF) then some (Char.ofNat code) else none

def readEscape : Reader Char
  | 'b' :: rest => some ('\x08', rest)
  | 't' :: rest => some ('\t', rest)
  | 'n' :: rest => some ('\n', rest)
  | 'f' :: rest => some ('\x0c', rest)
  | 'r' :: rest => some ('\r', rest)
  | '\x22' :: rest => some ('\x22', rest)
  | '\\' :: rest => some ('\\', rest)
  | 'u' :: rest =>
      (takeDigits 16 4 rest).bind fun read => (charOf read.1).map fun c => (c, read.2)
  | 'U' :: rest =>
      (takeDigits 16 8 rest).bind fun read => (charOf read.1).map fun c => (c, read.2)
  | _ => none

def consRead (c : Char) (read : Option (List Char × List Char)) :
    Option (List Char × List Char) :=
  read.map fun (content, rest) => (c :: content, rest)

def readBasic : (fuel : Nat) → Reader (List Char)
  | 0, _ => none
  | _, [] => none
  | fuel + 1, c :: rest =>
      if c = '\x22' then some ([], rest)
      else if c = '\\' then
        match readEscape rest with
        | none => none
        | some (escaped, rest) => consRead escaped (readBasic fuel rest)
      else if isControl c then none
      else consRead c (readBasic fuel rest)

def readLiteral (text : List Char) : Option (List Char × List Char) :=
  let content := text.takeWhile fun c => c != '\x27' && !isControl c
  match text.drop content.length with
  | '\x27' :: rest => some (content, rest)
  | _ => none

/-- Closing marks at the end of a string of several lines: the third mark closes, and up to two
more in front of it belong to the content. `text` follows three marks. -/
def closeLong (mark : Char) (text : List Char) : List Char × List Char :=
  let extra := (text.takeWhile (· == mark)).take 2
  (extra, text.drop extra.length)

def skipFold : List Char → List Char
  | [] => []
  | '\r' :: '\n' :: rest => skipFold rest
  | c :: rest => if isGap c || c == '\n' then skipFold rest else c :: rest

/-- The content of a basic string of several lines and what follows its closing quotes. A
backslash at the end of a line takes away the line end and all white space after it. -/
def readLongBasic : (fuel : Nat) → Reader (List Char)
  | 0, _ => none
  | _, [] => none
  | _ + 1, '\x22' :: '\x22' :: '\x22' :: rest => some (closeLong '\x22' rest)
  | fuel + 1, '\r' :: '\n' :: rest => consRead '\n' (readLongBasic fuel rest)
  | fuel + 1, c :: rest =>
      if c = '\\' then
        match takeLineEnd (skipGap rest) with
        | some after => readLongBasic fuel (skipFold after)
        | none =>
            match readEscape rest with
            | none => none
            | some (escaped, rest) => consRead escaped (readLongBasic fuel rest)
      else if c ≠ '\n' ∧ isControl c then none
      else consRead c (readLongBasic fuel rest)

def readLongLiteral : (fuel : Nat) → Reader (List Char)
  | 0, _ => none
  | _, [] => none
  | _ + 1, '\x27' :: '\x27' :: '\x27' :: rest => some (closeLong '\x27' rest)
  | fuel + 1, '\r' :: '\n' :: rest => consRead '\n' (readLongLiteral fuel rest)
  | fuel + 1, c :: rest =>
      if c ≠ '\n' ∧ isControl c then none else consRead c (readLongLiteral fuel rest)

def dropLineEnd (text : List Char) : List Char := (takeLineEnd text).getD text

def readShortString : Reader String
  | '\x22' :: rest =>
      (readBasic rest.length rest).map fun (content, rest) => (String.ofList content, rest)
  | '\x27' :: rest =>
      (readLiteral rest).map fun (content, rest) => (String.ofList content, rest)
  | _ => none

def readString : Reader String
  | '\x22' :: '\x22' :: '\x22' :: rest =>
      (readLongBasic rest.length (dropLineEnd rest)).map fun (content, rest) =>
        (String.ofList content, rest)
  | '\x27' :: '\x27' :: '\x27' :: rest =>
      (readLongLiteral rest.length (dropLineEnd rest)).map fun (content, rest) =>
        (String.ofList content, rest)
  | text => readShortString text

end CallMonitor.Toml
