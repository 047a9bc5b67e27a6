import CallMonitor.Text.Utf8

/-!
The lexical parts of JSON texts, read from bytes: white space, punctuation, literals, strings and
numbers. A reader returns what it read and the bytes it left. Strings must be valid UTF-8 without
raw controls, and surrogate escapes must come in pairs.
-/

namespace CallMonitor.Json

open CallMonitor.Text

abbrev Reader (α : Type) := Bytes → Option (α × Bytes)

def isSpace (byte : UInt8) : Bool :=
  byte == 0x20 || byte == 0x09 || byte == 0x0A || byte == 0x0D

def skipSpace (bytes : Bytes) : Bytes := bytes.dropWhile isSpace

def expect (mark : UInt8) (bytes : Bytes) : Option Bytes :=
  match skipSpace bytes with
  | [] => none
  | byte :: rest => if byte = mark then some rest else none

def expectWord : Bytes → Bytes → Option Bytes
  | [], bytes => some bytes
  | _ :: _, [] => none
  | letter :: word, byte :: rest => if byte = letter then expectWord word rest else none

def nullWord : Bytes := [0x6E, 0x75, 0x6C, 0x6C]

def hexValue (byte : UInt8) : Option Nat :=
  let n := byte.toNat
  if 0x30 ≤ n ∧ n ≤ 0x39 then some (n - 0x30)
  else if 0x61 ≤ n ∧ n ≤ 0x66 then some (n - 0x61 + 10)
  else if 0x41 ≤ n ∧ n ≤ 0x46 then some (n - 0x41 + 10)
  else none

def readUnit : Reader Nat
  | a :: b :: c :: d :: rest =>
      match hexValue a, hexValue b, hexValue c, hexValue d with
      | some a, some b, some c, some d => some (((a * 16 + b) * 16 + c) * 16 + d, rest)
      | _, _, _, _ => none
  | _ => none

def isHighSurrogate (unit : Nat) : Bool := decide (0xD800 ≤ unit ∧ unit ≤ 0xDBFF)

def isLowSurrogate (unit : Nat) : Bool := decide (0xDC00 ≤ unit ∧ unit ≤ 0xDFFF)

def pairChar (high low : Nat) : Char :=
  Char.ofNat (0x10000 + (high - 0xD800) * 0x400 + (low - 0xDC00))

/-- The character after a backslash and a `u`: one unit, or a surrogate pair as two escapes. -/
def readUnicodeEscape (bytes : Bytes) : Option (Char × Bytes) :=
  match readUnit bytes with
  | none => none
  | some (unit, rest) =>
      if isLowSurrogate unit then none
      else if isHighSurrogate unit then
        match rest with
        | slash :: letter :: rest =>
            if slash = 0x5C ∧ letter = 0x75 then
              match readUnit rest with
              | none => none
              | some (low, rest) =>
                  if isLowSurrogate low then some (pairChar unit low, rest) else none
            else none
        | _ => none
      else some (Char.ofNat unit, rest)

def letterEscape (letter : UInt8) : Option Char :=
  if letter = 0x22 then some '\x22'
  else if letter = 0x5C then some '\\'
  else if letter = 0x2F then some '/'
  else if letter = 0x62 then some '\x08'
  else if letter = 0x66 then some '\x0c'
  else if letter = 0x6E then some '\n'
  else if letter = 0x72 then some '\r'
  else if letter = 0x74 then some '\t'
  else none

def readEscape : Reader Char
  | [] => none
  | letter :: rest =>
      if letter = 0x75 then readUnicodeEscape rest
      else (letterEscape letter).map fun c => (c, rest)

theorem read_unit_length {bytes rest : Bytes} {unit : Nat}
    (read : readUnit bytes = some (unit, rest)) : rest.length < bytes.length := by
  unfold readUnit at read
  split at read
  · split at read
    · simp only [Option.some.injEq, Prod.mk.injEq] at read
      obtain ⟨-, rfl⟩ := read
      simp only [List.length_cons]
      omega
    · cases read
  · cases read

theorem read_unicode_escape_length {bytes rest : Bytes} {c : Char}
    (read : readUnicodeEscape bytes = some (c, rest)) : rest.length < bytes.length := by
  unfold readUnicodeEscape at read
  split at read
  · cases read
  · rename_i unit middle first
    have shorter := read_unit_length first
    split at read
    · cases read
    split at read
    · split at read
      · split at read
        · split at read
          · cases read
          · rename_i low last second
            have shorter' := read_unit_length second
            split at read
            · simp only [Option.some.injEq, Prod.mk.injEq] at read
              obtain ⟨-, rfl⟩ := read
              simp only [List.length_cons] at shorter
              omega
            · cases read
        · cases read
      · cases read
    · simp only [Option.some.injEq, Prod.mk.injEq] at read
      obtain ⟨-, rfl⟩ := read
      exact shorter

theorem read_escape_length {bytes rest : Bytes} {c : Char}
    (read : readEscape bytes = some (c, rest)) : rest.length < bytes.length := by
  unfold readEscape at read
  split at read
  · cases read
  · split at read
    · have := read_unicode_escape_length read
      simp only [List.length_cons]
      omega
    · simp only [Option.map_eq_some_iff, Prod.mk.injEq] at read
      obtain ⟨_, -, -, rfl⟩ := read
      simp

/-- The bytes of a string up to its closing quote, escapes resolved; `done` holds those read so
far, last first. -/
def readContent (done : Bytes) (bytes : Bytes) : Option (Bytes × Bytes) :=
  match bytes with
  | [] => none
  | byte :: rest =>
      if byte = 0x22 then some (done.reverse, rest)
      else if byte = 0x5C then
        match escape : readEscape rest with
        | none => none
        | some (c, after) =>
            have := read_escape_length escape
            readContent ((String.utf8EncodeChar c).reverse ++ done) after
      else if byte < 0x20 then none
      else readContent (byte :: done) rest
termination_by bytes.length
decreasing_by
  · simp only [List.length_cons]; omega
  · simp

def readString (bytes : Bytes) : Option (String × Bytes) :=
  match expect 0x22 bytes with
  | none => none
  | some rest =>
      match readContent [] rest with
      | none => none
      | some (content, after) => (decodeUtf8 content).map fun text => (text, after)

def readNullable (bytes : Bytes) : Option (Option String × Bytes) :=
  match skipSpace bytes with
  | 0x6E :: rest => (expectWord [0x75, 0x6C, 0x6C] rest).map fun after => (none, after)
  | start => (readString start).map fun read => (some read.1, read.2)

def isDigit (byte : UInt8) : Bool := decide (0x30 ≤ byte ∧ byte ≤ 0x39)

def digitsValue (digits : Bytes) : Nat :=
  digits.foldl (fun value digit => value * 10 + (digit.toNat - 0x30)) 0

/-- The digits of a whole number: a lone zero, or digits that do not start with one. -/
def readWhole (bytes : Bytes) : Option (Bytes × Bytes) :=
  let digits := bytes.takeWhile isDigit
  match digits with
  | [] => none
  | first :: more =>
      if first = 0x30 ∧ more ≠ [] then none else some (digits, bytes.dropWhile isDigit)

def largestInteger : Nat := 9223372036854775807

/-- A number of 64 bits with sign, white space before it allowed. A fraction, an exponent or a
minus before zero makes the number another kind. -/
def readInteger (bytes : Bytes) : Option (Int × Bytes) :=
  let start := skipSpace bytes
  let negative := start.head? == some 0x2D
  match readWhole (if negative then start.drop 1 else start) with
  | none => none
  | some (digits, rest) =>
      let size := digitsValue digits
      let fractional := rest.head? == some 0x2E || rest.head? == some 0x65 ||
        rest.head? == some 0x45
      if fractional then none
      else if negative then
        if 0 < size ∧ size ≤ largestInteger + 1 then some (-(size : Int), rest) else none
      else if size ≤ largestInteger then some ((size : Int), rest) else none

end CallMonitor.Json
